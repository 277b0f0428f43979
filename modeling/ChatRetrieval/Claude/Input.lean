import ChatRetrieval.Claude.Wire
import ChatRetrieval.Message.Turn
import ChatRetrieval.Text.DataUrl

/-!
Messages as the turns of a Claude conversation. Tool results are said by the user's side; reasoning
goes back only together with its signature.
-/

namespace ChatRetrieval.Claude

def provider : String := "claude"

def signatureKey : String := "claude-thinking-signature"

/-- The signature of the thinking a message's reasoning came from. -/
def thinkingSignature? (m : Message) : Option String := (m.extra.get? signatureKey).bind Json.asString?

def setThinkingSignature (m : Message) (signature : String) : Message :=
  m.setExtra signatureKey (.str signature)

/-- The texts of all system messages, a block each. -/
def systemBlocks (input : List Message) : List Block := (systemTexts input).map (.text · false)

/-- Inline media go by their data, all others by address. -/
def source (url : String) : Result Source :=
  (Text.Inline.ofUrl url).map fun inline => match inline with
    | some i => .base64 i.mediaType i.data
    | none => .url url

def partBlock : ContentPart → Result Block
  | .text t => .ok (.text t false)
  | .image url _ _ => (source url).map (.image · false)
  | .file url _ => (source url).map (.document · false)
  | .audio _ _ => .error (Cause.unsupportedPart provider "audio_url").failure
  | .video _ _ => .error (Cause.unsupportedPart provider "video_url").failure

def textBlocks (text : String) : List Block := if text.isEmpty then [] else [.text text false]

/-- The parts of a message, or else its text. -/
def contentBlocks (parts : List ContentPart) (text : String) : Result (List Block) :=
  if parts.isEmpty then .ok (textBlocks text) else parts.mapM partBlock

def thinkingBlocks (m : Message) : List Block :=
  match thinkingSignature? m with
  | some signature => if m.reasoning.isEmpty then [] else [.thinking m.reasoning signature]
  | none => []

def callBlock (c : ToolCall) : Result Block :=
  c.argumentValue.map fun input => .toolUse c.id c.name input false

def assistantBlocks (m : Message) : Result (List Block) := do
  let content ← contentBlocks m.assistantParts m.content
  let calls ← m.toolCalls.mapM callBlock
  return thinkingBlocks m ++ content ++ calls

/-- What a message says and for which side; nothing for a system message. -/
def said (m : Message) : Result (Option (Side × List Block)) :=
  match m.role with
  | .system => .ok none
  | .user => (contentBlocks m.userParts m.content).map fun b => some (.user, b)
  | .assistant => (assistantBlocks m).map fun b => some (.assistant, b)
  | .tool => .ok (some (.user, [.toolResult (m.toolCallId.getD "") m.content false]))

/-- The turns of a conversation. -/
def inputMessages (input : List Message) : Result (List InputMessage) := do
  let all ← input.mapM said
  return (Turn.ofMessages (all.filterMap id)).map fun t => ⟨t.role, t.blocks⟩

def toolDefinitions (tools : List ToolInfo) : List Tool :=
  tools.map fun t => ⟨t.name, t.description, t.schema, false⟩

/-- The choice that is sent; limiting parallel calls alone leaves the choice to the model. -/
def toolChoice (choice : Option ToolChoice) (allowedNames toolNames : List String)
    (disableParallel : Option Bool) : Result (Option ToolChoiceParam) := do
  match ← ToolChoice.resolve choice allowedNames toolNames with
  | some resolved => return some ⟨resolved, disableParallel⟩
  | none =>
    if disableParallel.isSome ∧ !toolNames.isEmpty then return some ⟨.auto, disableParallel⟩
    else return none

end ChatRetrieval.Claude
