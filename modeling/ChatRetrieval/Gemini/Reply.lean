import ChatRetrieval.Failure
import ChatRetrieval.Gemini.Extra
import ChatRetrieval.Json.Printer
import ChatRetrieval.Text.DataUrl

/-!
Turning Gemini replies into messages. Of several candidates the first one counts.
-/

namespace ChatRetrieval.Gemini

/-- The counts in terms of messages: thoughts belong to the completion. -/
def UsageMetadata.toTokenUsage (u : UsageMetadata) : TokenUsage :=
  ⟨u.promptTokens, u.cachedTokens, TokenUsage.plus u.candidatesTokens u.thoughtsTokens,
    u.thoughtsTokens, u.totalTokens⟩

/-- A generated medium as a part of a message, by its type. -/
def mediumPart (mimeType data : String) : ContentPart :=
  let url := (Text.Inline.mk mimeType data).url
  if Text.startsWith "image/" mimeType then .image url none (some mimeType)
  else if Text.startsWith "audio/" mimeType then .audio url (some mimeType)
  else .file url (some mimeType)

/-- The arguments of a call as text. -/
def argumentText : Json → String
  | .null => "\x7b\x7d"
  | args => args.render

/-- A call of a function; without an id its name stands in. -/
def functionCall (id : Option String) (name : String) (args : Json)
    (signature : Option (List Nat)) : ToolCall :=
  Extra.setCallSignature (.function (id.getD name) name (argumentText args)) (signature.getD [])

/-- Adds the data of a part that is not a call. -/
def addData (m : Message) (thought : Bool) : PartData → Message
  | .text t =>
    if thought then { m with reasoning := m.reasoning ++ t } else { m with content := m.content ++ t }
  | .inlineData mimeType data =>
    { m with assistantParts := m.assistantParts ++ [mediumPart mimeType data] }
  | .fileData mimeType uri => { m with assistantParts := m.assistantParts ++ [.file uri mimeType] }
  | .executableCode code => m.setExtra Extra.codeKey code.toJson
  | .codeExecutionResult result => m.setExtra Extra.codeResultKey result.toJson
  | .functionCall _ _ _ | .functionResponse _ _ _ => m

/-- Adds a part to a message. The signature of a call stays with the call, all others are the
message's. -/
def addPart (m : Message) (p : Part) : Message :=
  let signature := p.signature.bind Text.Base64.decode?
  match p.data with
  | .functionCall id name args =>
    { m with toolCalls := m.toolCalls ++ [functionCall id name args signature] }
  | data => Extra.setSignature (addData m (p.thought = some true) data) (signature.getD [])

/-- The message of a candidate. -/
def Candidate.message (c : Candidate) (usage : Option TokenUsage) : Message :=
  let base := { Message.blank .assistant with
    responseMeta := ResponseMeta.nonEmpty? ⟨c.finishReason, usage, none⟩ }
  let grounded := match c.grounding with
    | some g => base.setExtra Extra.groundingKey g
    | none => base
  ((c.content.map (·.parts)).getD []).foldl addPart grounded

/-- The message a reply brings; none when it has neither candidates nor counts. -/
def candidateMessage (reply : Reply) : Option Message :=
  let usage := reply.usage.map UsageMetadata.toTokenUsage
  match reply.candidates with
  | c :: _ => some (c.message usage)
  | [] => usage.map fun u => (Message.blank .assistant).withUsage u

/-- The message of a whole reply, which must have a candidate. -/
def responseMessage (reply : Reply) : Result Message :=
  match reply.candidates with
  | [] => Result.fail ("gemini returned no candidates, block reason: " ++
      reply.blockReason.getD "unknown")
  | c :: _ => .ok (c.message (reply.usage.map UsageMetadata.toTokenUsage))

end ChatRetrieval.Gemini
