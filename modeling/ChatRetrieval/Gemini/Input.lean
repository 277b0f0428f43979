import ChatRetrieval.Gemini.Extra
import ChatRetrieval.Message.Turn
import ChatRetrieval.Text.DataUrl

/-!
Messages as the contents of a Gemini conversation. A tool result names the function it comes from:
the one it says itself or else the one an earlier call with its id had.
-/

namespace ChatRetrieval.Gemini

open Json (field)

/-- Inline media go as data, all others by address. -/
def mediaData (url : String) (mimeType : Option String) : Result PartData :=
  (Text.Inline.ofUrl url).map fun inline => match inline with
    | some i => .inlineData i.mediaType i.data
    | none => .fileData mimeType url

/-- A part of a message; a video goes with the settings the message has for it. -/
def contentPart (m : Message) : ContentPart → Result Part
  | .text t => .ok (PartData.text t).part
  | .image url _ mimeType | .audio url mimeType | .file url mimeType =>
    (mediaData url mimeType).map PartData.part
  | .video url mimeType =>
    (mediaData url mimeType).map fun d => { d.part with video := Extra.video? m url }

def textParts (text : String) : List Part :=
  if text.isEmpty then [] else [(PartData.text text).part]

/-- The parts of a message, or else its text. -/
def contentParts (m : Message) (parts : List ContentPart) : Result (List Part) :=
  if parts.isEmpty then .ok (textParts m.content) else parts.mapM (contentPart m)

/-- Puts a signature on the first part. -/
def signFirst (signature : Option (List Nat)) : List Part → List Part
  | [] => []
  | p :: r => match signature with
    | some bytes => { p with signature := some (Text.Base64.encode bytes) } :: r
    | none => p :: r

/-- An id, unless it is empty. -/
def givenId (id : String) : Option String := if id.isEmpty then none else some id

def callPart (c : ToolCall) : Result Part :=
  c.argumentValue.map fun args =>
    { (PartData.functionCall (givenId c.id) c.name args).part with
      signature := (Extra.callSignature? c).map Text.Base64.encode }

def modelParts (m : Message) : Result (List Part) := do
  let content ← contentParts m m.assistantParts
  let calls ← m.toolCalls.mapM callPart
  return signFirst (Extra.signature? m) content ++ calls

/-- The function names of the calls seen so far, by call id. -/
abbrev CallNames := Dict String String

/-- The part of a tool result. -/
def resultPart (names : CallNames) (m : Message) : Result Part :=
  let id := m.toolCallId.getD ""
  match m.toolName.or (names.get? id) with
  | some name => .ok (PartData.functionResponse (givenId id) name
      (.ofFields [field "output" (.str m.content)])).part
  | none => Result.fail ("Failed to find the function name of tool result '" ++ id ++ "'")

/-- What the messages say and for which side. -/
def said (names : CallNames) : List Message → Result (List (Side × List Part))
  | [] => .ok []
  | m :: r =>
    match m.role with
    | .system => said names r
    | .user => do
      let parts ← contentParts m m.userParts
      return (.user, parts) :: (← said names r)
    | .assistant => do
      let parts ← modelParts m
      return (.model, parts) ::
        (← said (names.insertMany (m.toolCalls.map fun c => (c.id, c.name))) r)
    | .tool => do
      let part ← resultPart names m
      return (.user, [part]) :: (← said names r)

/-- The contents of a conversation. -/
def contents (input : List Message) : Result (List Content) :=
  (said Dict.empty input).map fun all => (Turn.ofMessages all).map fun t => ⟨some t.role, t.blocks⟩

/-- The texts of all system messages as one instruction. -/
def systemInstruction (input : List Message) : Option Content :=
  match systemTexts input with
  | [] => none
  | texts => some ⟨none, texts.map fun t => (PartData.text t).part⟩

end ChatRetrieval.Gemini
