import ChatRetrieval.Gemini.Wire
import ChatRetrieval.Message.Basic
import ChatRetrieval.Text.Base64

/-!
Facts about a Gemini reply kept in the extra values of its message and calls. Signatures are bytes,
kept in base64; an empty one counts as none.
-/

namespace ChatRetrieval.Gemini.Extra

def videoKey : String := "gemini_video_meta_data"
def signatureKey : String := "gemini_thought_signature"
def groundingKey : String := "gemini_ground_metadata"
def codeKey : String := "gemini_executable_code"
def codeResultKey : String := "gemini_code_execution_result"

/-- The signature among extra values. -/
def signatureIn? (extra : Dict String Json) : Option (List Nat) := do
  let encoded ← (extra.get? signatureKey).bind Json.asString?
  let bytes ← Text.Base64.decode? encoded
  if bytes.isEmpty then none else return bytes

/-- Keeps a signature among extra values. -/
def withSignature (extra : Dict String Json) (bytes : List Nat) : Dict String Json :=
  if bytes.isEmpty then extra else extra.insert signatureKey (.str (Text.Base64.encode bytes))

/-- The signature of the text or medium of a message. -/
def signature? (m : Message) : Option (List Nat) := signatureIn? m.extra

def setSignature (m : Message) (bytes : List Nat) : Message :=
  { m with extra := withSignature m.extra bytes }

/-- The signature of a call; of parallel calls only the first has one. -/
def callSignature? (c : ToolCall) : Option (List Nat) := signatureIn? c.extra

def setCallSignature (c : ToolCall) (bytes : List Nat) : ToolCall :=
  { c with extra := withSignature c.extra bytes }

/-- The settings of the videos of a message, by address. -/
def videos (m : Message) : List (String × Json) :=
  match m.extra.get? videoKey with
  | some (.obj ms) => ms
  | _ => []

def setVideo (m : Message) (url : String) (video : VideoMetadata) : Message :=
  m.setExtra videoKey (.ofMembers (videos m ++ [(url, video.toJson)]))

def video? (m : Message) (url : String) : Option VideoMetadata := do
  let all ← m.extra.get? videoKey
  VideoMetadata.decode (← all.get? url)

/-- The sources of an answer grounded in a search. -/
def grounding? (m : Message) : Option Json := m.extra.get? groundingKey

def code? (m : Message) : Option ExecutableCode := (m.extra.get? codeKey).bind ExecutableCode.decode

def codeResult? (m : Message) : Option CodeExecutionResult :=
  (m.extra.get? codeResultKey).bind CodeExecutionResult.decode

end ChatRetrieval.Gemini.Extra
