import ChatRetrieval.Gemini.Settings
import ChatRetrieval.Tool

/-!
The wire format of content generation. A content is a list of parts, each holding one kind of data
and what belongs to it: whether it is a thought, a signature, the settings of a video.
-/

namespace ChatRetrieval.Gemini

open Json (field field? fieldList fieldText)

inductive Side where
  | user
  | model
  deriving DecidableEq

/-- Code the model ran. -/
structure ExecutableCode where
  language : String
  code : String
  deriving DecidableEq

structure CodeExecutionResult where
  outcome : String
  output : String
  deriving DecidableEq

inductive PartData where
  | text (text : String)
  | inlineData (mimeType data : String)
  | fileData (mimeType : Option String) (uri : String)
  | functionCall (id : Option String) (name : String) (args : Json)
  | functionResponse (id : Option String) (name : String) (response : Json)
  | executableCode (code : ExecutableCode)
  | codeExecutionResult (result : CodeExecutionResult)
  deriving DecidableEq

structure Part where
  data : PartData
  /-- Set on the model's thoughts. -/
  thought : Option Bool
  /-- The base64 form of an opaque signature. -/
  signature : Option String
  video : Option VideoMetadata
  deriving DecidableEq

/-- A part that is nothing but its data. -/
def PartData.part (d : PartData) : Part := ⟨d, none, none, none⟩

structure Content where
  side : Option Side
  parts : List Part
  deriving DecidableEq

structure Request where
  contents : List Content
  system : Option Content
  tools : List ToolInfo
  codeExecution : Bool
  toolChoice : Option ResolvedChoice
  maxOutputTokens : Option Nat
  temperature : Option Single
  topP : Option Single
  topK : Option Nat
  stopSequences : List String
  /-- The schema of the reply, which then is JSON. -/
  responseSchema : Option Json
  responseModalities : List Modality
  thinking : Option ThinkingConfig
  safetySettings : List SafetySetting

namespace Side

def name : Side → String
  | user => "user"
  | model => "model"

def decode : Decoder Side := Decode.oneOf ([user, model].map fun s => (s.name, s))

end Side

namespace ExecutableCode

def toJson (c : ExecutableCode) : Json :=
  .ofFields [field "language" (.str c.language), field "code" (.str c.code)]

def decode : Decoder ExecutableCode := fun j => do
  let r ← Decode.record ["language", "code"] j
  return ⟨← r.text "language", ← r.text "code"⟩

end ExecutableCode

namespace CodeExecutionResult

def toJson (c : CodeExecutionResult) : Json :=
  .ofFields [field "outcome" (.str c.outcome), field "output" (.str c.output)]

def decode : Decoder CodeExecutionResult := fun j => do
  let r ← Decode.record ["outcome", "output"] j
  return ⟨← r.text "outcome", ← r.text "output"⟩

end CodeExecutionResult

namespace PartData

/-- The member of a part that holds its data. -/
def member : PartData → String × Json
  | text t => ("text", .str t)
  | inlineData mimeType data => ("inlineData",
      .ofFields [field "mimeType" (.str mimeType), field "data" (.str data)])
  | fileData mimeType uri => ("fileData",
      .ofFields [field? "mimeType" .str mimeType, field "fileUri" (.str uri)])
  | functionCall id name args => ("functionCall",
      .ofFields [field? "id" .str id, field "name" (.str name), field "args" args])
  | functionResponse id name response => ("functionResponse",
      .ofFields [field? "id" .str id, field "name" (.str name), field "response" response])
  | executableCode c => ("executableCode", c.toJson)
  | codeExecutionResult r => ("codeExecutionResult", r.toJson)

def decodeInlineData : Decoder PartData := fun j => do
  let r ← Decode.record ["mimeType", "data"] j
  return inlineData (← r.required "mimeType" Decode.string) (← r.required "data" Decode.string)

def decodeFileData : Decoder PartData := fun j => do
  let r ← Decode.record ["mimeType", "fileUri"] j
  return fileData (← r.maybe "mimeType" Decode.string) (← r.required "fileUri" Decode.string)

def decodeFunctionCall : Decoder PartData := fun j => do
  let r ← Decode.record ["id", "name", "args"] j
  return functionCall (← r.maybe "id" Decode.string) (← r.required "name" Decode.string)
    (← r.withDefault "args" .null Decode.any)

def decodeFunctionResponse : Decoder PartData := fun j => do
  let r ← Decode.record ["id", "name", "response"] j
  return functionResponse (← r.maybe "id" Decode.string) (← r.required "name" Decode.string)
    (← r.required "response" Decode.any)

/-- The decoder of the data a member holds, if it holds data. -/
def decoder? (key : String) : Option (Decoder PartData) :=
  [("text", fun j => (Decode.string j).map text), ("inlineData", decodeInlineData),
    ("fileData", decodeFileData), ("functionCall", decodeFunctionCall),
    ("functionResponse", decodeFunctionResponse),
    ("executableCode", fun j => (ExecutableCode.decode j).map executableCode),
    ("codeExecutionResult", fun j => (CodeExecutionResult.decode j).map codeExecutionResult)].lookup key

/-- The data of the first member that holds any. -/
def ofMembers? : List (String × Json) → Option PartData
  | [] => none
  | (key, j) :: r =>
    match decoder? key with
    | some d => d j
    | none => ofMembers? r

end PartData

namespace Part

def toJson (p : Part) : Json := .ofFields [
  some p.data.member, field? "thought" .bool p.thought, field? "thoughtSignature" .str p.signature,
  field? "videoMetadata" VideoMetadata.toJson p.video]

def decode : Decoder Part
  | .obj ms => do
    let (r, _) ← Decode.openRecord ["thought", "thoughtSignature", "videoMetadata"] (.obj ms)
    return {
      thought := ← r.maybe "thought" Decode.bool
      signature := ← r.maybe "thoughtSignature" Decode.string
      video := ← r.maybe "videoMetadata" VideoMetadata.decode
      data := ← PartData.ofMembers? ms }
  | _ => none

end Part

namespace Content

def toJson (c : Content) : Json := .ofFields [
  field? "role" (fun s => .str s.name) c.side, field "parts" (.arr (c.parts.map Part.toJson))]

def decode : Decoder Content := fun j => do
  let r ← Decode.record ["role", "parts"] j
  return ⟨← r.maybe "role" Side.decode, ← r.listOf "parts" Part.decode⟩

end Content

/-- How a tool is declared. -/
def declaration (t : ToolInfo) : Json := .ofFields [
  field "name" (.str t.name), fieldText "description" t.description,
  field "parametersJsonSchema" t.schema]

/-- How functions may be called, and which one must be. -/
def callingMode : ResolvedChoice → String × List String
  | .none => ("NONE", [])
  | .auto => ("AUTO", [])
  | .required => ("ANY", [])
  | .function name => ("ANY", [name])

def toolConfig (choice : ResolvedChoice) : Json :=
  let (mode, names) := callingMode choice
  .ofFields [field "functionCallingConfig" (.ofFields [
    field "mode" (.str mode), fieldList "allowedFunctionNames" .str names])]

namespace Request

def toolList (r : Request) : List Json :=
  (if r.tools.isEmpty then []
    else [.ofFields [field "functionDeclarations" (.arr (r.tools.map declaration))]]) ++
  (if r.codeExecution then [.ofFields [field "codeExecution" (.obj [])]] else [])

def generationConfig (r : Request) : Json := .ofFields [
  field? "maxOutputTokens" .ofNat r.maxOutputTokens, field? "temperature" .ofSingleText r.temperature,
  field? "topP" .ofSingleText r.topP, field? "topK" .ofNat r.topK,
  fieldList "stopSequences" .str r.stopSequences,
  field? "responseMimeType" (fun _ => .str "application/json") r.responseSchema,
  field? "responseJsonSchema" id r.responseSchema,
  fieldList "responseModalities" Modality.toJson r.responseModalities,
  field? "thinkingConfig" ThinkingConfig.toJson r.thinking]

def toJson (r : Request) : Json := .ofFields [
  field "contents" (.arr (r.contents.map Content.toJson)),
  field? "systemInstruction" Content.toJson r.system, fieldList "tools" id r.toolList,
  field? "toolConfig" toolConfig r.toolChoice, field "generationConfig" r.generationConfig,
  fieldList "safetySettings" SafetySetting.toJson r.safetySettings]

end Request

structure Candidate where
  content : Option Content
  finishReason : Option String
  grounding : Option Json
  deriving DecidableEq

structure UsageMetadata where
  promptTokens : Nat
  candidatesTokens : Nat
  totalTokens : Nat
  cachedTokens : Nat
  thoughtsTokens : Nat
  deriving DecidableEq

structure Reply where
  candidates : List Candidate
  usage : Option UsageMetadata
  /-- Why the prompt was blocked. -/
  blockReason : Option String
  deriving DecidableEq

def Candidate.decode : Decoder Candidate := fun j => do
  let r ← Decode.record ["content", "finishReason", "groundingMetadata"] j
  return ⟨← r.maybe "content" Content.decode, ← r.maybe "finishReason" Decode.string,
    ← r.maybe "groundingMetadata" Decode.any⟩

def UsageMetadata.decode : Decoder UsageMetadata := fun j => do
  let r ← Decode.record ["promptTokenCount", "candidatesTokenCount", "totalTokenCount",
    "cachedContentTokenCount", "thoughtsTokenCount"] j
  let count (name : String) : Option Nat := r.withDefault name 0 (Decode.natural 64)
  return ⟨← count "promptTokenCount", ← count "candidatesTokenCount", ← count "totalTokenCount",
    ← count "cachedContentTokenCount", ← count "thoughtsTokenCount"⟩

namespace Reply

def decodeFeedback : Decoder (Option String) := fun j => do
  let r ← Decode.record ["blockReason"] j
  r.maybe "blockReason" Decode.string

def decode : Decoder Reply := fun j => do
  let r ← Decode.record ["candidates", "usageMetadata", "modelVersion", "promptFeedback"] j
  let _ ← r.maybe "modelVersion" Decode.string
  return {
    candidates := ← r.listOf "candidates" Candidate.decode
    usage := ← r.maybe "usageMetadata" UsageMetadata.decode
    blockReason := (← r.maybe "promptFeedback" decodeFeedback).join }

end Reply

end ChatRetrieval.Gemini
