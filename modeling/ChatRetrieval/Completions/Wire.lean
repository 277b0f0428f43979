import ChatRetrieval.Json.Printer
import ChatRetrieval.Message.Wire
import ChatRetrieval.Tool

/-!
The chat-completions wire format: the messages, tools and reply formats of a request and the replies
and stream chunks of the server. Any field of a streamed tool call may be missing.
-/

namespace ChatRetrieval.Completions

open Json (field field? fieldList fieldText)

/-- An address with a requested resolution. -/
structure Media where
  url : String
  detail : Option String
  deriving DecidableEq

inductive Part where
  | text (text : String)
  | image (media : Media)
  | video (media : Media)
  deriving DecidableEq

inductive Content where
  | text (text : String)
  | parts (parts : List Part)
  deriving DecidableEq

/-- A tool call as sent and received. -/
structure WireCall where
  index : Option Nat
  id : Option String
  kind : Option String
  name : Option String
  arguments : Option String
  deriving DecidableEq

structure RequestMessage where
  role : String
  content : Option Content
  name : Option String
  toolCalls : List WireCall
  toolCallId : Option String
  deriving DecidableEq

structure Tool where
  kind : String
  name : String
  description : String
  parameters : Json
  deriving DecidableEq

inductive ToolChoiceMode where
  | none
  | auto
  | required
  deriving DecidableEq

inductive ToolChoiceParam where
  | mode (mode : ToolChoiceMode)
  | named (kind name : String)
  deriving DecidableEq

inductive FormatKind where
  | text
  | jsonObject
  | jsonSchema
  deriving DecidableEq

structure SchemaFormat where
  name : String
  description : String
  schema : Json
  strict : Bool
  deriving DecidableEq

/-- The form a reply must have. -/
structure ResponseFormat where
  kind : FormatKind
  schema : Option SchemaFormat
  deriving DecidableEq

namespace Media

def toJson (m : Media) : Json :=
  .ofFields [field "url" (.str m.url), field? "detail" .str m.detail]

def decode : Decoder Media := fun j => do
  let r ← Decode.record ["url", "detail"] j
  return ⟨← r.required "url" Decode.string, ← r.maybe "detail" Decode.string⟩

end Media

namespace Part

def toJson : Part → Json
  | text t => .ofFields [field "type" (.str "text"), field "text" (.str t)]
  | image m => .ofFields [field "type" (.str "image_url"), field "image_url" m.toJson]
  | video m => .ofFields [field "type" (.str "video_url"), field "video_url" m.toJson]

def decode : Decoder Part := fun j => do
  let (tag, body) ← Decode.tagged "type" j
  match tag with
  | "text" =>
    let r ← Decode.record ["text"] body
    return text (← r.required "text" Decode.string)
  | "image_url" =>
    let r ← Decode.record ["image_url"] body
    return image (← r.required "image_url" Media.decode)
  | "video_url" =>
    let r ← Decode.record ["video_url"] body
    return video (← r.required "video_url" Media.decode)
  | _ => none

def isVideo : Part → Bool
  | video _ => true
  | _ => false

end Part

namespace Content

def toJson : Content → Json
  | text t => .str t
  | parts ps => .arr (ps.map Part.toJson)

def decode : Decoder Content
  | .str s => some (text s)
  | j => (Decode.list Part.decode j).map parts

end Content

namespace WireCall

def toJson (c : WireCall) : Json := .ofFields [
  field? "index" .ofNat c.index, field? "id" .str c.id, field? "type" .str c.kind,
  field "function" (.ofFields [field? "name" .str c.name, field? "arguments" .str c.arguments])]

def decodeFunction : Decoder (Option String × Option String) := fun j => do
  let r ← Decode.record ["name", "arguments"] j
  return (← r.maybe "name" Decode.string, ← r.maybe "arguments" Decode.string)

def decode : Decoder WireCall := fun j => do
  let r ← Decode.record ["index", "id", "type", "function"] j
  let (name, arguments) ← r.withDefault "function" (none, none) decodeFunction
  return {
    index := ← r.maybe "index" (Decode.natural 64)
    id := ← r.maybe "id" Decode.string
    kind := ← r.maybe "type" Decode.string
    name, arguments }

end WireCall

namespace RequestMessage

def toJson (m : RequestMessage) : Json := .ofFields [
  field "role" (.str m.role), field? "content" Content.toJson m.content, field? "name" .str m.name,
  fieldList "tool_calls" WireCall.toJson m.toolCalls, field? "tool_call_id" .str m.toolCallId]

def decode : Decoder RequestMessage := fun j => do
  let r ← Decode.record ["role", "content", "name", "tool_calls", "tool_call_id"] j
  return {
    role := ← r.required "role" Decode.string
    content := ← r.maybe "content" Content.decode
    name := ← r.maybe "name" Decode.string
    toolCalls := ← r.listOf "tool_calls" WireCall.decode
    toolCallId := ← r.maybe "tool_call_id" Decode.string }

end RequestMessage

namespace Tool

def toJson (t : Tool) : Json := .ofFields [
  field "type" (.str t.kind),
  field "function" (.ofFields [field "name" (.str t.name), fieldText "description" t.description,
    field "parameters" t.parameters])]

def decodeFunction : Decoder (String × String × Json) := fun j => do
  let r ← Decode.record ["name", "description", "parameters"] j
  return (← r.required "name" Decode.string, ← r.text "description",
    ← r.required "parameters" Decode.any)

def decode : Decoder Tool := fun j => do
  let r ← Decode.record ["type", "function"] j
  let kind ← r.required "type" Decode.string
  let (name, description, parameters) ← r.required "function" decodeFunction
  return ⟨kind, name, description, parameters⟩

end Tool

namespace ToolChoiceMode

def name : ToolChoiceMode → String
  | none => "none"
  | auto => "auto"
  | required => "required"

def decode : Decoder ToolChoiceMode :=
  Decode.oneOf ([none, auto, required].map fun m => (m.name, m))

end ToolChoiceMode

namespace ToolChoiceParam

def toJson : ToolChoiceParam → Json
  | mode m => .str m.name
  | named kind name => .ofFields [field "type" (.str kind),
      field "function" (.ofFields [field "name" (.str name)])]

def decodeName : Decoder String := fun j => do
  let r ← Decode.record ["name"] j
  r.required "name" Decode.string

def decodeNamed : Decoder ToolChoiceParam := fun j => do
  let r ← Decode.record ["type", "function"] j
  return named (← r.required "type" Decode.string) (← r.required "function" decodeName)

def decode : Decoder ToolChoiceParam := Decode.buffered fun j =>
  match ToolChoiceMode.decode j with
  | some m => some (mode m)
  | none => decodeNamed j

def ofResolved : ResolvedChoice → ToolChoiceParam
  | .none => mode .none
  | .auto => mode .auto
  | .required => mode .required
  | .function name => named "function" name

end ToolChoiceParam

namespace FormatKind

def name : FormatKind → String
  | text => "text"
  | jsonObject => "json_object"
  | jsonSchema => "json_schema"

def decode : Decoder FormatKind :=
  Decode.oneOf ([text, jsonObject, jsonSchema].map fun k => (k.name, k))

end FormatKind

namespace SchemaFormat

def blank : SchemaFormat := ⟨"", "", .null, false⟩

def toJson (f : SchemaFormat) : Json := .ofFields [
  field "name" (.str f.name), fieldText "description" f.description, field "schema" f.schema,
  field "strict" (.bool f.strict)]

def decode : Decoder SchemaFormat := fun j => do
  let r ← Decode.record ["name", "description", "schema", "strict"] j
  return ⟨← r.required "name" Decode.string, ← r.text "description",
    ← r.required "schema" Decode.any, ← r.withDefault "strict" false Decode.bool⟩

end SchemaFormat

namespace ResponseFormat

def toJson (f : ResponseFormat) : Json := .ofFields [
  field "type" (.str f.kind.name), field? "json_schema" SchemaFormat.toJson f.schema]

def decode : Decoder ResponseFormat := fun j => do
  let r ← Decode.record ["type", "json_schema"] j
  return ⟨← r.required "type" FormatKind.decode, ← r.maybe "json_schema" SchemaFormat.decode⟩

end ResponseFormat

/-- The delta or message of one choice. -/
structure ReplyMessage where
  content : Option String
  reasoning : Option String
  toolCalls : List WireCall
  deriving DecidableEq

structure Usage where
  promptTokens : Nat
  completionTokens : Nat
  totalTokens : Nat
  cachedTokens : Option Nat
  reasoningTokens : Option Nat
  deriving DecidableEq

structure Choice where
  index : Nat
  message : Option ReplyMessage
  delta : Option ReplyMessage
  finishReason : Option String
  logprobs : Option (List LogProb)
  deriving DecidableEq

/-- An error object. -/
structure ApiError where
  code : Option Json
  message : String
  kind : Option String
  deriving DecidableEq

/-- A whole completion, or one chunk of a stream. -/
structure Reply where
  id : Option String
  model : Option String
  choices : List Choice
  usage : Option Usage
  serviceTier : Option String
  error : Option ApiError
  deriving DecidableEq

def ReplyMessage.blank : ReplyMessage := ⟨none, none, []⟩

def ReplyMessage.decode : Decoder ReplyMessage := fun j => do
  let r ← Decode.record ["role", "content", "reasoning_content", "tool_calls"] j
  let _ ← r.maybe "role" Decode.string
  return ⟨← r.maybe "content" Decode.string, ← r.maybe "reasoning_content" Decode.string,
    ← r.listOf "tool_calls" WireCall.decode⟩

namespace Usage

/-- A count, zero when missing, that is the only field of a record. -/
def decodeDetail (name : String) : Decoder Nat := fun j => do
  let r ← Decode.record [name] j
  r.withDefault name 0 (Decode.natural 64)

def decode : Decoder Usage := fun j => do
  let r ← Decode.record ["prompt_tokens", "completion_tokens", "total_tokens",
    "prompt_tokens_details", "completion_tokens_details"] j
  return {
    promptTokens := ← r.withDefault "prompt_tokens" 0 (Decode.natural 64)
    completionTokens := ← r.withDefault "completion_tokens" 0 (Decode.natural 64)
    totalTokens := ← r.withDefault "total_tokens" 0 (Decode.natural 64)
    cachedTokens := ← r.maybe "prompt_tokens_details" (decodeDetail "cached_tokens")
    reasoningTokens := ← r.maybe "completion_tokens_details" (decodeDetail "reasoning_tokens") }

/-- The usage in terms of messages; a missing detail counts as zero. -/
def toTokenUsage (u : Usage) : TokenUsage where
  promptTokens := u.promptTokens
  cachedTokens := u.cachedTokens.getD 0
  completionTokens := u.completionTokens
  reasoningTokens := u.reasoningTokens.getD 0
  totalTokens := u.totalTokens

end Usage

/-- The bytes of a token, none when missing or null. -/
def decodeBytes (r : Decode.Record) : Option (List Int) := do
  return (← r.maybe "bytes" (Decode.list Decode.int64)).getD []

def decodeTopLogprob : Decoder TopLogProb := fun j => do
  let r ← Decode.record ["token", "logprob", "bytes"] j
  return ⟨← r.required "token" Decode.string, ← r.required "logprob" Decode.double, ← decodeBytes r⟩

def decodeLogprob : Decoder LogProb := fun j => do
  let r ← Decode.record ["token", "logprob", "bytes", "top_logprobs"] j
  return ⟨← r.required "token" Decode.string, ← r.required "logprob" Decode.double, ← decodeBytes r,
    ← r.listOf "top_logprobs" decodeTopLogprob⟩

def decodeLogprobs : Decoder (List LogProb) := fun j => do
  let r ← Decode.record ["content"] j
  r.listOf "content" decodeLogprob

def Choice.decode : Decoder Choice := fun j => do
  let r ← Decode.record ["index", "message", "delta", "finish_reason", "logprobs"] j
  return {
    index := ← r.withDefault "index" 0 (Decode.natural 64)
    message := ← r.maybe "message" ReplyMessage.decode
    delta := ← r.maybe "delta" ReplyMessage.decode
    finishReason := ← r.maybe "finish_reason" Decode.string
    logprobs := ← r.maybe "logprobs" decodeLogprobs }

namespace ApiError

def decode : Decoder ApiError := fun j => do
  let r ← Decode.record ["code", "message", "type"] j
  return ⟨← r.maybe "code" Decode.any, ← r.text "message", ← r.maybe "type" Decode.string⟩

/-- The code as text, the kind of error in place of a missing one. -/
def codeText (e : ApiError) : String :=
  match e.code with
  | some (.str code) => code
  | some .null | none => e.kind.getD ""
  | some other => other.render

end ApiError

def Reply.decode : Decoder Reply := fun j => do
  let r ← Decode.record ["id", "model", "choices", "usage", "service_tier", "error"] j
  return {
    id := ← r.maybe "id" Decode.string
    model := ← r.maybe "model" Decode.string
    choices := ← r.listOf "choices" Choice.decode
    usage := ← r.maybe "usage" Usage.decode
    serviceTier := ← r.maybe "service_tier" Decode.string
    error := ← r.maybe "error" ApiError.decode }

end ChatRetrieval.Completions
