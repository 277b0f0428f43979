import ChatRetrieval.Ark.Settings
import ChatRetrieval.Completions.Wire

/-!
The wire format of the Responses service: the items of a request, the output of a reply and the
events of a streamed one. Items and events of unknown kinds are kept apart as such.
-/

namespace ChatRetrieval.Ark.Responses

open Json (field field? fieldList fieldText)

inductive ContentItem where
  | text (text : String)
  | image (url : String) (detail : Option String)
  | video (url : String) (fps : Option Single)
  /-- A file by address or, when it is inline, by its data. -/
  | file (url data : Option String)
  deriving DecidableEq

inductive InputRole where
  | user
  | assistant
  | system
  deriving DecidableEq

inductive InputItem where
  | message (role : InputRole) (content : List ContentItem)
  | call (callId name arguments : String)
  | callOutput (callId output : String)
  deriving DecidableEq

inductive Tool where
  | function (name description : String) (parameters : Json)
  | search (search : WebSearch)
  deriving DecidableEq

structure Request where
  model : String
  input : List InputItem
  maxOutputTokens : Option Nat
  temperature : Option Single
  topP : Option Single
  /-- The form the text of the reply must have. -/
  format : Option Completions.ResponseFormat
  thinking : Option Thinking
  reasoningEffort : Option ReasoningEffort
  serviceTier : Option ServiceTier
  /-- The stored response this request goes on from. -/
  previousResponseId : Option String
  store : Option Bool
  expireAt : Option Int64
  /-- Whether the turn is cached. -/
  caching : Option Bool
  /-- Marks the input as a reusable beginning. -/
  reusable : Bool
  tools : List Tool
  toolChoice : Option ResolvedChoice
  maxToolCalls : Option Int
  streamed : Bool
  deriving DecidableEq

def ContentItem.toJson : ContentItem → Json
  | text t => .ofFields [field "type" (.str "input_text"), field "text" (.str t)]
  | image url detail => .ofFields [field "type" (.str "input_image"), field "image_url" (.str url),
      field? "detail" .str detail]
  | video url fps => .ofFields [field "type" (.str "input_video"), field "video_url" (.str url),
      field? "fps" .ofSingleText fps]
  | file url data => .ofFields [field "type" (.str "input_file"), field? "file_url" .str url,
      field? "file_data" .str data]

def InputRole.name : InputRole → String
  | user => "user"
  | assistant => "assistant"
  | system => "system"

def InputItem.toJson : InputItem → Json
  | message role content => .ofFields [field "type" (.str "message"), field "role" (.str role.name),
      field "content" (.arr (content.map ContentItem.toJson))]
  | call callId name arguments => .ofFields [field "type" (.str "function_call"),
      field "call_id" (.str callId), field "name" (.str name), field "arguments" (.str arguments)]
  | callOutput callId output => .ofFields [field "type" (.str "function_call_output"),
      field "call_id" (.str callId), field "output" (.str output)]

/-- A location, marked as approximate. -/
def locationToJson (l : UserLocation) : Json :=
  .ofFields (field "type" (.str "approximate") :: l.fields)

def Tool.toJson : Tool → Json
  | function name description parameters => .ofFields [field "type" (.str "function"),
      field "name" (.str name), fieldText "description" description, field "parameters" parameters]
  | search s => .ofFields [field "type" (.str "web_search"), field? "limit" .int s.limit,
      field? "user_location" locationToJson s.userLocation,
      fieldList "sources" SearchSource.toJson s.sources, field? "max_keyword" .int s.maxKeyword]

def choiceToJson : ResolvedChoice → Json
  | .none => .str "none"
  | .auto => .str "auto"
  | .required => .str "required"
  | .function name => .ofFields [field "type" (.str "function"), field "name" (.str name)]

/-- The form of the text; a schema is written with all its fields. -/
def formatToJson (f : Completions.ResponseFormat) : Json :=
  let body := match f.kind with
    | .jsonSchema =>
      let s := f.schema.getD .blank
      [field "name" (.str s.name), field "description" (.str s.description), field "schema" s.schema,
        field "strict" (.bool s.strict)]
    | _ => []
  .ofFields [field "format" (.ofFields (field "type" (.str f.kind.name) :: body))]

def cachingToJson (reusable enabled : Bool) : Json := .ofFields [
  field "type" (.str (if enabled then "enabled" else "disabled")),
  if reusable then field "prefix" (.bool true) else none]

namespace Request

def toJson (r : Request) : Json := .ofFields [
  field "model" (.str r.model), fieldList "input" InputItem.toJson r.input,
  field? "max_output_tokens" .ofNat r.maxOutputTokens, field? "temperature" .ofSingleText r.temperature,
  field? "top_p" .ofSingleText r.topP, field? "text" formatToJson r.format,
  field? "thinking" Thinking.toJson r.thinking,
  field? "reasoning" (fun e => .ofFields [field "effort" (ReasoningEffort.toJson e)]) r.reasoningEffort,
  field? "service_tier" ServiceTier.toJson r.serviceTier,
  field? "previous_response_id" .str r.previousResponseId, field? "store" .bool r.store,
  field? "expire_at" (.int ·.toInt) r.expireAt, field? "caching" (cachingToJson r.reusable) r.caching,
  fieldList "tools" Tool.toJson r.tools, field? "tool_choice" choiceToJson r.toolChoice,
  field? "max_tool_calls" .int r.maxToolCalls,
  if r.streamed then field "stream" (.bool true) else none]

end Request

inductive Status where
  | completed
  | inProgress
  | incomplete
  | failed
  | other
  deriving DecidableEq

namespace Status

def name : Status → String
  | completed => "completed"
  | inProgress => "in_progress"
  | incomplete => "incomplete"
  | failed => "failed"
  | other => ""

def ofName (name : String) : Status :=
  ([completed, inProgress, incomplete, failed].find? fun s => s.name == name).getD other

def decode : Decoder Status := fun j => (Decode.string j).map ofName

end Status

structure Usage where
  inputTokens : Nat
  outputTokens : Nat
  totalTokens : Nat
  cachedTokens : Option Nat
  reasoningTokens : Option Nat
  deriving DecidableEq

inductive OutputItem where
  /-- The texts of a message. -/
  | message (texts : List String)
  /-- The summary of a train of thought. -/
  | reasoning (summary : List String)
  | call (id : Option String) (callId name arguments : String)
  | other
  deriving DecidableEq

/-- A reply, finished or not. -/
structure Reply where
  id : String
  model : String
  status : Status
  /-- The message of the error of a failed reply. -/
  error : Option String
  /-- Why a reply is incomplete. -/
  incompleteReason : Option String
  output : List OutputItem
  usage : Option Usage
  serviceTier : Option String
  deriving DecidableEq

inductive Event where
  | created (reply : Reply)
  | completed (reply : Reply)
  | incomplete (reply : Reply)
  | failed (reply : Reply)
  | error (message : String)
  | itemAdded (item : OutputItem)
  | argumentsDelta (itemId : String) (outputIndex : Nat) (delta : String)
  | reasoningDelta (delta : String)
  | textDelta (delta : String)
  | other
  deriving DecidableEq

namespace Usage

def decode : Decoder Usage := fun j => do
  let r ← Decode.record ["input_tokens", "output_tokens", "total_tokens", "input_tokens_details",
    "output_tokens_details"] j
  return {
    inputTokens := ← r.withDefault "input_tokens" 0 (Decode.natural 64)
    outputTokens := ← r.withDefault "output_tokens" 0 (Decode.natural 64)
    totalTokens := ← r.withDefault "total_tokens" 0 (Decode.natural 64)
    cachedTokens := ← r.maybe "input_tokens_details" (Completions.Usage.decodeDetail "cached_tokens")
    reasoningTokens :=
      ← r.maybe "output_tokens_details" (Completions.Usage.decodeDetail "reasoning_tokens") }

/-- The usage in terms of messages, zero where nothing was reported. -/
def toTokenUsage (u : Option Usage) : TokenUsage :=
  match u with
  | none => .zero
  | some u => {
    promptTokens := u.inputTokens
    cachedTokens := u.cachedTokens.getD 0
    completionTokens := u.outputTokens
    reasoningTokens := u.reasoningTokens.getD 0
    totalTokens := u.totalTokens }

end Usage

namespace OutputItem

/-- The text of a part of a message; nothing for a part of another kind. -/
def decodeContent : Decoder (Option String) := fun j => do
  let (tag, body) ← Decode.tagged "type" j
  match tag with
  | "output_text" =>
    let r ← Decode.record ["text"] body
    return some (← r.required "text" Decode.string)
  | _ => return none

def decodeSummary : Decoder String := fun j => do
  let r ← Decode.record ["text"] j
  r.text "text"

def decode : Decoder OutputItem := fun j => do
  let (tag, body) ← Decode.tagged "type" j
  match tag with
  | "message" =>
    let r ← Decode.record ["content"] body
    return message ((← r.listOf "content" decodeContent).filterMap id)
  | "reasoning" =>
    let r ← Decode.record ["summary"] body
    return reasoning (← r.listOf "summary" decodeSummary)
  | "function_call" =>
    let r ← Decode.record ["id", "call_id", "name", "arguments"] body
    return call (← r.maybe "id" Decode.string) (← r.text "call_id") (← r.text "name")
      (← r.text "arguments")
  | _ => return other

end OutputItem

namespace Reply

def decodeError : Decoder String := fun j => do
  let r ← Decode.record ["code", "message"] j
  let _ ← r.maybe "code" Decode.string
  r.text "message"

def decodeDetails : Decoder String := fun j => do
  let r ← Decode.record ["reason"] j
  r.text "reason"

def decode : Decoder Reply := fun j => do
  let r ← Decode.record ["id", "model", "status", "error", "incomplete_details", "output", "usage",
    "service_tier"] j
  return {
    id := ← r.text "id"
    model := ← r.text "model"
    status := ← r.withDefault "status" .completed Status.decode
    error := ← r.maybe "error" decodeError
    incompleteReason := ← r.maybe "incomplete_details" decodeDetails
    output := ← r.listOf "output" OutputItem.decode
    usage := ← r.maybe "usage" Usage.decode
    serviceTier := ← r.maybe "service_tier" Decode.string }

end Reply

namespace Event

def decodeReply (make : Reply → Event) (body : Json) : Option Event := do
  let r ← Decode.record ["response"] body
  return make (← r.required "response" Reply.decode)

def decodeDelta (make : String → Event) (body : Json) : Option Event := do
  let r ← Decode.record ["delta"] body
  return make (← r.required "delta" Decode.string)

def decode : Decoder Event := fun j => do
  let (tag, body) ← Decode.tagged "type" j
  match tag with
  | "response.created" => decodeReply created body
  | "response.in_progress" => decodeReply created body
  | "response.completed" => decodeReply completed body
  | "response.incomplete" => decodeReply incomplete body
  | "response.failed" => decodeReply failed body
  | "error" =>
    let r ← Decode.record ["code", "message"] body
    let _ ← r.maybe "code" Decode.string
    return error (← r.text "message")
  | "response.output_item.added" =>
    let r ← Decode.record ["item", "output_index"] body
    let _ ← r.withDefault "output_index" 0 (Decode.natural 64)
    return itemAdded (← r.required "item" OutputItem.decode)
  | "response.function_call_arguments.delta" =>
    let r ← Decode.record ["item_id", "output_index", "delta"] body
    return argumentsDelta (← r.required "item_id" Decode.string)
      (← r.withDefault "output_index" 0 (Decode.natural 64)) (← r.required "delta" Decode.string)
  | "response.reasoning_summary_text.delta" => decodeDelta reasoningDelta body
  | "response.output_text.delta" => decodeDelta textDelta body
  | _ => return other

end Event

end ChatRetrieval.Ark.Responses
