import ChatRetrieval.Claude.Settings
import ChatRetrieval.Tool

/-!
The wire format of the Messages service: the turns, tools and settings of a request, and the replies
and stream events of the server. A block may be marked as the end of a cached beginning.
-/

namespace ChatRetrieval.Claude

open Json (field field? fieldList fieldText)

inductive Side where
  | user
  | assistant
  deriving DecidableEq

/-- Where a medium comes from. -/
inductive Source where
  | base64 (mediaType data : String)
  | url (url : String)
  deriving DecidableEq

inductive Block where
  | text (text : String) (cached : Bool)
  | image (source : Source) (cached : Bool)
  | document (source : Source) (cached : Bool)
  | toolUse (id name : String) (input : Json) (cached : Bool)
  | toolResult (toolUseId content : String) (cached : Bool)
  | thinking (thinking signature : String)
  deriving DecidableEq

structure Tool where
  name : String
  description : String
  inputSchema : Json
  cached : Bool
  deriving DecidableEq

/-- The choice among the tools; `disableParallel` limits the model to one call at a time. -/
structure ToolChoiceParam where
  choice : ResolvedChoice
  disableParallel : Option Bool
  deriving DecidableEq

structure InputMessage where
  side : Side
  content : List Block
  deriving DecidableEq

structure Request where
  model : String
  maxTokens : Nat
  system : List Block
  messages : List InputMessage
  temperature : Option Single
  topP : Option Single
  topK : Option Nat
  stopSequences : List String
  /-- Tokens for thinking, when the model is to think. -/
  thinkingBudget : Option Nat
  tools : List Tool
  toolChoice : Option ToolChoiceParam
  streamed : Bool
  deriving DecidableEq

def Side.name : Side → String
  | user => "user"
  | assistant => "assistant"

def Source.toJson : Source → Json
  | base64 mediaType data => .ofFields [field "type" (.str "base64"),
      field "media_type" (.str mediaType), field "data" (.str data)]
  | url u => .ofFields [field "type" (.str "url"), field "url" (.str u)]

/-- The mark of a cached beginning. -/
def cacheField (cached : Bool) : Option (String × Json) :=
  if cached then field "cache_control" (.ofFields [field "type" (.str "ephemeral")]) else none

namespace Block

def toJson : Block → Json
  | text t cached => .ofFields [field "type" (.str "text"), field "text" (.str t), cacheField cached]
  | image source cached => .ofFields [field "type" (.str "image"), field "source" source.toJson,
      cacheField cached]
  | document source cached => .ofFields [field "type" (.str "document"),
      field "source" source.toJson, cacheField cached]
  | toolUse id name input cached => .ofFields [field "type" (.str "tool_use"), field "id" (.str id),
      field "name" (.str name), field "input" input, cacheField cached]
  | toolResult toolUseId content cached => .ofFields [field "type" (.str "tool_result"),
      field "tool_use_id" (.str toolUseId), field "content" (.str content), cacheField cached]
  | thinking t signature => .ofFields [field "type" (.str "thinking"), field "thinking" (.str t),
      field "signature" (.str signature)]

/-- Marks the end of a cached beginning; thinking cannot carry the mark. -/
def withCache : Block → Block
  | text t _ => text t true
  | image s _ => image s true
  | document s _ => document s true
  | toolUse id name input _ => toolUse id name input true
  | toolResult id content _ => toolResult id content true
  | thinking t s => thinking t s

end Block

namespace Tool

def toJson (t : Tool) : Json := .ofFields [
  field "name" (.str t.name), fieldText "description" t.description,
  field "input_schema" t.inputSchema, cacheField t.cached]

end Tool

def ToolChoiceParam.toJson (p : ToolChoiceParam) : Json :=
  let parallel := field? "disable_parallel_tool_use" .bool p.disableParallel
  match p.choice with
  | .none => .ofFields [field "type" (.str "none")]
  | .auto => .ofFields [field "type" (.str "auto"), parallel]
  | .required => .ofFields [field "type" (.str "any"), parallel]
  | .function name => .ofFields [field "type" (.str "tool"), field "name" (.str name), parallel]

def InputMessage.toJson (m : InputMessage) : Json := .ofFields [
  field "role" (.str m.side.name), field "content" (.arr (m.content.map Block.toJson))]

def thinkingToJson (budget : Nat) : Json :=
  .ofFields [field "type" (.str "enabled"), field "budget_tokens" (.ofNat budget)]

namespace Request

def toJson (r : Request) : Json := .ofFields [
  field "model" (.str r.model), field "max_tokens" (.ofNat r.maxTokens),
  fieldList "system" Block.toJson r.system,
  field "messages" (.arr (r.messages.map InputMessage.toJson)),
  field? "temperature" .ofSingleText r.temperature, field? "top_p" .ofSingleText r.topP,
  field? "top_k" .ofNat r.topK, fieldList "stop_sequences" .str r.stopSequences,
  field? "thinking" thinkingToJson r.thinkingBudget, fieldList "tools" Tool.toJson r.tools,
  field? "tool_choice" ToolChoiceParam.toJson r.toolChoice,
  if r.streamed then field "stream" (.bool true) else none]

/-- Changes the last item of a list. -/
def changeLast {α : Type} (f : α → α) (items : List α) : List α :=
  match items.getLast? with
  | some x => items.dropLast ++ [f x]
  | none => items

/-- Marks the last tool, the last system block and the last block of the conversation, so that tools,
system prompt and the conversation so far are cached. -/
def withCache (r : Request) : Request :=
  { r with
    tools := changeLast (fun t => { t with cached := true }) r.tools
    system := changeLast Block.withCache r.system
    messages := changeLast (fun m => { m with content := changeLast Block.withCache m.content })
      r.messages }

end Request

/-- Token counts; `inputTokens` leaves out the cached part of the prompt. -/
structure Usage where
  inputTokens : Nat
  outputTokens : Nat
  cacheCreationTokens : Nat
  cacheReadTokens : Nat
  deriving DecidableEq

inductive ReplyBlock where
  | text (text : String)
  | thinking (thinking signature : String)
  | toolUse (id name : String) (input : Json)
  | other
  deriving DecidableEq

structure Reply where
  id : String
  model : String
  content : List ReplyBlock
  stopReason : Option String
  usage : Usage
  deriving DecidableEq

inductive Delta where
  | text (text : String)
  | inputJson (piece : String)
  | thinking (thinking : String)
  | signature (signature : String)
  | other
  deriving DecidableEq

inductive Event where
  | messageStart (reply : Reply)
  | blockStart (index : Nat) (block : ReplyBlock)
  | blockDelta (index : Nat) (delta : Delta)
  | messageDelta (stopReason : Option String) (usage : Option Usage)
  | error (kind message : String)
  | other
  deriving DecidableEq

def Usage.zero : Usage := ⟨0, 0, 0, 0⟩

def Usage.decode : Decoder Usage := fun j => do
  let r ← Decode.record ["input_tokens", "output_tokens", "cache_creation_input_tokens",
    "cache_read_input_tokens"] j
  return ⟨← r.withDefault "input_tokens" 0 (Decode.natural 64),
    ← r.withDefault "output_tokens" 0 (Decode.natural 64),
    ← r.withDefault "cache_creation_input_tokens" 0 (Decode.natural 64),
    ← r.withDefault "cache_read_input_tokens" 0 (Decode.natural 64)⟩

def ReplyBlock.decode : Decoder ReplyBlock := fun j => do
  let (tag, body) ← Decode.tagged "type" j
  match tag with
  | "text" =>
    let r ← Decode.record ["text"] body
    return text (← r.text "text")
  | "thinking" =>
    let r ← Decode.record ["thinking", "signature"] body
    return thinking (← r.text "thinking") (← r.text "signature")
  | "tool_use" =>
    let r ← Decode.record ["id", "name", "input"] body
    return toolUse (← r.required "id" Decode.string) (← r.required "name" Decode.string)
      (← r.withDefault "input" .null Decode.any)
  | _ => return other

def Reply.decode : Decoder Reply := fun j => do
  let r ← Decode.record ["id", "model", "content", "stop_reason", "usage"] j
  return {
    id := ← r.text "id"
    model := ← r.text "model"
    content := ← r.listOf "content" ReplyBlock.decode
    stopReason := ← r.maybe "stop_reason" Decode.string
    usage := ← r.withDefault "usage" .zero Usage.decode }

def Delta.decode : Decoder Delta := fun j => do
  let (tag, body) ← Decode.tagged "type" j
  let only (name : String) (make : String → Delta) : Option Delta := do
    let r ← Decode.record [name] body
    return make (← r.required name Decode.string)
  match tag with
  | "text_delta" => only "text" text
  | "input_json_delta" => only "partial_json" inputJson
  | "thinking_delta" => only "thinking" thinking
  | "signature_delta" => only "signature" signature
  | _ => return other

namespace Event

def decodeStopReason : Decoder (Option String) := fun j => do
  let r ← Decode.record ["stop_reason"] j
  r.maybe "stop_reason" Decode.string

def decodeError : Decoder (String × String) := fun j => do
  let r ← Decode.record ["type", "message"] j
  return (← r.text "type", ← r.text "message")

def decode : Decoder Event := fun j => do
  let (tag, body) ← Decode.tagged "type" j
  match tag with
  | "message_start" =>
    let r ← Decode.record ["message"] body
    return messageStart (← r.required "message" Reply.decode)
  | "content_block_start" =>
    let r ← Decode.record ["index", "content_block"] body
    return blockStart (← r.required "index" (Decode.natural 64))
      (← r.required "content_block" ReplyBlock.decode)
  | "content_block_delta" =>
    let r ← Decode.record ["index", "delta"] body
    return blockDelta (← r.required "index" (Decode.natural 64)) (← r.required "delta" Delta.decode)
  | "message_delta" =>
    let r ← Decode.record ["delta", "usage"] body
    return messageDelta (← r.required "delta" decodeStopReason) (← r.maybe "usage" Usage.decode)
  | "error" =>
    let r ← Decode.record ["error"] body
    let (kind, message) ← r.required "error" decodeError
    return error kind message
  | _ => return other

end Event

end ChatRetrieval.Claude
