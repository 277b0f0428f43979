import ChatRetrieval.Message.Basic

/-!
The JSON form of messages. Decoding undoes encoding; empty lists, texts and maps that may be missing
are left out.
-/

namespace ChatRetrieval

open Json (field field? fieldList fieldText fieldDict)

namespace ImageDetail

def toJson (d : ImageDetail) : Json := .str d.name

def decode : Decoder ImageDetail :=
  Decode.oneOf ([high, low, auto].map fun d => (d.name, d))

end ImageDetail

namespace ContentPart

def toJson : ContentPart → Json
  | text t => .ofFields [field "type" (.str "text"), field "text" (.str t)]
  | image url detail mimeType => .ofFields [field "type" (.str "image_url"), field "url" (.str url),
      field? "detail" ImageDetail.toJson detail, field? "mime_type" .str mimeType]
  | audio url mimeType => .ofFields [field "type" (.str "audio_url"), field "url" (.str url),
      field? "mime_type" .str mimeType]
  | video url mimeType => .ofFields [field "type" (.str "video_url"), field "url" (.str url),
      field? "mime_type" .str mimeType]
  | file url mimeType => .ofFields [field "type" (.str "file_url"), field "url" (.str url),
      field? "mime_type" .str mimeType]

/-- A part made of an address and a media type. -/
def decodeMedia (make : String → Option String → ContentPart) (body : Json) : Option ContentPart := do
  let r ← Decode.record ["url", "mime_type"] body
  return make (← r.required "url" Decode.string) (← r.maybe "mime_type" Decode.string)

def decode : Decoder ContentPart := fun j => do
  let (tag, body) ← Decode.tagged "type" j
  match tag with
  | "text" =>
    let r ← Decode.record ["text"] body
    return text (← r.required "text" Decode.string)
  | "image_url" =>
    let r ← Decode.record ["url", "detail", "mime_type"] body
    return image (← r.required "url" Decode.string) (← r.maybe "detail" ImageDetail.decode)
      (← r.maybe "mime_type" Decode.string)
  | "audio_url" => decodeMedia audio body
  | "video_url" => decodeMedia video body
  | "file_url" => decodeMedia file body
  | _ => none

end ContentPart

namespace ToolCall

def toJson (c : ToolCall) : Json := .ofFields [
  field? "index" .ofNat c.index, field "id" (.str c.id), field "type" (.str c.kind),
  field "function" (.ofFields [field "name" (.str c.name), field "arguments" (.str c.arguments)]),
  fieldDict "extra" c.extra]

def decodeFunction : Decoder (String × String) := fun j => do
  let r ← Decode.record ["name", "arguments"] j
  return (← r.required "name" Decode.string, ← r.required "arguments" Decode.string)

def decode : Decoder ToolCall := fun j => do
  let r ← Decode.record ["index", "id", "type", "function", "extra"] j
  let index ← r.maybe "index" (Decode.natural 64)
  let id ← r.required "id" Decode.string
  let kind ← r.required "type" Decode.string
  let (name, arguments) ← r.required "function" decodeFunction
  return { index, id, kind, name, arguments, extra := ← r.objectOf "extra" }

end ToolCall

namespace TokenUsage

def toJson (u : TokenUsage) : Json := .ofFields [
  field "prompt_tokens" (.ofNat u.promptTokens),
  field "prompt_token_details" (.ofFields [field "cached_tokens" (.ofNat u.cachedTokens)]),
  field "completion_tokens" (.ofNat u.completionTokens),
  field "completion_tokens_details" (.ofFields [field "reasoning_tokens" (.ofNat u.reasoningTokens)]),
  field "total_tokens" (.ofNat u.totalTokens)]

/-- A count that is the only field of a record. -/
def decodeDetail (name : String) : Decoder Nat := fun j => do
  let r ← Decode.record [name] j
  r.required name (Decode.natural 64)

def decode : Decoder TokenUsage := fun j => do
  let r ← Decode.record ["prompt_tokens", "prompt_token_details", "completion_tokens",
    "completion_tokens_details", "total_tokens"] j
  return {
    promptTokens := ← r.required "prompt_tokens" (Decode.natural 64)
    cachedTokens := ← r.required "prompt_token_details" (decodeDetail "cached_tokens")
    completionTokens := ← r.required "completion_tokens" (Decode.natural 64)
    reasoningTokens := ← r.required "completion_tokens_details" (decodeDetail "reasoning_tokens")
    totalTokens := ← r.required "total_tokens" (Decode.natural 64) }

end TokenUsage

def TopLogProb.toJson (p : TopLogProb) : Json := .ofFields [
  field "token" (.str p.token), field "logprob" (.ofDouble p.logprob), fieldList "bytes" .int p.bytes]

def TopLogProb.decode : Decoder TopLogProb := fun j => do
  let r ← Decode.record ["token", "logprob", "bytes"] j
  return ⟨← r.required "token" Decode.string, ← r.required "logprob" Decode.double,
    ← r.listOf "bytes" Decode.int64⟩

def LogProb.toJson (p : LogProb) : Json := .ofFields [
  field "token" (.str p.token), field "logprob" (.ofDouble p.logprob), fieldList "bytes" .int p.bytes,
  fieldList "top_logprobs" TopLogProb.toJson p.alternatives]

def LogProb.decode : Decoder LogProb := fun j => do
  let r ← Decode.record ["token", "logprob", "bytes", "top_logprobs"] j
  return ⟨← r.required "token" Decode.string, ← r.required "logprob" Decode.double,
    ← r.listOf "bytes" Decode.int64, ← r.listOf "top_logprobs" TopLogProb.decode⟩

namespace ResponseMeta

def logprobsToJson (ps : List LogProb) : Json :=
  .ofFields [field "content" (.arr (ps.map LogProb.toJson))]

def decodeLogprobs : Decoder (List LogProb) := fun j => do
  let r ← Decode.record ["content"] j
  r.required "content" (Decode.list LogProb.decode)

def toJson (m : ResponseMeta) : Json := .ofFields [
  field? "finish_reason" .str m.finishReason, field? "usage" TokenUsage.toJson m.usage,
  field? "logprobs" logprobsToJson m.logprobs]

def decode : Decoder ResponseMeta := fun j => do
  let r ← Decode.record ["finish_reason", "usage", "logprobs"] j
  return ⟨← r.maybe "finish_reason" Decode.string, ← r.maybe "usage" TokenUsage.decode,
    ← r.maybe "logprobs" decodeLogprobs⟩

end ResponseMeta

namespace Message

def toJson (m : Message) : Json := .ofFields [
  field "role" m.role.toJson, field "content" (.str m.content),
  fieldList "user_input_multi_content" ContentPart.toJson m.userParts,
  fieldList "assistant_gen_multi_content" ContentPart.toJson m.assistantParts,
  fieldText "reasoning_content" m.reasoning, fieldList "tool_calls" ToolCall.toJson m.toolCalls,
  field? "tool_call_id" .str m.toolCallId, field? "tool_name" .str m.toolName,
  field? "response_meta" ResponseMeta.toJson m.responseMeta, fieldDict "extra" m.extra]

def decode : Decoder Message := fun j => do
  let r ← Decode.record ["role", "content", "user_input_multi_content",
    "assistant_gen_multi_content", "reasoning_content", "tool_calls", "tool_call_id", "tool_name",
    "response_meta", "extra"] j
  return {
    role := ← r.required "role" Role.decode
    content := ← r.text "content"
    userParts := ← r.listOf "user_input_multi_content" ContentPart.decode
    assistantParts := ← r.listOf "assistant_gen_multi_content" ContentPart.decode
    reasoning := ← r.text "reasoning_content"
    toolCalls := ← r.listOf "tool_calls" ToolCall.decode
    toolCallId := ← r.maybe "tool_call_id" Decode.string
    toolName := ← r.maybe "tool_name" Decode.string
    responseMeta := ← r.maybe "response_meta" ResponseMeta.decode
    extra := ← r.objectOf "extra" }

end Message

end ChatRetrieval
