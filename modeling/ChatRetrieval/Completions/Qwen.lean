import ChatRetrieval.Completions.Config

/-!
The Qwen chat model.
-/

namespace ChatRetrieval.Qwen

open Completions (ResponseFormat)
open Json (field nullable)

def provider : String := "qwen"

def defaultUrl : String := "https://dashscope.aliyuncs.com/compatible-mode/v1"

structure Config where
  common : Completions.Config
  seed : Option Int
  /-- Whether a hybrid model thinks; nothing leaves it to the model. -/
  thinking : Option Bool

/-- Refuses the tool choices the service cannot express. -/
def checkToolOptions (options : ChatOptions) : Result Unit :=
  match options.toolChoice with
  | some .allowed =>
    if options.allowedToolNames.isEmpty then .ok ()
    else .error Cause.allowedWithToolNames.failure
  | some .forced =>
    if 1 < options.allowedToolNames.length then
      Result.fail "only one allowed tool name can be configured for tool_choice 'forced'"
    else .ok ()
  | _ => .ok ()

namespace Config

def decode : Decoder Config := fun j => do
  let r ← Decode.record ["api_key", "base_url", "model", "max_tokens", "temperature", "top_p", "stop",
    "presence_penalty", "frequency_penalty", "response_format", "seed", "enable_thinking", "http",
    "retry"] j
  return {
    common := ← Completions.Config.ofRecord r "max_tokens" ResponseFormat.decode
    seed := ← r.maybe "seed" Decode.int64
    thinking := ← r.maybe "enable_thinking" Decode.bool }

def toJson (c : Config) : Json := .ofFields (c.common.fields "max_tokens" ResponseFormat.toJson ++ [
  field "seed" (nullable .int c.seed), field "enable_thinking" (nullable .bool c.thinking)])

def validate (c : Config) : Result Config := do
  return { c with common := ← c.common.validate defaultUrl }

def request (c : Config) (binding : Binding) (input : List Message) (options : ChatOptions) :
    Result Completions.Request := do
  checkToolOptions options
  let thinking := (options.qwen.bind id).or c.thinking
  let base := (c.common.request.override options).addField? "seed" .int c.seed
    |>.addField? "enable_thinking" .bool thinking
  let messages ← Completions.requestMessages provider "tool" input
  { base with messages }.withTools binding options

/-- Where this model's completions are asked for. -/
def endpoint (c : Config) : Result Completions.Endpoint :=
  Completions.Endpoint.under c.common.baseUrl provider c.common.client (fun _ m => m)

end Config

end ChatRetrieval.Qwen
