import ChatRetrieval.Completions.Config

/-!
The DeepSeek chat model.
-/

namespace ChatRetrieval.DeepSeek

open Completions (ResponseFormat FormatKind)
open Json (field nullable)

def provider : String := "deepseek"

def defaultUrl : String := "https://api.deepseek.com/"

structure Config where
  common : Completions.Config
  logprobs : Bool
  topLogprobs : Option Nat

namespace Config

/-- The reply formats on offer, by name. -/
def decodeFormat : Decoder ResponseFormat :=
  Decode.oneOf [("text", ⟨.text, none⟩), ("json_object", ⟨.jsonObject, none⟩)]

def formatToJson (f : ResponseFormat) : Json := .str f.kind.name

def decode : Decoder Config := fun j => do
  let r ← Decode.record ["api_key", "base_url", "model", "max_tokens", "temperature", "top_p", "stop",
    "presence_penalty", "frequency_penalty", "response_format", "logprobs", "top_logprobs", "http",
    "retry"] j
  return {
    common := ← Completions.Config.ofRecord r "max_tokens" decodeFormat
    logprobs := ← r.withDefault "logprobs" false Decode.bool
    topLogprobs := ← r.maybe "top_logprobs" (Decode.natural 32) }

def toJson (c : Config) : Json := .ofFields (c.common.fields "max_tokens" formatToJson ++ [
  field "logprobs" (.bool c.logprobs), field "top_logprobs" (nullable .ofNat c.topLogprobs)])

def validate (c : Config) : Result Config := do
  return { c with common := ← c.common.validate defaultUrl }

def request (c : Config) (binding : Binding) (input : List Message) (options : ChatOptions) :
    Result Completions.Request := do
  let base := { c.common.request with
    logprobs := if c.logprobs then some true else none
    topLogprobs := c.topLogprobs }
  let messages ← Completions.requestMessages provider "tool" input
  { base.override options with messages }.withTools binding options

/-- Where this model's completions are asked for. -/
def endpoint (c : Config) : Result Completions.Endpoint :=
  Completions.Endpoint.under c.common.baseUrl provider c.common.client (fun _ m => m)

end Config

end ChatRetrieval.DeepSeek
