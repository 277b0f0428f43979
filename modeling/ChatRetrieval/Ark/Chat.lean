import ChatRetrieval.Ark.Extra
import ChatRetrieval.Completions.Config

/-!
The Ark chat-completions model. Its messages carry the names of the model and the service tier, and
for whole replies the id of the request.
-/

namespace ChatRetrieval.Ark

open Completions (ResponseFormat)
open Json (field nullable)

def provider : String := "ark"

def defaultUrl : String := "https://ark.cn-beijing.volces.com/api/v3"

def defaultRegion : String := "cn-beijing"

def requestIdHeader : String := "x-request-id"

structure ChatConfig where
  common : Completions.Config
  region : String
  logprobs : Bool
  topLogprobs : Option Nat
  thinking : Option Thinking
  serviceTier : Option ServiceTier
  reasoningEffort : Option ReasoningEffort
  customHeaders : Dict String String

/-- Sets a text unless it is missing or empty. -/
def setGiven (m : Message) (key : String) (text : Option String) : Message :=
  match text with
  | some t => if t.isEmpty then m else Extra.setText m key t
  | none => m

/-- Notes model name and service tier of a reply. -/
def decorate (reply : Completions.Reply) (m : Message) : Message :=
  setGiven (setGiven m Extra.modelNameKey reply.model) Extra.serviceTierKey reply.serviceTier

/-- Notes the id of the request when the reply's headers name one. -/
def noteRequestId (headers : Headers) (m : Message) : Message :=
  match headers.get? requestIdHeader with
  | some id => if Headers.isPlain id then Extra.setText m Extra.requestIdKey id else m
  | none => m

namespace ChatConfig

def decode : Decoder ChatConfig := fun j => do
  let r ← Decode.record ["api_key", "base_url", "region", "model", "max_tokens", "temperature",
    "top_p", "stop", "presence_penalty", "frequency_penalty", "response_format", "logprobs",
    "top_logprobs", "thinking", "service_tier", "reasoning_effort", "custom_headers", "http",
    "retry"] j
  return {
    common := ← Completions.Config.ofRecord r "max_tokens" ResponseFormat.decode
    region := ← r.text "region"
    logprobs := ← r.withDefault "logprobs" false Decode.bool
    topLogprobs := ← r.maybe "top_logprobs" (Decode.natural 32)
    thinking := ← r.maybe "thinking" Thinking.decode
    serviceTier := ← r.maybe "service_tier" ServiceTier.decode
    reasoningEffort := ← r.maybe "reasoning_effort" ReasoningEffort.decode
    customHeaders := ← r.withDefault "custom_headers" Dict.empty (Decode.dict Decode.string) }

def toJson (c : ChatConfig) : Json :=
  .ofFields (c.common.fields "max_tokens" ResponseFormat.toJson ++ [
    field "region" (.str c.region), field "logprobs" (.bool c.logprobs),
    field "top_logprobs" (nullable .ofNat c.topLogprobs),
    field "thinking" (nullable Thinking.toJson c.thinking),
    field "service_tier" (nullable ServiceTier.toJson c.serviceTier),
    field "reasoning_effort" (nullable ReasoningEffort.toJson c.reasoningEffort),
    field "custom_headers" (.ofDict (c.customHeaders.map .str))])

def validate (c : ChatConfig) : Result ChatConfig := do
  return { c with
    common := ← c.common.validate defaultUrl
    region := if c.region.isEmpty then defaultRegion else c.region }

def request (c : ChatConfig) (binding : Binding) (input : List Message) (options : ChatOptions) :
    Result Completions.Request := do
  let base := { c.common.request with
    logprobs := if c.logprobs then some true else none
    topLogprobs := c.topLogprobs }
  let extended := (base.override options).addField? "thinking" Thinking.toJson
      ((options.ark.bind (·.thinking)).or c.thinking)
    |>.addField? "service_tier" ServiceTier.toJson c.serviceTier
    |>.addField? "reasoning_effort" ReasoningEffort.toJson
      ((options.ark.bind (·.reasoningEffort)).or c.reasoningEffort)
  let messages ← Completions.requestMessages provider "tool" input
  { extended with messages }.withTools binding options

/-- Where this model's completions are asked for. -/
def endpoint (c : ChatConfig) : Result Completions.Endpoint :=
  Completions.Endpoint.under c.common.baseUrl provider c.common.client decorate

/-- The headers of a call beside those of the client. -/
def headers (c : ChatConfig) (options : ChatOptions) : List (String × String) :=
  mergedHeaders c.customHeaders options.ark

end ChatConfig

end ChatRetrieval.Ark
