import ChatRetrieval.Chat.Client
import ChatRetrieval.Chat.Options
import ChatRetrieval.Claude.Reply
import ChatRetrieval.Http.Config
import ChatRetrieval.Pipeline

/-!
The Claude chat model.
-/

namespace ChatRetrieval.Claude

open Json (field nullable)

def defaultUrl : String := "https://api.anthropic.com/v1"

def apiVersion : String := "2023-06-01"

structure Config where
  apiKey : String
  baseUrl : String
  model : String
  maxTokens : Nat
  temperature : Option Single
  topP : Option Single
  topK : Option Nat
  stopSequences : List String
  thinking : Option Thinking
  disableParallelTools : Option Bool
  http : HttpConfig
  retry : RetryConfig

namespace Config

def decode : Decoder Config := fun j => do
  let r ← Decode.record ["api_key", "base_url", "model", "max_tokens", "temperature", "top_p", "top_k",
    "stop_sequences", "thinking", "disable_parallel_tool_use", "http", "retry"] j
  return {
    apiKey := ← r.text "api_key"
    baseUrl := ← r.text "base_url"
    model := ← r.text "model"
    maxTokens := ← r.withDefault "max_tokens" 0 (Decode.natural 32)
    temperature := ← r.maybe "temperature" Decode.single
    topP := ← r.maybe "top_p" Decode.single
    topK := ← r.maybe "top_k" (Decode.natural 32)
    stopSequences := ← r.listOf "stop_sequences" Decode.string
    thinking := ← r.maybe "thinking" Thinking.decode
    disableParallelTools := ← r.maybe "disable_parallel_tool_use" Decode.bool
    http := ← r.withDefault "http" .default HttpConfig.decode
    retry := ← r.withDefault "retry" .default RetryConfig.decode }

def toJson (c : Config) : Json := .ofFields [
  field "api_key" (.str c.apiKey), field "base_url" (.str c.baseUrl), field "model" (.str c.model),
  field "max_tokens" (.ofNat c.maxTokens), field "temperature" (nullable .ofSingle c.temperature),
  field "top_p" (nullable .ofSingle c.topP), field "top_k" (nullable .ofNat c.topK),
  field "stop_sequences" (.ofStrings c.stopSequences),
  field "thinking" (nullable Thinking.toJson c.thinking),
  field "disable_parallel_tool_use" (nullable .bool c.disableParallelTools),
  field "http" c.http.toJson, field "retry" c.retry.toJson]

/-- Requires key, model and token limit and fills in the address. -/
def validate (c : Config) : Result Config :=
  if c.apiKey.isEmpty then .error (Cause.missingCredentials "APIKey").failure
  else if c.model.isEmpty then Result.fail "model is required"
  else if c.maxTokens = 0 then Result.fail "max_tokens is required"
  else .ok { c with baseUrl := if c.baseUrl.isEmpty then defaultUrl else c.baseUrl }

/-- The body of a call. -/
def request (c : Config) (binding : Binding) (input : List Message) (options : ChatOptions) :
    Result Request := do
  let call := options.claude.getD .none
  let tools := options.tools.getD binding.tools
  let choice ← toolChoice (options.toolChoice.or binding.choice) options.allowedToolNames
    (tools.map (·.name)) (call.disableParallelTools.or c.disableParallelTools)
  let messages ← inputMessages input
  let thinking := call.thinking.or c.thinking
  let plain : Request := {
    model := options.model.getD c.model
    maxTokens := options.maxTokens.getD c.maxTokens
    system := systemBlocks input
    messages
    temperature := options.temperature.or c.temperature
    topP := options.topP.or c.topP
    topK := call.topK.or c.topK
    stopSequences := options.stop.getD c.stopSequences
    thinkingBudget := thinking.bind fun t => if t.enabled then some t.budgetTokens else none
    tools := toolDefinitions tools
    toolChoice := choice
    streamed := false }
  let cacheAll := Transformation.guarded (fun _ => call.autoCache.getD false) Request.withCache
  return Transformation.identity.pipe cacheAll plain

def client (c : Config) : Chat.Client :=
  ⟨[("x-api-key", c.apiKey), ("anthropic-version", apiVersion)], c.retry⟩

def url (c : Config) : Result Url := Url.join c.baseUrl "messages"

end Config

def generate (c : Config) (binding : Binding) (input : List Message) (options : ChatOptions) :
    Action Message := do
  let request ← Action.lift (c.request binding input options)
  let url ← Action.lift c.url
  let answer ← c.client.postJson Reply.decode url request.toJson []
  return responseMessage answer.body

def stream (c : Config) (binding : Binding) (input : List Message) (options : ChatOptions) :
    Action (List (Result Message)) := do
  let request ← Action.lift (c.request binding input options)
  let url ← Action.lift c.url
  let events ← c.client.postStream url { request with streamed := true }.toJson []
  return Chat.messagesFrom onEvent .zero (Chat.decodeEvents Event.decode events)

end ChatRetrieval.Claude
