import ChatRetrieval.Ark.Chat
import ChatRetrieval.Ark.Responses.Reply

/-!
The Ark Responses model: whole and streamed replies that go on from stored conversations, and
storing a beginning that later conversations share.
-/

namespace ChatRetrieval.Ark.Responses

open Json (field nullable)

structure Config where
  apiKey : String
  baseUrl : String
  region : String
  model : String
  maxOutputTokens : Option Nat
  temperature : Option Single
  topP : Option Single
  responseFormat : Option Completions.ResponseFormat
  thinking : Option Thinking
  serviceTier : Option ServiceTier
  reasoningEffort : Option ReasoningEffort
  sessionCache : Option SessionCache
  webSearch : Option WebSearch
  maxToolCalls : Option Int
  customHeaders : Dict String String
  http : HttpConfig
  retry : RetryConfig

namespace Config

def decode : Decoder Config := fun j => do
  let r ← Decode.record ["api_key", "base_url", "region", "model", "max_output_tokens", "temperature",
    "top_p", "response_format", "thinking", "service_tier", "reasoning_effort", "session_cache",
    "web_search", "max_tool_calls", "custom_headers", "http", "retry"] j
  return {
    apiKey := ← r.text "api_key"
    baseUrl := ← r.text "base_url"
    region := ← r.text "region"
    model := ← r.text "model"
    maxOutputTokens := ← r.maybe "max_output_tokens" (Decode.natural 32)
    temperature := ← r.maybe "temperature" Decode.single
    topP := ← r.maybe "top_p" Decode.single
    responseFormat := ← r.maybe "response_format" Completions.ResponseFormat.decode
    thinking := ← r.maybe "thinking" Thinking.decode
    serviceTier := ← r.maybe "service_tier" ServiceTier.decode
    reasoningEffort := ← r.maybe "reasoning_effort" ReasoningEffort.decode
    sessionCache := ← r.maybe "session_cache" SessionCache.decode
    webSearch := ← r.maybe "web_search" WebSearch.decode
    maxToolCalls := ← r.maybe "max_tool_calls" Decode.int64
    customHeaders := ← r.withDefault "custom_headers" Dict.empty (Decode.dict Decode.string)
    http := ← r.withDefault "http" .default HttpConfig.decode
    retry := ← r.withDefault "retry" .default RetryConfig.decode }

def toJson (c : Config) : Json := .ofFields [
  field "api_key" (.str c.apiKey), field "base_url" (.str c.baseUrl), field "region" (.str c.region),
  field "model" (.str c.model), field "max_output_tokens" (nullable .ofNat c.maxOutputTokens),
  field "temperature" (nullable .ofSingle c.temperature), field "top_p" (nullable .ofSingle c.topP),
  field "response_format" (nullable Completions.ResponseFormat.toJson c.responseFormat),
  field "thinking" (nullable Thinking.toJson c.thinking),
  field "service_tier" (nullable ServiceTier.toJson c.serviceTier),
  field "reasoning_effort" (nullable ReasoningEffort.toJson c.reasoningEffort),
  field "session_cache" (nullable SessionCache.toJson c.sessionCache),
  field "web_search" (nullable WebSearch.toJson c.webSearch),
  field "max_tool_calls" (nullable .int c.maxToolCalls),
  field "custom_headers" (.ofDict (c.customHeaders.map .str)), field "http" c.http.toJson,
  field "retry" c.retry.toJson]

/-- Requires key and model and fills in address and region. -/
def validate (c : Config) : Result Config :=
  if c.apiKey.isEmpty then .error (Cause.missingCredentials "APIKey").failure
  else if c.model.isEmpty then Result.fail "model is required"
  else .ok { c with
    baseUrl := if c.baseUrl.isEmpty then defaultUrl else c.baseUrl
    region := if c.region.isEmpty then defaultRegion else c.region }

/-- The body of a call before input, cache and tools. Stop words are not supported. -/
def baseRequest (c : Config) (options : ChatOptions) : Result Request :=
  if (options.stop.getD []).isEmpty then .ok {
    model := options.model.getD c.model
    input := []
    maxOutputTokens := options.maxTokens.or c.maxOutputTokens
    temperature := options.temperature.or c.temperature
    topP := options.topP.or c.topP
    format := c.responseFormat
    thinking := (options.ark.bind (·.thinking)).or c.thinking
    reasoningEffort := (options.ark.bind (·.reasoningEffort)).or c.reasoningEffort
    serviceTier := c.serviceTier
    previousResponseId := none
    store := none
    expireAt := none
    caching := none
    reusable := false
    tools := []
    toolChoice := none
    maxToolCalls := none
    streamed := false }
  else Result.fail "'Stop' is not supported by responses API"

def withTools (c : Config) (request : Request) (binding : Binding) (options : ChatOptions) :
    Result Request :=
  populateTools request binding options ((options.ark.bind (·.webSearch)).or c.webSearch)
    ((options.ark.bind (·.maxToolCalls)).or c.maxToolCalls)

/-- The body of a call at a given time. -/
def request (c : Config) (binding : Binding) (input : List Message) (options : ChatOptions)
    (now : Int64) : Result Request := do
  let base ← c.baseRequest options
  let (remaining, cached) ← populateCache input base c.sessionCache (options.ark.bind (·.cache)) now
  let items ← inputItems remaining
  c.withTools { cached with input := items } binding options

/-- The body of a call that stores a shared beginning. -/
def storingRequest (c : Config) (binding : Binding) (beginning : List Message) (ttl : Int64)
    (options : ChatOptions) (now : Int64) : Result Request := do
  let base ← c.baseRequest options
  let items ← inputItems beginning
  c.withTools { base with
    store := some true
    caching := some true
    reusable := true
    expireAt := if 0 < ttl then some (now + ttl) else none
    input := items } binding options

def headers (c : Config) (options : ChatOptions) : List (String × String) :=
  mergedHeaders c.customHeaders options.ark

def client (c : Config) : Chat.Client := ⟨[("Authorization", "Bearer " ++ c.apiKey)], c.retry⟩

def url (c : Config) : Result Url := Url.join c.baseUrl "responses"

end Config

/-- What storing a beginning gives. -/
structure StoredPrompt where
  /-- The response later conversations start from. -/
  responseId : String
  usage : TokenUsage

def generate (c : Config) (binding : Binding) (input : List Message) (options : ChatOptions) :
    Action Message := do
  let request ← Action.lift (c.request binding input options (← Action.unixTime))
  let url ← Action.lift c.url
  let answer ← c.client.postJson Reply.decode url request.toJson (c.headers options)
  Action.lift (outputMessage answer.body (.of request))

def stream (c : Config) (binding : Binding) (input : List Message) (options : ChatOptions) :
    Action (List (Result Message)) := do
  let request ← Action.lift (c.request binding input options (← Action.unixTime))
  let request := { request with streamed := true }
  let url ← Action.lift c.url
  let events ← c.client.postStream url request.toJson (c.headers options)
  return Chat.messagesFrom onEvent ⟨.of request, none⟩ (Chat.decodeEvents Event.decode events)

/-- Stores a beginning on the server, for `ttl` seconds when that is positive. -/
def storePrompt (c : Config) (binding : Binding) (beginning : List Message) (ttl : Int64)
    (options : ChatOptions) : Action StoredPrompt := do
  if beginning.isEmpty then Action.fail (.plain "prefix messages cannot be empty")
  let now ← Action.unixTime
  let request ← Action.lift (c.storingRequest binding beginning ttl options now)
  let url ← Action.lift c.url
  let answer ← c.client.postJson Reply.decode url request.toJson (c.headers options)
  return ⟨answer.body.id, Usage.toTokenUsage answer.body.usage⟩

end ChatRetrieval.Ark.Responses
