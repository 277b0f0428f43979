import ChatRetrieval.Chat.Client
import ChatRetrieval.Chat.Options
import ChatRetrieval.Gemini.Input
import ChatRetrieval.Gemini.Reply
import ChatRetrieval.Http.Config

/-!
The Gemini chat model. The model is part of the address, and a stream is asked for by a query.
-/

namespace ChatRetrieval.Gemini

open Json (field nullable)

def defaultUrl : String := "https://generativelanguage.googleapis.com/v1beta"

structure Config where
  apiKey : String
  baseUrl : String
  model : String
  maxTokens : Option Nat
  temperature : Option Single
  topP : Option Single
  topK : Option Nat
  responseSchema : Option Json
  responseModalities : List Modality
  thinking : Option ThinkingConfig
  safetySettings : List SafetySetting
  codeExecution : Bool
  http : HttpConfig
  retry : RetryConfig

namespace Config

def decode : Decoder Config := fun j => do
  let r ← Decode.record ["api_key", "base_url", "model", "max_tokens", "temperature", "top_p", "top_k",
    "response_schema", "response_modalities", "thinking_config", "safety_settings",
    "enable_code_execution", "http", "retry"] j
  return {
    apiKey := ← r.text "api_key"
    baseUrl := ← r.text "base_url"
    model := ← r.text "model"
    maxTokens := ← r.maybe "max_tokens" (Decode.natural 32)
    temperature := ← r.maybe "temperature" Decode.single
    topP := ← r.maybe "top_p" Decode.single
    topK := ← r.maybe "top_k" (Decode.natural 32)
    responseSchema := ← r.maybe "response_schema" Decode.any
    responseModalities := ← r.listOf "response_modalities" Modality.decode
    thinking := ← r.maybe "thinking_config" ThinkingConfig.decode
    safetySettings := ← r.listOf "safety_settings" SafetySetting.decode
    codeExecution := ← r.withDefault "enable_code_execution" false Decode.bool
    http := ← r.withDefault "http" .default HttpConfig.decode
    retry := ← r.withDefault "retry" .default RetryConfig.decode }

def toJson (c : Config) : Json := .ofFields [
  field "api_key" (.str c.apiKey), field "base_url" (.str c.baseUrl), field "model" (.str c.model),
  field "max_tokens" (nullable .ofNat c.maxTokens),
  field "temperature" (nullable .ofSingle c.temperature), field "top_p" (nullable .ofSingle c.topP),
  field "top_k" (nullable .ofNat c.topK), field "response_schema" (nullable id c.responseSchema),
  field "response_modalities" (.arr (c.responseModalities.map Modality.toJson)),
  field "thinking_config" (nullable ThinkingConfig.toJson c.thinking),
  field "safety_settings" (.arr (c.safetySettings.map SafetySetting.toJson)),
  field "enable_code_execution" (.bool c.codeExecution), field "http" c.http.toJson,
  field "retry" c.retry.toJson]

/-- Requires key and model and fills in the address. -/
def validate (c : Config) : Result Config :=
  if c.apiKey.isEmpty then .error (Cause.missingCredentials "APIKey").failure
  else if c.model.isEmpty then Result.fail "model is required"
  else .ok { c with baseUrl := if c.baseUrl.isEmpty then defaultUrl else c.baseUrl }

/-- The body of a call. -/
def request (c : Config) (binding : Binding) (input : List Message) (options : ChatOptions) :
    Result Request := do
  let call := options.gemini.getD .none
  let tools := options.tools.getD binding.tools
  let choice ← ToolChoice.resolve (options.toolChoice.or binding.choice) options.allowedToolNames
    (tools.map (·.name))
  let contents ← contents input
  return {
    contents
    system := systemInstruction input
    tools
    codeExecution := c.codeExecution
    toolChoice := choice
    maxOutputTokens := options.maxTokens.or c.maxTokens
    temperature := options.temperature.or c.temperature
    topP := options.topP.or c.topP
    topK := call.topK.or c.topK
    stopSequences := options.stop.getD []
    responseSchema := call.responseSchema.or c.responseSchema
    responseModalities := call.responseModalities.getD c.responseModalities
    thinking := call.thinking.or c.thinking
    safetySettings := c.safetySettings }

def client (c : Config) : Chat.Client := ⟨[("x-goog-api-key", c.apiKey)], c.retry⟩

/-- The address of a method of the model a call uses. -/
def url (c : Config) (options : ChatOptions) (method : String) : Result Url :=
  let model := options.model.getD c.model
  let base := String.ofList (Text.dropLastWhile (· = '/') c.baseUrl.toList)
  Result.within "Failed to construct Gemini API URL" (Result.ofOption .url
    (Url.parse (base ++ "/models/" ++ (Text.after? "models/" model).getD model ++ ":" ++ method)))

end Config

def generate (c : Config) (binding : Binding) (input : List Message) (options : ChatOptions) :
    Action Message := do
  let request ← Action.lift (c.request binding input options)
  let url ← Action.lift (c.url options "generateContent")
  let answer ← c.client.postJson Reply.decode url request.toJson []
  Action.lift (responseMessage answer.body)

def stream (c : Config) (binding : Binding) (input : List Message) (options : ChatOptions) :
    Action (List (Result Message)) := do
  let request ← Action.lift (c.request binding input options)
  let url ← Action.lift (c.url options "streamGenerateContent")
  let events ← c.client.postStream (url.withQuery "alt=sse") request.toJson []
  return Chat.messagesOf (fun reply => .ok (candidateMessage reply))
    (Chat.decodeEvents Reply.decode events)

end ChatRetrieval.Gemini
