import ChatRetrieval.Completions.Reply
import ChatRetrieval.Http.Config
import ChatRetrieval.Retry

/-!
The configuration that all chat-completions models share.
-/

namespace ChatRetrieval.Completions

open Json (field nullable)

structure Config where
  apiKey : String
  baseUrl : String
  model : String
  maxTokens : Option Nat
  temperature : Option Single
  topP : Option Single
  stop : Option (List String)
  presencePenalty : Option Single
  frequencyPenalty : Option Single
  responseFormat : Option ResponseFormat
  http : HttpConfig
  retry : RetryConfig

namespace Config

/-- Reads the shared fields; `maxTokensName` is the name of the token limit. -/
def ofRecord (r : Decode.Record) (maxTokensName : String) (format : Decoder ResponseFormat) :
    Option Config := do
  return {
    apiKey := ← r.text "api_key"
    baseUrl := ← r.text "base_url"
    model := ← r.text "model"
    maxTokens := ← r.maybe maxTokensName (Decode.natural 32)
    temperature := ← r.maybe "temperature" Decode.single
    topP := ← r.maybe "top_p" Decode.single
    stop := ← r.maybe "stop" (Decode.list Decode.string)
    presencePenalty := ← r.maybe "presence_penalty" Decode.single
    frequencyPenalty := ← r.maybe "frequency_penalty" Decode.single
    responseFormat := ← r.maybe "response_format" format
    http := ← r.withDefault "http" .default HttpConfig.decode
    retry := ← r.withDefault "retry" .default RetryConfig.decode }

/-- The shared fields as members. -/
def fields (c : Config) (maxTokensName : String) (format : ResponseFormat → Json) :
    List (Option (String × Json)) := [
  field "api_key" (.str c.apiKey), field "base_url" (.str c.baseUrl), field "model" (.str c.model),
  field maxTokensName (nullable .ofNat c.maxTokens),
  field "temperature" (nullable .ofSingle c.temperature), field "top_p" (nullable .ofSingle c.topP),
  field "stop" (nullable .ofStrings c.stop),
  field "presence_penalty" (nullable .ofSingle c.presencePenalty),
  field "frequency_penalty" (nullable .ofSingle c.frequencyPenalty),
  field "response_format" (nullable format c.responseFormat), field "http" c.http.toJson,
  field "retry" c.retry.toJson]

/-- Requires key and model and fills in the address. -/
def validate (c : Config) (defaultUrl : String) : Result Config :=
  if c.apiKey.isEmpty then .error (Cause.missingCredentials "APIKey").failure
  else if c.model.isEmpty then Result.fail "model is required"
  else .ok { c with baseUrl := if c.baseUrl.isEmpty then defaultUrl else c.baseUrl }

/-- The body of a call before messages, tools and the options of the call. -/
def request (c : Config) : Request :=
  { Request.blank c.model with
    maxTokens := c.maxTokens
    temperature := c.temperature
    topP := c.topP
    stop := c.stop
    presencePenalty := c.presencePenalty
    frequencyPenalty := c.frequencyPenalty
    responseFormat := c.responseFormat }

/-- A client that sends the key as a bearer token. -/
def client (c : Config) : Chat.Client := ⟨[("Authorization", "Bearer " ++ c.apiKey)], c.retry⟩

end Config

end ChatRetrieval.Completions
