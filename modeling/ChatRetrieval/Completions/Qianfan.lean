import ChatRetrieval.Completions.Config

/-!
The Qianfan chat model. It takes every content as a list of parts and calls the tool role `function`.
-/

namespace ChatRetrieval.Qianfan

open Completions (ResponseFormat RequestMessage Content)
open Json (field nullable)

def provider : String := "qianfan"

def defaultUrl : String := "https://qianfan.baidubce.com/v2"

structure Config where
  common : Completions.Config
  penaltyScore : Option Single
  seed : Option Int
  user : Option String
  parallelToolCalls : Option Bool

/-- A content as a list of parts, an empty text as none. -/
def contentAsParts : Option Content → Result (Option Content)
  | some (.text t) => .ok (if t.isEmpty then none else some (.parts [.text t]))
  | some (.parts ps) =>
    if ps.any fun p => p.isVideo then .error (Cause.unsupportedPart provider "video_url").failure
    else .ok (some (.parts ps))
  | none => .ok none

def messageAsParts (m : RequestMessage) : Result RequestMessage := do
  return { m with content := ← contentAsParts m.content }

def requestMessages (input : List Message) : Result (List RequestMessage) := do
  let messages ← Completions.requestMessages provider "function" input
  messages.mapM messageAsParts

namespace Config

def decode : Decoder Config := fun j => do
  let r ← Decode.record ["api_key", "base_url", "model", "max_completion_tokens", "temperature",
    "top_p", "stop", "presence_penalty", "frequency_penalty", "penalty_score", "seed", "user",
    "parallel_tool_calls", "response_format", "http", "retry"] j
  return {
    common := ← Completions.Config.ofRecord r "max_completion_tokens" ResponseFormat.decode
    penaltyScore := ← r.maybe "penalty_score" Decode.single
    seed := ← r.maybe "seed" Decode.int64
    user := ← r.maybe "user" Decode.string
    parallelToolCalls := ← r.maybe "parallel_tool_calls" Decode.bool }

def toJson (c : Config) : Json :=
  .ofFields (c.common.fields "max_completion_tokens" ResponseFormat.toJson ++ [
    field "penalty_score" (nullable .ofSingle c.penaltyScore), field "seed" (nullable .int c.seed),
    field "user" (nullable .str c.user),
    field "parallel_tool_calls" (nullable .bool c.parallelToolCalls)])

def validate (c : Config) : Result Config := do
  return { c with common := ← c.common.validate defaultUrl }

def request (c : Config) (binding : Binding) (input : List Message) (options : ChatOptions) :
    Result Completions.Request := do
  let base := c.common.request.addField? "penalty_score" .ofSingle c.penaltyScore
    |>.addField? "seed" .int c.seed
    |>.addField? "user" .str c.user
    |>.addField? "parallel_tool_calls" .bool c.parallelToolCalls
  let messages ← requestMessages input
  { base.override options with messages }.withTools binding options

/-- Where this model's completions are asked for. -/
def endpoint (c : Config) : Result Completions.Endpoint :=
  Completions.Endpoint.under c.common.baseUrl provider c.common.client (fun _ m => m)

end Config

end ChatRetrieval.Qianfan
