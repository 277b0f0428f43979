import ChatRetrieval.Json.Decode

/-!
Settings shared by the two Ark models: deep thinking, reasoning effort, service tier, the session
cache and web search.
-/

namespace ChatRetrieval.Ark

open Json (field field? nullable)

inductive Thinking where
  | enabled
  | disabled
  | auto
  deriving DecidableEq

inductive ReasoningEffort where
  | minimal
  | low
  | medium
  | high
  deriving DecidableEq

inductive ServiceTier where
  | auto
  | default
  deriving DecidableEq

inductive SearchSource where
  | toutiao
  | douyin
  | moji
  deriving DecidableEq

namespace Thinking

def name : Thinking → String
  | enabled => "enabled"
  | disabled => "disabled"
  | auto => "auto"

def toJson (t : Thinking) : Json := .ofFields [field "type" (.str t.name)]

def decodeName : Decoder Thinking :=
  Decode.oneOf ([enabled, disabled, auto].map fun t => (t.name, t))

def decode : Decoder Thinking := fun j => do
  let r ← Decode.record ["type"] j
  r.required "type" decodeName

end Thinking

namespace ReasoningEffort

def name : ReasoningEffort → String
  | minimal => "minimal"
  | low => "low"
  | medium => "medium"
  | high => "high"

def toJson (e : ReasoningEffort) : Json := .str e.name

def decode : Decoder ReasoningEffort :=
  Decode.oneOf ([minimal, low, medium, high].map fun e => (e.name, e))

end ReasoningEffort

namespace ServiceTier

def name : ServiceTier → String
  | auto => "auto"
  | default => "default"

def toJson (t : ServiceTier) : Json := .str t.name

def decode : Decoder ServiceTier := Decode.oneOf ([auto, default].map fun t => (t.name, t))

end ServiceTier

namespace SearchSource

def name : SearchSource → String
  | toutiao => "toutiao"
  | douyin => "douyin"
  | moji => "moji"

def toJson (s : SearchSource) : Json := .str s.name

def decode : Decoder SearchSource :=
  Decode.oneOf ([toutiao, douyin, moji].map fun s => (s.name, s))

end SearchSource

/-- Keeps each turn on the server so that the next call can go on from it. -/
structure SessionCache where
  enabled : Bool
  /-- Lifetime of a stored turn in seconds. -/
  ttl : Int64
  deriving DecidableEq

namespace SessionCache

def toJson (c : SessionCache) : Json :=
  .ofFields [field "enable_cache" (.bool c.enabled), field "ttl" (.int c.ttl.toInt)]

def decode : Decoder SessionCache := fun j => do
  let r ← Decode.record ["enable_cache", "ttl"] j
  return ⟨← r.withDefault "enable_cache" false Decode.bool,
    .ofInt (← r.withDefault "ttl" 0 Decode.int64)⟩

end SessionCache

structure UserLocation where
  city : Option String
  country : Option String
  region : Option String
  timezone : Option String
  deriving DecidableEq

namespace UserLocation

def fields (l : UserLocation) : List (Option (String × Json)) := [
  field? "city" .str l.city, field? "country" .str l.country, field? "region" .str l.region,
  field? "timezone" .str l.timezone]

def toJson (l : UserLocation) : Json := .ofFields l.fields

def decode : Decoder UserLocation := fun j => do
  let r ← Decode.record ["city", "country", "region", "timezone"] j
  return ⟨← r.optional "city" Decode.string, ← r.optional "country" Decode.string,
    ← r.optional "region" Decode.string, ← r.optional "timezone" Decode.string⟩

end UserLocation

/-- The built-in search tool. -/
structure WebSearch where
  limit : Option Int
  userLocation : Option UserLocation
  sources : List SearchSource
  maxKeyword : Option Int
  deriving DecidableEq

namespace WebSearch

def toJson (w : WebSearch) : Json := .ofFields [
  field "limit" (nullable .int w.limit),
  field "user_location" (nullable UserLocation.toJson w.userLocation),
  field "sources" (.arr (w.sources.map SearchSource.toJson)),
  field "max_keyword" (nullable .int w.maxKeyword)]

def decode : Decoder WebSearch := fun j => do
  let r ← Decode.record ["limit", "user_location", "sources", "max_keyword"] j
  return {
    limit := ← r.optional "limit" Decode.int64
    userLocation := ← r.optional "user_location" UserLocation.decode
    sources := ← r.required "sources" (Decode.list SearchSource.decode)
    maxKeyword := ← r.optional "max_keyword" Decode.int32 }

end WebSearch

/-- Which stored conversation a call goes on from. -/
structure CacheOption where
  /-- A context made by the older context service; it goes before response ids. -/
  contextId : Option String
  /-- The response to go on from when no cached message is found. -/
  headResponseId : Option String
  /-- Replaces the configured session cache. -/
  sessionCache : Option SessionCache
  deriving DecidableEq

/-- Options of one call. -/
structure Options where
  customHeaders : Dict String String
  thinking : Option Thinking
  reasoningEffort : Option ReasoningEffort
  webSearch : Option WebSearch
  maxToolCalls : Option Int
  cache : Option CacheOption
  deriving DecidableEq

/-- The configured headers and those of the call, the call's winning. -/
def mergedHeaders (configured : Dict String String) (options : Option Options) :
    List (String × String) :=
  match options with
  | some o => (configured.union o.customHeaders).entries
  | none => configured.entries

end ChatRetrieval.Ark
