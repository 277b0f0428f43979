import ChatRetrieval.Json.Decode

/-!
Settings of an HTTP connection. Times are in seconds.
-/

namespace ChatRetrieval

open Json (field)

structure HttpConfig where
  connectTimeout : Nat
  readTimeout : Nat
  poolIdleTimeout : Nat
  poolMaxIdlePerHost : Nat
  maxRedirects : Nat
  deriving DecidableEq

namespace HttpConfig

def default : HttpConfig := ⟨30, 900, 90, 5, 10⟩

instance : Inhabited HttpConfig := ⟨default⟩

def toJson (c : HttpConfig) : Json := .ofFields [
  field "connectTimeout" (.ofNat c.connectTimeout), field "readTimeout" (.ofNat c.readTimeout),
  field "poolIdleTimeout" (.ofNat c.poolIdleTimeout),
  field "poolMaxIdlePerHost" (.ofNat c.poolMaxIdlePerHost),
  field "maxRedirects" (.ofNat c.maxRedirects)]

def decode : Decoder HttpConfig := fun j => do
  let r ← Decode.record ["connectTimeout", "readTimeout", "poolIdleTimeout", "poolMaxIdlePerHost",
    "maxRedirects"] j
  return ⟨← r.required "connectTimeout" (Decode.natural 64),
    ← r.required "readTimeout" (Decode.natural 64),
    ← r.required "poolIdleTimeout" (Decode.natural 64),
    ← r.required "poolMaxIdlePerHost" (Decode.natural 64),
    ← r.required "maxRedirects" (Decode.natural 64)⟩

end HttpConfig

end ChatRetrieval
