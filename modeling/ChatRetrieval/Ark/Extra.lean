import ChatRetrieval.Ark.Settings
import ChatRetrieval.Message.Basic

/-!
Facts about an Ark reply kept in the extra values of its message. They survive putting the pieces of
a stream together.
-/

namespace ChatRetrieval.Ark.Extra

def requestIdKey : String := "ark-request-id"
def modelNameKey : String := "ark-model-name"
def serviceTierKey : String := "ark-service-tier"
def responseIdKey : String := "ark-response-id"
def contextIdKey : String := "ark-context-id"
def cachingKey : String := "ark-response-caching"
def expireAtKey : String := "ark-response-cache-expire-at"
def videoFpsKey : String := "ark-input-video-fps"

/-- Whether the session cache stored a reply. -/
inductive Caching where
  | enabled
  | disabled
  deriving DecidableEq

def Caching.name : Caching → String
  | enabled => "enabled"
  | disabled => "disabled"

def Caching.decode : Decoder Caching :=
  Decode.oneOf ([enabled, disabled].map fun c => (c.name, c))

/-- A text kept under a key. -/
def text? (m : Message) (key : String) : Option String := (m.extra.get? key).bind Json.asString?

def setText (m : Message) (key text : String) : Message := m.setExtra key (.str text)

def caching? (m : Message) : Option Caching := (m.extra.get? cachingKey).bind Caching.decode

def setCaching (m : Message) (c : Caching) : Message := m.setExtra cachingKey (.str c.name)

/-- The second after which the stored reply is gone. -/
def expireAt? (m : Message) : Option Int64 :=
  ((m.extra.get? expireAtKey).bind Json.asInt64?).map .ofInt

def setExpireAt (m : Message) (second : Int64) : Message :=
  m.setExtra expireAtKey (.int second.toInt)

def responseId? (m : Message) : Option String := text? m responseIdKey

/-- The members of the value kept under a key; none when it is no object. -/
def membersUnder (m : Message) (key : String) : List (String × Json) :=
  match m.extra.get? key with
  | some (.obj ms) => ms
  | _ => []

/-- Sets how often the input video at an address is sampled. -/
def setVideoFps (m : Message) (url : String) (fps : Single) : Message :=
  m.setExtra videoFpsKey (.ofMembers (membersUnder m videoFpsKey ++ [(url, .ofSingle fps)]))

def videoFps? (m : Message) (url : String) : Option Single := do
  let videos ← m.extra.get? videoFpsKey
  let fps ← videos.get? url
  return (← fps.asDouble?).toSingle

/-- Forgets that a reply is stored, so that no call goes on from it. -/
def invalidate (m : Message) : Message := { m with extra := m.extra.erase expireAtKey }

end ChatRetrieval.Ark.Extra
