import ChatRetrieval.Ark.Responses.Input

/-!
Turning replies of the Responses service, whole or streamed, into messages.
-/

namespace ChatRetrieval.Ark.Responses

/-- The cache settings a request was sent with. -/
structure CacheState where
  enabled : Bool
  expireAt : Option Int64
  deriving DecidableEq

def CacheState.of (r : Request) : CacheState := ⟨r.caching == some true, r.expireAt⟩

/-- Notes expiry, ids and service tier. -/
def noteReply (reply : Reply) (cache : CacheState) (m : Message) : Message :=
  let m := if cache.enabled then Extra.setExpireAt m (cache.expireAt.getD 0) else m
  let m := Extra.setText (Extra.setText m Extra.contextIdKey reply.id) Extra.responseIdKey reply.id
  match reply.serviceTier with
  | some tier => Extra.setText m Extra.serviceTierKey tier
  | none => m

/-- The message of a reply's end, without its output. -/
def statusMessage (reply : Reply) (reason : String) (cache : CacheState) : Message :=
  noteReply reply cache { Message.blank .assistant with
    responseMeta := some ⟨if reason.isEmpty then none else some reason,
      some (Usage.toTokenUsage reply.usage), none⟩ }

/-- Why a reply ended: the error of a failed one, the reason of an incomplete one, else its status. -/
def finishReason (reply : Reply) : String :=
  match reply.status with
  | .failed => reply.error.getD ""
  | .incomplete => reply.incompleteReason.getD ""
  | status => status.name

/-- Puts a summary behind the reasoning, a blank line between them. -/
def addSummary (reasoning text : String) : String :=
  if text.isEmpty then reasoning
  else if reasoning.isEmpty then text
  else reasoning ++ "\n\n" ++ text

/-- Adds an output item to a message; a lone text becomes the content, more texts become parts. -/
def addItem (m : Message) : OutputItem → Message
  | .message [text] => { m with content := text }
  | .message texts => { m with assistantParts := m.assistantParts ++ texts.map .text }
  | .reasoning summary => { m with reasoning := summary.foldl addSummary m.reasoning }
  | .call _ callId name arguments =>
    { m with toolCalls := m.toolCalls ++ [.function callId name arguments] }
  | .other => m

/-- The message of a whole reply. -/
def outputMessage (reply : Reply) (cache : CacheState) : Result Message :=
  let m := statusMessage reply (finishReason reply) cache
  if reply.status = .failed ∨ reply.status = .incomplete then .ok m
  else if reply.output.isEmpty then Result.fail "received empty output from ARK"
  else .ok (reply.output.foldl addItem m)

/-- The function call whose arguments are coming in. -/
structure PendingCall where
  itemId : String
  callId : String
  name : String

/-- Where reading a stream stands. -/
structure StreamState where
  cache : CacheState
  pending : Option PendingCall

/-- The piece of a message that an event brings. Arguments count only for the call announced last. -/
def onEvent (s : StreamState) (e : Event) : Result (Option Message) × StreamState :=
  match e with
  | .created reply => (.ok (some (noteReply reply s.cache (.blank .assistant))), s)
  | .completed reply => (.ok (some (statusMessage reply reply.status.name s.cache)), s)
  | .incomplete reply => (.ok (some (statusMessage reply (finishReason reply) s.cache)), s)
  | .failed reply => (.ok (some (statusMessage reply (finishReason reply) s.cache)), s)
  | .error message => (Result.fail ("received error: " ++ message), s)
  | .itemAdded (.call id callId name _) =>
    (.ok none, { s with pending := some ⟨id.getD "", callId, name⟩ })
  | .itemAdded _ => (.ok none, s)
  | .argumentsDelta itemId index delta =>
    match s.pending with
    | some p =>
      if p.itemId = itemId then
        (.ok (some (.assistant ""
          [{ ToolCall.function p.callId p.name delta with index := some index }])), s)
      else (.ok none, s)
    | none => (.ok none, s)
  | .reasoningDelta delta => (.ok (some { Message.blank .assistant with reasoning := delta }), s)
  | .textDelta delta => (.ok (some (.assistant delta [])), s)
  | .other => (.ok none, s)

end ChatRetrieval.Ark.Responses
