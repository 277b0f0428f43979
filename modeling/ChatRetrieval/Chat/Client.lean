import ChatRetrieval.Http.Transport
import ChatRetrieval.Json.Reader
import ChatRetrieval.Message.Basic
import ChatRetrieval.Retry

/-!
Requests to a chat model: JSON posts and event streams, each repeated while it fails for a reason
that may pass. A stream that was opened is never opened again: it delivers its events up to and
including its first failure.
-/

namespace ChatRetrieval.Chat

/-- What every request of one model shares. -/
structure Client where
  /-- Headers behind the content type. -/
  headers : List (String × String)
  retry : RetryConfig

/-- A decoded reply with the headers it came with. -/
structure Answer (α : Type) where
  body : α
  headers : Headers

/-- The headers of a request; a later one replaces an earlier one of the same name. -/
def Client.requestHeaders (c : Client) (extra : List (String × String)) : Result Headers :=
  Headers.ofPairs (("Content-Type", "application/json") :: c.headers ++ extra)

/-- Runs an attempt as often as the configuration allows. -/
def retrying {α : Type} (config : RetryConfig) (attempt : Action α) : Action α := fun s =>
  let ((r, _), s) := retry (fun s => let (r, s) := attempt s; (Result.classify config r, s))
    config.maxRetries s
  (r, s)

/-- One post and the decoding of its reply. -/
def postOnce {α : Type} (d : Decoder α) (request : Request) : Action (Answer α) := do
  let response ← (Http.send request).within (Http.contextText none "POST" request.url)
  let body ← Action.lift (Http.readJson d response "POST" request.url)
  return ⟨body, response.headers⟩

/-- Posts a JSON body and decodes the reply. -/
def Client.postJson {α : Type} (c : Client) (d : Decoder α) (url : Url) (body : Json)
    (extra : List (String × String)) : Action (Answer α) := do
  let headers ← Action.lift (c.requestHeaders extra)
  retrying c.retry (postOnce d ⟨.post, url.text, headers, .json body⟩)

/-- A stream refused with a status fails like a reply with that status. -/
def streamFailure (f : Failure) : Failure :=
  match f.cause with
  | .streamStatus status body => (Cause.httpStatus status (body.getD "")).failure
  | .streamContentType contentType status => (Cause.streamContentType contentType status).failure
  | .streamTransport text => (Cause.streamTransport text).failure
  | .streamEnded => Cause.streamEnded.failure
  | _ => f

/-- The events up to and including the first failure. -/
def untilFailure (context : String) : List (Result String) → List (Result String)
  | [] => []
  | .ok e :: r => .ok e :: untilFailure context r
  | .error f :: _ => [.error ((streamFailure f).within context)]

/-- Opens a stream once. Its first item tells whether the connection succeeded. -/
def openOnce (request : Request) : Action (List (Result String)) := do
  let context := Http.contextText none "POST" request.url
  match ← (Http.openEvents request).within context with
  | .error f :: _ => Action.fail ((streamFailure f).within context)
  | items => return untilFailure context items

/-- Posts a JSON body and gives the events of the reply. -/
def Client.postStream (c : Client) (url : Url) (body : Json) (extra : List (String × String)) :
    Action (List (Result String)) := do
  let headers ← Action.lift (c.requestHeaders extra)
  retrying c.retry (openOnce ⟨.stream, url.text, headers, .json body⟩)

/-- Whether an event carries nothing: it is blank or the mark at the end. -/
def isMark (data : String) : Bool := ["[DONE]", ""].contains (Text.trim data)

/-- Decodes one event, or drops it. -/
def decodeEvent {α : Type} (d : Decoder α) : Result String → Option (Result α)
  | .error f => some (.error f)
  | .ok data =>
    if isMark data then none
    else some (Result.within ("Failed to parse stream event: " ++ data)
      (Result.ofOption .json (Decode.fromText d data)))

def decodeEvents {α : Type} (d : Decoder α) (events : List (Result String)) : List (Result α) :=
  events.filterMap (decodeEvent d)

/-- The messages of a stream whose events each give a message, nothing or a failure. -/
def messagesOf {α : Type} (convert : α → Result (Option Message)) :
    List (Result α) → List (Result Message)
  | [] => []
  | .error f :: r => .error f :: messagesOf convert r
  | .ok a :: r =>
    match convert a with
    | .ok (some m) => .ok m :: messagesOf convert r
    | .ok none => messagesOf convert r
    | .error f => .error f :: messagesOf convert r

/-- The messages of a stream whose events are read with a state. -/
def messagesFrom {α σ : Type} (step : σ → α → Result (Option Message) × σ) :
    σ → List (Result α) → List (Result Message)
  | _, [] => []
  | s, .error f :: r => .error f :: messagesFrom step s r
  | s, .ok a :: r =>
    match step s a with
    | (.ok (some m), s) => .ok m :: messagesFrom step s r
    | (.ok none, s) => messagesFrom step s r
    | (.error f, s) => .error f :: messagesFrom step s r

end ChatRetrieval.Chat
