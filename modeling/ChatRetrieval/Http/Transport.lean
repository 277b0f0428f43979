import ChatRetrieval.Http.Headers
import ChatRetrieval.Url.Basic

/-!
The outside as a value. A session holds the replies its peers will give, in the order of the
requests, together with what was asked of them so far and the two clocks. An action is a step that
may fail and that changes the session in either case.
-/

namespace ChatRetrieval

inductive Method where
  | get
  | head
  | post
  | put
  /-- A post answered by a stream of events. -/
  | stream
  deriving DecidableEq, Repr

def Method.name : Method → String
  | .get => "GET"
  | .head => "HEAD"
  | .post => "POST"
  | .put => "PUT"
  | .stream => "SSE"

/-- What a request carries. -/
inductive Payload where
  | empty
  | json (value : Json)
  /-- One value a line, each line ended. -/
  | lines (values : List Json)

structure Request where
  method : Method
  url : String
  headers : Headers
  payload : Payload

/-- A reply's body: its text, or the failure that reading it ends in. -/
abbrev Body := Result String

structure Response where
  status : Nat
  headers : Headers
  body : Body

/-- The answer to one request. -/
inductive Reply where
  /-- The call itself fails. -/
  | failed (failure : Failure)
  /-- A response, or its events when a stream was asked for. -/
  | answered (response : Response) (events : List (Result String))

structure Session where
  /-- Replies to the requests to come. -/
  replies : List Reply
  /-- Requests made, the first one first. -/
  sent : List Request
  /-- Lists of texts handed to embedders, the first one first. -/
  embedded : List (List String)
  /-- Seconds on the wall clock. -/
  unixTime : Int64
  /-- Milliseconds on the monotonic clock. -/
  elapsed : Nat

/-- The monotonic clock, whose seconds are numbers of 64 bits with sign, can read so many seconds
later. -/
def Session.Reaches (s : Session) (seconds : Nat) : Prop :=
  s.elapsed / 1000 + seconds < Nat.pow 2 63

instance (s : Session) (seconds : Nat) : Decidable (s.Reaches seconds) :=
  inferInstanceAs (Decidable (_ < _))

abbrev Action (α : Type) := ExceptT Failure (StateM Session) α

namespace Action

/-- A step that leaves the session alone. -/
def lift {α : Type} (r : Result α) : Action α := fun s => (r, s)

def fail {α : Type} (f : Failure) : Action α := fun s => (.error f, s)

/-- Puts a context around the failure of an action. -/
def within {α : Type} (context : String) (a : Action α) : Action α := fun s =>
  let (r, s) := a s
  (Result.within context r, s)

/-- An action with its outcome as a value. -/
def attempt {α : Type} (a : Action α) : Action (Result α) := fun s =>
  let (r, s) := a s
  (.ok r, s)

def unixTime : Action Int64 := fun s => (.ok s.unixTime, s)

/-- Lets time pass. -/
def sleep (milliseconds : Nat) : Action Unit := fun s =>
  (.ok (), { s with elapsed := s.elapsed + milliseconds })

def elapsed : Action Nat := fun s => (.ok s.elapsed, s)

/-- What a deadline ends in that the monotonic clock cannot read. -/
def beyondClock : Failure := (Cause.aborted "overflow when adding duration to instant").failure

/-- The reading of the monotonic clock so many seconds later. -/
def deadline (seconds : Nat) : Action Nat := fun s =>
  if s.Reaches seconds then (.ok (s.elapsed + seconds * 1000), s) else (.error beyondClock, s)

/-- How many replies are still to come. -/
def repliesLeft : Action Nat := fun s => (.ok s.replies.length, s)

end Action

namespace Http

/-- What a request without a reply ends in. -/
def noReply : Failure := .plain "no reply scripted"

/-- Makes a request and takes the next reply. -/
def exchange (request : Request) : Action (Response × List (Result String)) := fun s =>
  let s := { s with sent := s.sent ++ [request] }
  match s.replies with
  | [] => (.error noReply, s)
  | .failed f :: r => (.error f, { s with replies := r })
  | .answered response events :: r => (.ok (response, events), { s with replies := r })

def send (request : Request) : Action Response := do
  return (← exchange request).1

def openEvents (request : Request) : Action (List (Result String)) := do
  return (← exchange request).2

/-- A status has three digits. -/
def checkStatus (status : Nat) : Result Nat :=
  if 100 ≤ status ∧ status < 1000 then .ok status else Result.fail "invalid status code"

/-- Method and URL, with the status once there is one. -/
def contextText (status : Option Nat) (method url : String) : String :=
  match status with
  | some status => method ++ " " ++ url ++ " [" ++ statusText status ++ "]"
  | none => method ++ " " ++ url

/-- Decodes the JSON body of a response; any status but a success is a failure with the body. -/
def readJson {α : Type} (d : Decoder α) (response : Response) (method url : String) :
    Result α :=
  let context := contextText (some response.status) method url
  match Result.within "Failed to decode response into text" (Result.within context response.body) with
  | .error f => .error f
  | .ok text =>
    if isSuccess response.status then
      Result.within "Failed to deserialize response"
        (Result.within context (Result.ofOption .json (Decode.fromText d text)))
    else .error (Failure.mk [context] (.httpStatus response.status text))

end Http

end ChatRetrieval
