import ChatRetrieval.Failure

/-!
Repeating failed attempts. A failure is worth another attempt when its cause carries a status on the
list or is a broken connection; contexts around the cause never matter. Attempts stop at the first
success, at the first failure of another kind, or when the allowed repeats are used up.
-/

namespace ChatRetrieval

open Json (field)

structure RetryConfig where
  /-- Milliseconds before the first repeat. -/
  minDelay : Nat
  backoffFactor : Nat
  maxRetries : Nat
  statusCodes : List Nat
  /-- Longest delay in seconds. -/
  maxDelay : Option Nat
  deriving DecidableEq

namespace RetryConfig

def default : RetryConfig := ⟨1000, 2, 8, [429, 500, 502, 503, 504, 408], none⟩

instance : Inhabited RetryConfig := ⟨default⟩

/-- One attempt and no repeat. -/
def disabled : RetryConfig := { default with maxRetries := 0 }

def toJson (c : RetryConfig) : Json := .ofFields [
  field "min_delay_ms" (.ofNat c.minDelay), field "backoff_factor" (.ofNat c.backoffFactor),
  field "max_retry_attempts" (.ofNat c.maxRetries),
  field "retry_status_codes" (.arr (c.statusCodes.map .ofNat)),
  field "max_delay" (.nullable .ofNat c.maxDelay)]

def decode : Decoder RetryConfig := fun j => do
  let r ← Decode.record ["min_delay_ms", "backoff_factor", "max_retry_attempts",
    "retry_status_codes", "max_delay"] j
  return {
    minDelay := ← r.required "min_delay_ms" (Decode.natural 64)
    backoffFactor := ← r.required "backoff_factor" (Decode.natural 64)
    maxRetries := ← r.required "max_retry_attempts" (Decode.natural 64)
    statusCodes := ← r.required "retry_status_codes" (Decode.list (Decode.natural 16))
    maxDelay := ← r.optional "max_delay" (Decode.natural 64) }

end RetryConfig

/-- The 16-bit number that an error code spells, a plus sign in front allowed. -/
def statusOfCode (code : String) : Option Nat :=
  let digits := match code.toList with
    | '+' :: r => r
    | cs => cs
  (Text.numeral? digits).filter (· < Nat.pow 2 16)

/-- Error codes that mean a broken connection. -/
def brokenConnectionCodes : List String := ["ERR_STREAM_PREMATURE_CLOSE", "ECONNRESET", "ETIMEDOUT"]

namespace Cause

/-- The status of a reply that was read. -/
def replyStatus? : Cause → Option Nat
  | httpStatus status _ => some status
  | _ => none

/-- The status an error object names. -/
def apiStatus? : Cause → Option Nat
  | api _ code _ => statusOfCode code
  | _ => none

/-- The status a cause carries. -/
def status? : Cause → Option Nat
  | httpStatus status _ => some status
  | transportStatus status _ => some status
  | streamStatus status _ => some status
  | streamContentType _ status => some status
  | api _ code _ => statusOfCode code
  | _ => none

def isBrokenConnection : Cause → Bool
  | timeout _ => true
  | connection _ => true
  | streamTransport _ => true
  | api _ code _ => brokenConnectionCodes.contains code
  | _ => false

/-- Whether a failure of this cause is worth another attempt. -/
def isWorthRetry (config : RetryConfig) (c : Cause) : Bool :=
  (match c.status? with
    | some status => config.statusCodes.contains status
    | none => false) || c.isBrokenConnection

end Cause

namespace Failure

/-- Marks a failure that is worth another attempt. -/
def classify (config : RetryConfig) (f : Failure) : Failure :=
  if f.cause.isWorthRetry config then (Cause.retryable f).failure else f

end Failure

def Result.classify {α : Type} (config : RetryConfig) : Result α → Result α
  | .ok a => .ok a
  | .error f => .error (f.classify config)

/-- Runs an attempt until it succeeds, fails for good or has been repeated `repeats` times; also gives
the failures that were followed by another attempt. -/
def retry {σ α : Type} (attempt : StateM σ (Result α)) : Nat → StateM σ (Result α × List Failure)
  | 0 => fun s =>
    let (r, s) := attempt s
    ((r, []), s)
  | repeats + 1 => fun s =>
    match attempt s with
    | (.ok a, s) => ((.ok a, []), s)
    | (.error f, s) =>
      if f.isRetryable then
        let ((r, notified), s) := retry attempt repeats s
        ((r, f :: notified), s)
      else ((.error f, []), s)

end ChatRetrieval
