import ChatRetrieval.Dict
import ChatRetrieval.Failure

/-!
Header maps. Names are kept in lower case, so a later header replaces an earlier one whatever the
spelling; the headers that hold credentials are hidden before they are shown.
-/

namespace ChatRetrieval

/-- Values under lower-case names. -/
abbrev Headers := Dict String String

namespace Headers

/-- The characters a header name may hold. -/
def isNameChar (c : Char) : Bool :=
  ('a' ≤ c ∧ c ≤ 'z') ∨ ('A' ≤ c ∧ c ≤ 'Z') ∨ ('0' ≤ c ∧ c ≤ '9') ∨
    ['!', '#', '$', '%', '&', '\'', '*', '+', '-', '.', '^', '_', '\x60', '|', '~'].contains c

def isValidName (name : String) : Bool := !name.isEmpty && name.toList.all isNameChar

/-- Values hold no control character but the tab. -/
def isValidValue (value : String) : Bool :=
  value.toList.all fun c => c = '\t' ∨ (0x20 ≤ c.toNat ∧ c.toNat ≠ 0x7F)

def add (headers : Headers) (name value : String) : Result Headers :=
  if !isValidName name then
    Result.within ("Invalid header name: " ++ name) (Result.fail "invalid HTTP header name")
  else if !isValidValue value then
    Result.within ("Invalid value for header " ++ name) (Result.fail "failed to parse header value")
  else .ok (headers.insert (Text.lower name) value)

def addAll (headers : Headers) : List (String × String) → Result Headers
  | [] => .ok headers
  | (name, value) :: r =>
    match headers.add name value with
    | .ok h => addAll h r
    | .error f => .error f

/-- The map of these headers, each replacing those before it of the same name. -/
def ofPairs (pairs : List (String × String)) : Result Headers := addAll Dict.empty pairs

/-- The names whose values are credentials. -/
def secretNames : List String := ["authorization", "api-key", "x-api-key", "x-goog-api-key"]

def redacted : String := "[REDACTED]"

/-- The headers as they may be logged. -/
def sanitized (headers : Headers) : Headers :=
  secretNames.foldl (fun h name => if h.contains name then h.insert name redacted else h) headers

/-- Whether a value can be shown as text: printable ASCII and tabs. -/
def isPlain (value : String) : Bool :=
  value.toList.all fun c => c = '\t' ∨ (0x20 ≤ c.toNat ∧ c.toNat < 0x7F)

end Headers

end ChatRetrieval
