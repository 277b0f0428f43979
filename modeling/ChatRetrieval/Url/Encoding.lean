import ChatRetrieval.Text.Utf8

/-!
Percent encoding. Each part of a URL has the set of characters it cannot hold as they are; all
characters outside printable ASCII belong to every set, and text already encoded is left alone.
-/

namespace ChatRetrieval.Url

/-- Control characters and everything beyond ASCII. -/
def inControlSet (c : Char) : Bool := c.toNat < 0x20 ∨ 0x7E < c.toNat

def inFragmentSet (c : Char) : Bool :=
  inControlSet c ∨ [' ', '"', '<', '>', '\x60'].contains c

def inQuerySet (c : Char) : Bool := inControlSet c ∨ [' ', '"', '#', '<', '>'].contains c

/-- The query set of the web schemes. -/
def inWebQuerySet (c : Char) : Bool := inQuerySet c ∨ c = '\''

def inPathSet (c : Char) : Bool :=
  inQuerySet c ∨ ['?', '^', '\x60', '\x7b', '\x7d'].contains c

def inUserInfoSet (c : Char) : Bool :=
  inPathSet c ∨ ['/', ':', ';', '=', '@', '[', '\\', ']', '|'].contains c

def upperHex (n : Nat) : Char := if n < 10 then Char.ofNat (n + 48) else Char.ofNat (n + 55)

def percentByte (b : Nat) : List Char := ['%', upperHex (b / 16), upperHex (b % 16)]

/-- Encodes the characters of a set. -/
def percentEncode (inSet : Char → Bool) (cs : List Char) : List Char :=
  cs.flatMap fun c => if inSet c then (Text.Utf8.encodeChar c).flatMap percentByte else [c]

def hexValue? (c : Char) : Option Nat :=
  if '0' ≤ c ∧ c ≤ '9' then some (c.toNat - 48)
  else if 'a' ≤ c ∧ c ≤ 'f' then some (c.toNat - 87)
  else if 'A' ≤ c ∧ c ≤ 'F' then some (c.toNat - 55)
  else none

/-- The bytes of a text, its percent triplets resolved. -/
def percentBytes : List Char → List Nat
  | '%' :: a :: b :: r =>
    match hexValue? a, hexValue? b with
    | some x, some y => (x * 16 + y) :: percentBytes r
    | _, _ => 0x25 :: percentBytes (a :: b :: r)
  | c :: r => Text.Utf8.encodeChar c ++ percentBytes r
  | [] => []

def percentDecode (cs : List Char) : List Char := Text.Utf8.decodeFrom none (percentBytes cs)

end ChatRetrieval.Url
