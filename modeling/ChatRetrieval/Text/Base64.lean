import ChatRetrieval.Text.Utf8

/-!
Base64 with the standard alphabet. Decoding accepts exactly what encoding writes: full groups of
four, padding where it belongs and zero in the unused bits.
-/

namespace ChatRetrieval.Text.Base64

def digit (n : Nat) : Char :=
  if n < 26 then Char.ofNat (n + 65)
  else if n < 52 then Char.ofNat (n - 26 + 97)
  else if n < 62 then Char.ofNat (n - 52 + 48)
  else if n = 62 then '+' else '/'

def value? (c : Char) : Option Nat :=
  if 'A' ≤ c ∧ c ≤ 'Z' then some (c.toNat - 65)
  else if 'a' ≤ c ∧ c ≤ 'z' then some (c.toNat - 97 + 26)
  else if '0' ≤ c ∧ c ≤ '9' then some (c.toNat - 48 + 52)
  else if c = '+' then some 62
  else if c = '/' then some 63
  else none

def encodeBytes : List Nat → List Char
  | [] => []
  | [a] => [digit (a / 4), digit (a % 4 * 16), '=', '=']
  | [a, b] => [digit (a / 4), digit (a % 4 * 16 + b / 16), digit (b % 16 * 4), '=']
  | a :: b :: c :: r =>
    digit (a / 4) :: digit (a % 4 * 16 + b / 16) :: digit (b % 16 * 4 + c / 64) :: digit (c % 64) ::
      encodeBytes r

def decodeChars : List Char → Option (List Nat)
  | [] => some []
  | [w, x, '=', '='] => do
    let w ← value? w
    let x ← value? x
    if x % 16 = 0 then return [w * 4 + x / 16] else none
  | [w, x, y, '='] => do
    let w ← value? w
    let x ← value? x
    let y ← value? y
    if y % 4 = 0 then return [w * 4 + x / 16, x % 16 * 16 + y / 4] else none
  | w :: x :: y :: z :: r => do
    let w ← value? w
    let x ← value? x
    let y ← value? y
    let z ← value? z
    let rest ← decodeChars r
    return (w * 4 + x / 16) :: (x % 16 * 16 + y / 4) :: (y % 4 * 64 + z) :: rest
  | _ => none

def encode (bytes : List Nat) : String := String.ofList (encodeBytes bytes)

/-- The base64 form of a text's UTF-8 bytes. -/
def encodeText (s : String) : String := encode (Utf8.encode s.toList)

def decode? (s : String) : Option (List Nat) := decodeChars s.toList

end ChatRetrieval.Text.Base64
