/-!
UTF-8. Decoding is lenient: each maximal stretch of bytes that begins a character and does not
complete it becomes one replacement character.
-/

namespace ChatRetrieval.Text.Utf8

/-- The bytes of one character. -/
def encodeChar (c : Char) : List Nat :=
  let n := c.toNat
  if n < 0x80 then [n]
  else if n < 0x800 then [0xC0 + n / 64, 0x80 + n % 64]
  else if n < 0x10000 then [0xE0 + n / 4096, 0x80 + n / 64 % 64, 0x80 + n % 64]
  else [0xF0 + n / 262144, 0x80 + n / 4096 % 64, 0x80 + n / 64 % 64, 0x80 + n % 64]

def encode (cs : List Char) : List Nat := cs.flatMap encodeChar

def replacement : Char := '\uFFFD'

/-- What a leading byte promises: its payload, the number of further bytes and the range of the
first of them. -/
def lead? (b : Nat) : Option (Nat × Nat × Nat × Nat) :=
  if b < 0x80 then some (b, 0, 0, 0)
  else if 0xC2 ≤ b ∧ b ≤ 0xDF then some (b - 0xC0, 1, 0x80, 0xBF)
  else if b = 0xE0 then some (0, 2, 0xA0, 0xBF)
  else if b = 0xED then some (0xD, 2, 0x80, 0x9F)
  else if 0xE1 ≤ b ∧ b ≤ 0xEF then some (b - 0xE0, 2, 0x80, 0xBF)
  else if b = 0xF0 then some (0, 3, 0x90, 0xBF)
  else if 0xF1 ≤ b ∧ b ≤ 0xF3 then some (b - 0xF0, 3, 0x80, 0xBF)
  else if b = 0xF4 then some (4, 3, 0x80, 0x8F)
  else none

/-- Bytes read so far of an unfinished character: payload, bytes still to come and the range of the
next one. -/
structure Pending where
  payload : Nat
  missing : Nat
  low : Nat
  high : Nat

/-- Starts a character at byte `b`. -/
def begin (b : Nat) : List Char × Option Pending :=
  match lead? b with
  | none => ([replacement], none)
  | some (n, 0, _, _) => ([Char.ofNat n], none)
  | some (n, k, low, high) => ([], some ⟨n, k, low, high⟩)

/-- Takes one byte into an unfinished character; a byte that does not continue it begins anew. -/
def step (pending : Option Pending) (b : Nat) : List Char × Option Pending :=
  match pending with
  | none => begin b
  | some p =>
    if p.low ≤ b ∧ b ≤ p.high then
      let n := p.payload * 64 + (b - 0x80)
      if p.missing ≤ 1 then ([Char.ofNat n], none)
      else ([], some ⟨n, p.missing - 1, 0x80, 0xBF⟩)
    else
      let (cs, next) := begin b
      (replacement :: cs, next)

/-- Decodes the rest behind an unfinished character. -/
def decodeFrom : Option Pending → List Nat → List Char
  | none, [] => []
  | some _, [] => [replacement]
  | pending, b :: r =>
    let (cs, next) := step pending b
    cs ++ decodeFrom next r

def decode (bytes : List Nat) : String := String.ofList (decodeFrom none bytes)

end ChatRetrieval.Text.Utf8
