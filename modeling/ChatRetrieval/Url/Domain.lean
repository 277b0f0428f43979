import ChatRetrieval.Url.Encoding
import ChatRetrieval.Text.Basic

/-!
Domain names in ASCII form: letters in lower case, labels with other characters in Punycode. Case is
folded for the Latin, Greek, Cyrillic and full-width letters.
-/

namespace ChatRetrieval.Url

/-- The form a character takes in a domain name; nothing for one that is ignored. -/
def foldDomainChar (c : Char) : List Char :=
  let n := c.toNat
  if n < 0x80 then [Text.lowerChar c]
  else if n = 0xAD ∨ n = 0x200B ∨ n = 0x2060 ∨ n = 0xFEFF then []
  else if (0xC0 ≤ n ∧ n ≤ 0xDE ∧ n ≠ 0xD7) ∨ (0x391 ≤ n ∧ n ≤ 0x3A9) ∨ (0x410 ≤ n ∧ n ≤ 0x42F) then
    [Char.ofNat (n + 32)]
  else if 0x400 ≤ n ∧ n ≤ 0x40F then [Char.ofNat (n + 80)]
  else if 0x100 ≤ n ∧ n ≤ 0x137 ∧ n % 2 = 0 ∧ n ≠ 0x130 then [Char.ofNat (n + 1)]
  else if 0x14A ≤ n ∧ n ≤ 0x177 ∧ n % 2 = 0 then [Char.ofNat (n + 1)]
  else if n = 0x3002 ∨ n = 0xFF0E ∨ n = 0xFF61 then ['.']
  else if 0xFF01 ≤ n ∧ n ≤ 0xFF5E then [Text.lowerChar (Char.ofNat (n - 0xFEE0))]
  else [c]

namespace Punycode

/-- Divides the delta down until it fits one digit; gives the number of halvings and the rest. -/
def adaptLoop : Nat → Nat → Nat → Nat × Nat
  | 0, delta, k => (delta, k)
  | fuel + 1, delta, k => if 455 < delta then adaptLoop fuel (delta / 35) (k + 36) else (delta, k)

/-- The bias after encoding a delta. -/
def adapt (delta points : Nat) (first : Bool) : Nat :=
  let delta := if first then delta / 700 else delta / 2
  let delta := delta + delta / points
  let (delta, k) := adaptLoop 32 delta 0
  k + 36 * delta / (delta + 38)

def digit (n : Nat) : Char := if n < 26 then Char.ofNat (n + 97) else Char.ofNat (n - 26 + 48)

/-- A delta as a number of variable length. -/
def encodeDelta : Nat → Nat → Nat → Nat → List Char
  | 0, _, _, _ => []
  | fuel + 1, q, k, bias =>
    let t := if k ≤ bias then 1 else if bias + 26 ≤ k then 26 else k - bias
    if q < t then [digit q]
    else digit (t + (q - t) % (36 - t)) :: encodeDelta fuel ((q - t) / (36 - t)) (k + 36) bias

/-- Where encoding stands: the deltas' base, the bias, the points written and the text so far. -/
structure State where
  delta : Nat
  bias : Nat
  written : Nat
  output : List Char

/-- One pass over the label for the code point `n`. -/
def pass (n basic : Nat) (label : List Char) (s : State) : State :=
  label.foldl (fun s c =>
    if c.toNat < n then { s with delta := s.delta + 1 }
    else if c.toNat = n then
      { delta := 0
        bias := adapt s.delta (s.written + 1) (s.written == basic)
        written := s.written + 1
        output := s.output ++ encodeDelta 32 s.delta 36 s.bias }
    else s) s

/-- Passes over the label for its code points beyond ASCII, in increasing order. -/
def passes (basic : Nat) (label : List Char) : Nat → List Nat → State → State
  | _, [], s => s
  | n, m :: r, s =>
    let s := pass m basic label { s with delta := s.delta + (m - n) * (s.written + 1) }
    passes basic label (m + 1) r { s with delta := s.delta + 1 }

/-- The Punycode form of a label. -/
def encode (label : List Char) : List Char :=
  let ascii := label.filter fun c => c.toNat < 0x80
  let points := ((label.map Char.toNat).filter (0x80 ≤ ·)).mergeSort (· ≤ ·) |>.eraseDups
  let front := if ascii.isEmpty then [] else ascii ++ ['-']
  (passes ascii.length label 0x80 points ⟨0, 72, ascii.length, front⟩).output

end Punycode

/-- A label in ASCII form. -/
def asciiLabel (label : List Char) : List Char :=
  if label.all fun c => c.toNat < 0x80 then label else ['x', 'n', '-', '-'] ++ Punycode.encode label

/-- Characters no domain may hold. -/
def isForbiddenInDomain (c : Char) : Bool :=
  c.toNat ≤ 0x20 ∨ c.toNat = 0x7F ∨
    ['#', '%', '/', ':', '<', '>', '?', '@', '[', '\\', ']', '^', '|', '\x60', '\x7b', '\x7d'].contains c

/-- The ASCII form of a domain, unless it holds a forbidden character or one that stands for bytes
that are no text. -/
def domainToAscii (cs : List Char) : Option (List Char) :=
  let folded := cs.flatMap foldDomainChar
  let ascii := ['.'].intercalate ((Text.splitOn '.' folded).map asciiLabel)
  if ascii.any isForbiddenInDomain ∨ folded.contains '\uFFFD' then none else some ascii

end ChatRetrieval.Url
