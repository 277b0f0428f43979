import ChatRetrieval.Number.Binary

/-!
The shortest decimal that reads back. A finite word owns an interval of reals that round to it; the
digits are those of the coarsest decimal grid with a point in that interval, the nearest such point
when there are two. The text keeps positional notation for first-digit exponents from -5 to 15 and
is scientific outside.
-/

namespace ChatRetrieval

/-- A decimal `digits * 10 ^ exponent`. -/
structure Decimal where
  digits : Nat
  exponent : Int
  deriving DecidableEq, Repr

namespace BinaryFormat

/-- Compares `c * 10 ^ j` with the fraction `num / den`. -/
def compareDecimal (c : Nat) (j : Int) (num den : Nat) : Ordering :=
  if 0 ≤ j then compare (c * Nat.pow 10 j.toNat * den) num
  else compare (c * den) (num * Nat.pow 10 (-j).toNat)

/-- The whole number of units `10 ^ j` in the fraction. -/
def unitsBelow (j : Int) (num den : Nat) : Nat :=
  if 0 ≤ j then num / (den * Nat.pow 10 j.toNat) else num * Nat.pow 10 (-j).toNat / den

variable (f : BinaryFormat)

/-- Four times the lower end, the value and the upper end of the interval that rounds to a finite
nonzero word, over the denominator `4 * 2 ^ leastExponent`. -/
def interval (word : Nat) : Nat × Nat × Nat :=
  let (m, step) := f.parts word
  let s := Nat.pow 2 step
  let low := if m = f.fieldUnit ∧ 0 < step then 4 * m - 1 else 4 * m - 2
  (low * s, 4 * m * s, (4 * m + 2) * s)

/-- Whether `c * 10 ^ j` rounds to the word; the ends count for an even significand. -/
def readsBack (word c : Nat) (j : Int) : Bool :=
  let (low, _, high) := f.interval word
  let den := 4 * Nat.pow 2 f.leastExponent
  let even := word % 2 = 0
  let above := match compareDecimal c j low den with
    | .lt => false
    | .eq => even
    | .gt => true
  let below := match compareDecimal c j high den with
    | .gt => false
    | .eq => even
    | .lt => true
  above && below

/-- Of the grid points `c` and `c + 1` in units `10 ^ j` around the word's value, the one that reads
back; the nearer of two, the even one on a tie. -/
def gridPoint? (word : Nat) (j : Int) : Option Nat :=
  let (_, value, _) := f.interval word
  let den := 4 * Nat.pow 2 f.leastExponent
  let c := unitsBelow j value den
  match f.readsBack word c j, f.readsBack word (c + 1) j with
  | false, false => none
  | true, false => some c
  | false, true => some (c + 1)
  | true, true =>
    match compareDecimal (2 * c + 1) j (2 * value) den with
    | .gt => some c
    | .lt => some (c + 1)
    | .eq => some (if c % 2 = 0 then c else c + 1)

/-- The decimal exponent of the value's first digit. -/
def decimalExponent (word : Nat) : Int :=
  let (_, value, _) := f.interval word
  let den := 4 * Nat.pow 2 f.leastExponent
  let bits : Int := (value.log2 : Int) - (den.log2 : Int)
  let guess : Int := Int.fdiv (bits * 30103) 100000
  -- the guess is off by at most one, so three candidates decide
  if compareDecimal 1 (guess + 1) value den != .gt then guess + 1
  else if compareDecimal 1 guess value den != .gt then guess
  else guess - 1

/-- Tries grids from the coarsest to `count` digits finer. -/
def shortestFrom (word : Nat) (top : Int) : Nat → Nat → Decimal
  | _, 0 => ⟨(f.gridPoint? word (top - 20)).getD 0, top - 20⟩
  | n, count + 1 =>
    let j := top - n
    match f.gridPoint? word j with
    | some c => ⟨c, j⟩
    | none => shortestFrom word top (n + 1) count

/-- The shortest decimal that rounds to a finite nonzero word. -/
def shortest (word : Nat) : Decimal := f.shortestFrom word (f.decimalExponent word) 0 20

end BinaryFormat

namespace Decimal

/-- Drops the trailing zeros of the digits. -/
def trimmed : Nat → Nat → Int → Decimal
  | 0, d, e => ⟨d, e⟩
  | fuel + 1, d, e => if d ≠ 0 ∧ d % 10 = 0 then trimmed fuel (d / 10) (e + 1) else ⟨d, e⟩

def zeros (n : Nat) : List Char := List.replicate n '0'

/-- Decimal digits of a number. -/
def natDigits (n : Nat) : List Char := Nat.toDigits 10 n

/-- The text of a nonzero decimal: positional with a point when the exponent of the first digit is
from -5 to 15, scientific otherwise. -/
def text (d : Decimal) : List Char :=
  let t := trimmed 20 d.digits d.exponent
  let ds := natDigits t.digits
  let first : Int := t.exponent + (ds.length : Int) - 1
  if first < -5 ∨ 15 < first then
    let fraction := match ds.tail with
      | [] => []
      | r => '.' :: r
    let sign := if first < 0 then '-' else '+'
    ds.take 1 ++ fraction ++ ['e', sign] ++ natDigits first.natAbs
  else if first < 0 then
    ['0', '.'] ++ zeros (first.natAbs - 1) ++ ds
  else
    let whole := first.toNat + 1
    if ds.length ≤ whole then ds ++ zeros (whole - ds.length) ++ ['.', '0']
    else ds.take whole ++ ['.'] ++ ds.drop whole

/-- The text of a nonzero decimal without exponent: as many zeros as it takes, and no point in a
whole number. -/
def plainText (d : Decimal) : List Char :=
  let t := trimmed 20 d.digits d.exponent
  let ds := natDigits t.digits
  if 0 ≤ t.exponent then ds ++ zeros t.exponent.toNat
  else
    let places := (-t.exponent).toNat
    if places < ds.length then ds.take (ds.length - places) ++ ['.'] ++ ds.drop (ds.length - places)
    else ['0', '.'] ++ zeros (places - ds.length) ++ ds

end Decimal

namespace Double

/-- The text of a finite double in the JSON notation. -/
def text (d : Double) : List Char :=
  let magnitude := if d.isZero then ['0', '.', '0'] else (BinaryFormat.double.shortest d.word).text
  if d.isNegative then '-' :: magnitude else magnitude

/-- The text of a finite double without exponent. -/
def plainText (d : Double) : List Char :=
  let magnitude := if d.isZero then ['0'] else (BinaryFormat.double.shortest d.word).plainText
  if d.isNegative then '-' :: magnitude else magnitude

/-- The double nearest to a decimal. Exponents beyond the range of any double are decided by their
size alone. -/
def ofDecimal (negative : Bool) (digits : Nat) (exponent : Int) : Double :=
  if digits = 0 then ofWord negative 0
  else if exponent < 0 then
    if (-exponent).toNat > 400 + (Decimal.natDigits digits).length then ofWord negative 0
    else ofRatio negative digits (Nat.pow 10 (-exponent).toNat)
  else if exponent > 400 then ofWord negative BinaryFormat.double.infinity
  else ofRatio negative (digits * Nat.pow 10 exponent.toNat) 1

end Double

/-- The double that a single's shortest text reads as. -/
def Single.reread (s : Single) : Double :=
  if s.word = 0 then Double.ofWord s.isNegative 0
  else if s.isFinite then
    let d := BinaryFormat.single.shortest s.word
    Double.ofDecimal s.isNegative d.digits d.exponent
  else s.toDouble

end ChatRetrieval
