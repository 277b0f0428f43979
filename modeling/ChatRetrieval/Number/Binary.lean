/-!
Binary floating-point words. A format is its precision, its least exponent and the exponent field
that marks infinity; a finite word stands for `significand * 2 ^ exponent`. Rounding is one exact
quotient of natural numbers, to nearest with ties to the even significand.
-/

namespace ChatRetrieval

/-- A binary interchange format; words carry no sign here. -/
structure BinaryFormat where
  /-- Bits of the significand, the leading one included. -/
  precision : Nat
  /-- The power of two that the last bit of a subnormal word counts is `2 ^ -leastExponent`. -/
  leastExponent : Nat
  /-- The all-ones exponent field. -/
  topField : Nat
  deriving DecidableEq, Repr

namespace BinaryFormat

def double : BinaryFormat := ⟨53, 1074, 2047⟩

def single : BinaryFormat := ⟨24, 149, 255⟩

variable (f : BinaryFormat)

/-- One step of the exponent field. -/
def fieldUnit : Nat := Nat.pow 2 (f.precision - 1)

/-- The word of positive infinity. -/
def infinity : Nat := f.topField * f.fieldUnit

/-- The largest `e` with `2 ^ e ≤ num / den`, shifted by `leastExponent` and cut at zero. -/
def scaledLog (num den : Nat) : Nat :=
  let n := num * Nat.pow 2 f.leastExponent
  if n < den then 0
  else
    let e := n.log2 - den.log2
    if n < den * Nat.pow 2 e then e - 1 else e

/-- The quotient rounded to nearest, a half going to the even neighbour. -/
def halfEven (num den : Nat) : Nat :=
  let q := num / den
  let r := num % den
  if 2 * r < den then q
  else if 2 * r > den then q + 1
  else if q % 2 = 0 then q else q + 1

/-- The word nearest to `num / den`, infinity when no finite word is near enough. Adding the
exponent's steps to the rounded significand lets a carry move into the exponent field. -/
def round (num den : Nat) : Nat :=
  let step := f.scaledLog num den - (f.precision - 1)
  let m := halfEven (num * Nat.pow 2 f.leastExponent) (den * Nat.pow 2 step)
  min (step * f.fieldUnit + m) f.infinity

/-- Significand and exponent step of a finite word: its value is
`significand * 2 ^ step / 2 ^ leastExponent`. -/
def parts (word : Nat) : Nat × Nat :=
  let field := word / f.fieldUnit
  let fraction := word % f.fieldUnit
  if field = 0 then (fraction, 0) else (fraction + f.fieldUnit, field - 1)

/-- The value of a finite word as a fraction. -/
def ratio (word : Nat) : Nat × Nat :=
  let (m, step) := f.parts word
  (m * Nat.pow 2 step, Nat.pow 2 f.leastExponent)

end BinaryFormat

/-- A 64-bit binary floating-point number. -/
structure Double where
  bits : UInt64
  deriving DecidableEq, Inhabited

/-- A 32-bit binary floating-point number. -/
structure Single where
  bits : UInt32
  deriving DecidableEq, Inhabited

namespace Double

def signBit : Nat := Nat.pow 2 63

/-- The number with this sign and this unsigned word. -/
def ofWord (negative : Bool) (word : Nat) : Double :=
  ⟨UInt64.ofNat (word + if negative then signBit else 0)⟩

def isNegative (d : Double) : Bool := signBit ≤ d.bits.toNat

/-- The word without its sign. -/
def word (d : Double) : Nat := d.bits.toNat % signBit

def isFinite (d : Double) : Bool := d.word < BinaryFormat.double.infinity

def isNaN (d : Double) : Bool := BinaryFormat.double.infinity < d.word

def isZero (d : Double) : Bool := d.word = 0

def zero : Double := ⟨0⟩

def neg (d : Double) : Double := ofWord (!d.isNegative) d.word

/-- The double nearest to `num / den`. -/
def ofRatio (negative : Bool) (num den : Nat) : Double :=
  ofWord negative (BinaryFormat.double.round num den)

def ofNat (n : Nat) : Double := ofRatio false n 1

def ofInt (i : Int) : Double := ofRatio (i < 0) i.natAbs 1

/-- The magnitude of a finite number as a fraction. -/
def ratio (d : Double) : Nat × Nat := BinaryFormat.double.ratio d.word

/-- The rounded product of two finite magnitudes. -/
def mulMagnitude (a b : Double) : Double :=
  ofRatio false (a.ratio.1 * b.ratio.1) (a.ratio.2 * b.ratio.2)

/-- The rounded quotient of two finite magnitudes. -/
def divMagnitude (a b : Double) : Double :=
  ofRatio false (a.ratio.1 * b.ratio.2) (a.ratio.2 * b.ratio.1)

/-- The double nearest to `10 ^ k`. -/
def tenPow (k : Nat) : Double := ofNat (Nat.pow 10 k)

end Double

namespace Single

def signBit : Nat := Nat.pow 2 31

def ofWord (negative : Bool) (word : Nat) : Single :=
  ⟨UInt32.ofNat (word + if negative then signBit else 0)⟩

def isNegative (s : Single) : Bool := signBit ≤ s.bits.toNat

def word (s : Single) : Nat := s.bits.toNat % signBit

def isFinite (s : Single) : Bool := s.word < BinaryFormat.single.infinity

def ofRatio (negative : Bool) (num den : Nat) : Single :=
  ofWord negative (BinaryFormat.single.round num den)

def ofInt (i : Int) : Single := ofRatio (i < 0) i.natAbs 1

def ratio (s : Single) : Nat × Nat := BinaryFormat.single.ratio s.word

/-- Every single is a double. -/
def toDouble (s : Single) : Double :=
  if s.isFinite then Double.ofRatio s.isNegative s.ratio.1 s.ratio.2
  else Double.ofWord s.isNegative (BinaryFormat.double.infinity + (s.word - BinaryFormat.single.infinity))

end Single

/-- The nearest single; a number too large for one becomes infinite. -/
def Double.toSingle (d : Double) : Single :=
  if d.isFinite then Single.ofRatio d.isNegative d.ratio.1 d.ratio.2
  else Single.ofWord d.isNegative
    (BinaryFormat.single.infinity + min (d.word - BinaryFormat.double.infinity) 1)

end ChatRetrieval
