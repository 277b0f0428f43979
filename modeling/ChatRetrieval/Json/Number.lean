import ChatRetrieval.Json.Basic

/-!
Reading a number literal. Digits are gathered into a significand of at most 64 bits, later ones only
count towards the exponent or are dropped; the value is the rounded significand times or over one
rounded power of ten. A literal beyond the range of a double is refused.
-/

namespace ChatRetrieval.Json.Number

/-- A literal split into its parts. -/
structure Literal where
  negative : Bool
  whole : List Char
  fraction : Option (List Char)
  /-- Sign and digits of the exponent. -/
  exponent : Option (Bool × List Char)

def isDigit (c : Char) : Bool := '0' ≤ c ∧ c ≤ '9'

def digitValue (c : Char) : Nat := c.toNat - '0'.toNat

def natOfDigits (ds : List Char) : Nat := ds.foldl (fun n c => 10 * n + digitValue c) 0

/-- The digits after an exponent mark, with their sign. -/
def scanExponent (cs : List Char) : Option ((Bool × List Char) × List Char) :=
  let (negative, r) := match cs with
    | '-' :: r => (true, r)
    | '+' :: r => (false, r)
    | r => (false, r)
  match r.takeWhile isDigit with
  | [] => none
  | ds => some ((negative, ds), r.dropWhile isDigit)

/-- Fraction and exponent behind the whole digits. -/
def scanTail (negative : Bool) (whole cs : List Char) : Option (Literal × List Char) := do
  let (fraction, r) ← match cs with
    | '.' :: r =>
      match r.takeWhile isDigit with
      | [] => none
      | ds => some (some ds, r.dropWhile isDigit)
    | r => some (none, r)
  match r with
  | c :: r' =>
    if c = 'e' ∨ c = 'E' then
      let (e, rest) ← scanExponent r'
      return (⟨negative, whole, fraction, some e⟩, rest)
    else return (⟨negative, whole, fraction, none⟩, r)
  | [] => return (⟨negative, whole, fraction, none⟩, [])

/-- A literal and the text behind it. No digit follows a leading zero. -/
def scan (cs : List Char) : Option (Literal × List Char) :=
  let (negative, r) := match cs with
    | '-' :: r => (true, r)
    | r => (false, r)
  match r.takeWhile isDigit with
  | [] => none
  | '0' :: _ :: _ => none
  | ds => scanTail negative ds (r.dropWhile isDigit)

def maxSignificand : Nat := Nat.pow 2 64 - 1

/-- Appends digits while the significand stays within 64 bits; also gives what was left over. -/
def absorb (s : Nat) : List Char → Nat × List Char
  | [] => (s, [])
  | c :: r =>
    let s' := s * 10 + digitValue c
    if maxSignificand < s' then (s, c :: r) else absorb s' r

/-- `f * 10 ^ e` by one rounded multiplication or division, exponents past the table of powers first
brought back in steps of 308. -/
def scale (f : Double) : Nat → Int → Option Double
  | 0, _ => some Double.zero
  | fuel + 1, e =>
    if 0 ≤ e then
      if 308 < e then if f.isZero then some f else none
      else
        let r := f.mulMagnitude (Double.tenPow e.toNat)
        if r.isFinite then some r else none
    else if e < -308 then
      if f.isZero then some f else scale (f.divMagnitude (Double.tenPow 308)) fuel (e + 308)
    else some (f.divMagnitude (Double.tenPow (-e).toNat))

def signed (negative : Bool) (d : Double) : Double := if negative then d.neg else d

/-- The double of a literal with a point, an exponent or too many digits. -/
def floatOf (l : Literal) : Option Double :=
  let (s, overflow) := absorb 0 l.whole
  let fraction := l.fraction.getD []
  let (s, dropped) := absorb s fraction
  let start : Int := (overflow.length : Int) - ((fraction.length - dropped.length : Nat) : Int)
  match l.exponent with
  | none => (scale (Double.ofNat s) 4 start).map (signed l.negative)
  | some (down, ds) =>
    let e := natOfDigits ds
    if Nat.pow 2 31 - 1 < e then
      if s ≠ 0 ∧ ¬down then none else some (signed l.negative Double.zero)
    else (scale (Double.ofNat s) 4 (if down then start - e else start + e)).map (signed l.negative)

/-- The value of a literal: whole numbers of 64 bits stay whole, but `-0` is the negative zero. -/
def value (l : Literal) : Option Json :=
  match l.fraction, l.exponent with
  | none, none =>
    let n := natOfDigits l.whole
    if l.negative then
      if n = 0 then some (float (Double.neg Double.zero))
      else if n ≤ Nat.pow 2 63 then some (int (-n))
      else (floatOf l).map float
    else if n ≤ maxSignificand then some (int n)
    else (floatOf l).map float
  | _, _ => (floatOf l).map float

/-- A number at the front of the text. -/
def read (cs : List Char) : Option (Json × List Char) := do
  let (l, rest) ← scan cs
  let v ← value l
  return (v, rest)

end ChatRetrieval.Json.Number
