import ChatRetrieval.Json.Basic
import ChatRetrieval.Text.Basic

/-!
Parameters. They are texts to a caller and typed values on the wire: a text that spells a whole number
of 64 bits, a finite number or a truth value is sent as that, any other as it is.
-/

namespace ChatRetrieval.Milvus.Param

/-- Sign and rest of a numeral. -/
def unsigned (cs : List Char) : Bool × List Char :=
  match cs with
  | '-' :: r => (true, r)
  | '+' :: r => (false, r)
  | r => (false, r)

/-- The signed 64-bit number a text spells. -/
def integer? (cs : List Char) : Option Int := do
  let (negative, ds) := unsigned cs
  let n ← Text.numeral? ds
  let i : Int := if negative then -n else n
  let limit : Int := Nat.pow 2 63
  if -limit ≤ i ∧ i < limit then return i else none

/-- The power of ten behind an exponent mark; no exponent counts as zero. -/
def exponent? : List Char → Option Int
  | [] => some 0
  | c :: r =>
    if c = 'e' ∨ c = 'E' then do
      let (negative, ds) := unsigned r
      let n ← Text.numeral? ds
      return if negative then -n else n
    else none

/-- The finite number a text spells: digits with at most one point and perhaps an exponent. -/
def decimal? (cs : List Char) : Option Double := do
  let (negative, r) := unsigned cs
  let whole := r.takeWhile Text.isDigit
  let behind := r.drop whole.length
  let fraction := match behind with
    | '.' :: f => f.takeWhile Text.isDigit
    | _ => []
  let rest := match behind with
    | '.' :: f => f.drop fraction.length
    | _ => behind
  let digits ← Text.numeral? (whole ++ fraction)
  let e ← exponent? rest
  let d := Double.ofDecimal negative digits (e - fraction.length)
  if d.isFinite then return d else none

def truth? : String → Option Bool
  | "true" => some true
  | "false" => some false
  | _ => none

/-- The value a parameter is sent as. -/
def toJson (text : String) : Json :=
  match integer? text.toList, decimal? text.toList, truth? text with
  | some i, _, _ => .int i
  | none, some d, _ => .float d
  | none, none, some b => .bool b
  | none, none, none => .str text

end ChatRetrieval.Milvus.Param
