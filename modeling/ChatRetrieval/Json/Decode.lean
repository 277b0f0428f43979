import ChatRetrieval.Json.Reader

/-!
Decoding values into domain types. A record is read from an object, whose unknown members are
ignored and whose known ones may occur once, or from an array of its fields in order. A field is
required, optional (missing or null), or has a default that stands in for a missing field only. A tag,
or a choice between two shapes, is only looked for in a value that is legible as a whole.
-/

namespace ChatRetrieval

/-- Reads a value of the domain, or refuses. -/
abbrev Decoder (α : Type) := Json → Option α

namespace Decode

/-- Reads the value that a JSON text spells. -/
def fromText {α : Type} (d : Decoder α) (text : String) : Option α := (Json.parseRaw text).bind d

def string : Decoder String := Json.asString?

def bool : Decoder Bool := Json.asBool?

/-- A value without a fixed shape. -/
def any : Decoder Json := Json.legible?

/-- A decoder of a value that is read as a whole first. -/
def buffered {α : Type} (d : Decoder α) : Decoder α := fun j => if j.isLegible then d j else none

/-- A whole number between the bounds. -/
def whole (low high : Int) : Decoder Int
  | .int n => if low ≤ n ∧ n ≤ high then some n else none
  | _ => none

/-- A whole number of so many bits. -/
def natural (bits : Nat) : Decoder Nat := fun j =>
  (whole 0 ((Nat.pow 2 bits : Int) - 1) j).map Int.toNat

/-- A whole number of so many bits, the sign being one of them. -/
def signed (bits : Nat) : Decoder Int :=
  let half : Int := Nat.pow 2 (bits - 1)
  whole (-half) (half - 1)

def int64 : Decoder Int := signed 64

def int32 : Decoder Int := signed 32

def double : Decoder Double := Json.asDouble?

/-- A number narrowed to a single. -/
def single : Decoder Single
  | .int n => some (Single.ofInt n)
  | .float d => some d.toSingle
  | _ => none

/-- Null or a value. -/
def option {α : Type} (d : Decoder α) : Decoder (Option α)
  | .null => some none
  | j => (d j).map some

/-- Every item, or nothing. -/
def items {α : Type} (d : Decoder α) : List Json → Option (List α)
  | [] => some []
  | x :: r => do
    let y ← d x
    let ys ← items d r
    return y :: ys

def list {α : Type} (d : Decoder α) : Decoder (List α)
  | .arr xs => items d xs
  | _ => none

/-- The members of an object, each value decoded. -/
def members {α : Type} (d : Decoder α) : List (String × Json) → Option (List (String × α))
  | [] => some []
  | (k, x) :: r => do
    let y ← d x
    let ys ← members d r
    return (k, y) :: ys

/-- A map from names; the last of equal keys wins. -/
def dict {α : Type} (d : Decoder α) : Decoder (Dict String α)
  | .obj ms => (members d ms).map Dict.ofList
  | _ => none

/-- An object of values without a fixed shape. -/
def object : Decoder (Dict String Json) := dict any

/-- A whole number written as an object key. -/
def int64Key (key : String) : Option Int :=
  match Json.Number.read key.toList with
  | some (j, []) => int64 j
  | _ => none

/-- The members of an object whose keys are whole numbers. -/
def intMembers {α : Type} (d : Decoder α) : List (String × Json) → Option (List (Int × α))
  | [] => some []
  | (k, x) :: r => do
    let i ← int64Key k
    let y ← d x
    let ys ← intMembers d r
    return (i, y) :: ys

def intDict {α : Type} (d : Decoder α) : Decoder (Dict Int α)
  | .obj ms => (intMembers d ms).map Dict.ofList
  | _ => none

/-- One of the listed names, also written as the only key of an object with a null value. -/
def oneOf {α : Type} (names : List (String × α)) : Decoder α
  | .str s => names.lookup s
  | .obj [(s, .null)] => names.lookup s
  | _ => none

/-- The fields found for a record. -/
structure Record where
  /-- The raw value of each field that was present. -/
  fields : List (String × Json)
  /-- Whether the fields came from an object rather than an array. -/
  named : Bool

/-- How often a key occurs. -/
def occurrences (key : String) (ms : List (String × Json)) : Nat :=
  (ms.filter fun m => m.1 == key).length

/-- The fields of a record with these names, the order being that of the array form. -/
def record (names : List String) : Decoder Record
  | .obj ms =>
    if names.any fun n => 1 < occurrences n ms then none
    else some ⟨ms.filter fun m => names.contains m.1, true⟩
  | .arr xs => if names.length < xs.length then none else some ⟨names.zip xs, false⟩
  | _ => none

namespace Record

variable {α : Type} (r : Record)

def find? (name : String) : Option Json := r.fields.lookup name

/-- A field that must be present. -/
def required (name : String) (d : Decoder α) : Option α := r.find? name |>.bind d

/-- A field that may be missing from an object or null. -/
def optional (name : String) (d : Decoder α) : Option (Option α) :=
  match r.find? name with
  | some j => option d j
  | none => if r.named then some none else none

/-- A field with a value for when it is missing. -/
def withDefault (name : String) (fallback : α) (d : Decoder α) : Option α :=
  match r.find? name with
  | some j => d j
  | none => some fallback

/-- A field that is empty when missing and may be null. -/
def maybe (name : String) (d : Decoder α) : Option (Option α) :=
  r.withDefault name none (option d)

def text (name : String) : Option String := r.withDefault name "" string

def listOf (name : String) (d : Decoder α) : Option (List α) := r.withDefault name [] (list d)

def objectOf (name : String) : Option (Dict String Json) :=
  r.withDefault name Dict.empty object

end Record

/-- The tag of a tagged union and the value holding the other fields. -/
def tagged (tag : String) : Decoder (String × Json) := buffered fun
  | .obj ms =>
    if occurrences tag ms = 1 then do
      let name ← (ms.lookup tag).bind string
      return (name, .obj (ms.filter fun m => m.1 != tag))
    else none
  | .arr (.str name :: r) => some (name, .arr r)
  | _ => none

/-- A record that keeps the members it does not know; it has no array form. -/
def openRecord (names : List String) : Decoder (Record × Dict String Json)
  | .obj ms => do
    let r ← record names (.obj ms)
    let others ← object (.obj (ms.filter fun m => !names.contains m.1))
    return (r, others)
  | _ => none

/-- A list, or one item standing for a list of it. -/
def oneOrMany {α : Type} (d : Decoder α) : Decoder (List α) := buffered fun j =>
  match list d j with
  | some xs => some xs
  | none => (d j).map fun x => [x]

end Decode

end ChatRetrieval
