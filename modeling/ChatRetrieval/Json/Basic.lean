import ChatRetrieval.Dict
import ChatRetrieval.Number.Shortest

/-!
JSON values. As read, an object keeps its members in the order of the text, repetitions included;
a value without a fixed shape is used in its canonical form, with every object's keys distinct and
in increasing order. Whole numbers of 64 bits are told apart from all other numbers. Where a text is
well formed but stands for no value, something illegible takes its place: it may be passed over, as
the members of an object that nobody asks for are, and that is all that can be done with it.
-/

namespace ChatRetrieval

inductive Json where
  | null
  | bool (b : Bool)
  /-- A whole number from `-2^63` to `2^64 - 1`. -/
  | int (n : Int)
  | float (d : Double)
  | str (s : String)
  | arr (items : List Json)
  | obj (members : List (String × Json))
  /-- Text that is well formed and stands for no value. -/
  | illegible
  deriving Inhabited

namespace Json

mutual

/-- Equality of values is decidable, object order included. -/
def decEq : (a b : Json) → Decidable (a = b)
  | null, null => isTrue rfl
  | illegible, illegible => isTrue rfl
  | bool a, bool b => if h : a = b then isTrue (h ▸ rfl) else isFalse (by simp [h])
  | int a, int b => if h : a = b then isTrue (h ▸ rfl) else isFalse (by simp [h])
  | float a, float b => if h : a = b then isTrue (h ▸ rfl) else isFalse (by simp [h])
  | str a, str b => if h : a = b then isTrue (h ▸ rfl) else isFalse (by simp [h])
  | arr a, arr b => match decEqItems a b with
    | isTrue h => isTrue (h ▸ rfl)
    | isFalse h => isFalse (by simp [h])
  | obj a, obj b => match decEqMembers a b with
    | isTrue h => isTrue (h ▸ rfl)
    | isFalse h => isFalse (by simp [h])
  | null, bool _ | null, int _ | null, float _ | null, str _ | null, arr _ | null, obj _
  | bool _, null | bool _, int _ | bool _, float _ | bool _, str _ | bool _, arr _ | bool _, obj _
  | int _, null | int _, bool _ | int _, float _ | int _, str _ | int _, arr _ | int _, obj _
  | float _, null | float _, bool _ | float _, int _ | float _, str _ | float _, arr _
  | float _, obj _ | str _, null | str _, bool _ | str _, int _ | str _, float _ | str _, arr _
  | str _, obj _ | arr _, null | arr _, bool _ | arr _, int _ | arr _, float _ | arr _, str _
  | arr _, obj _ | obj _, null | obj _, bool _ | obj _, int _ | obj _, float _ | obj _, str _
  | obj _, arr _ | illegible, null | illegible, bool _ | illegible, int _ | illegible, float _
  | illegible, str _ | illegible, arr _ | illegible, obj _ | null, illegible | bool _, illegible
  | int _, illegible | float _, illegible | str _, illegible | arr _, illegible
  | obj _, illegible => isFalse (by simp)

def decEqItems : (a b : List Json) → Decidable (a = b)
  | [], [] => isTrue rfl
  | x :: a, y :: b => match decEq x y, decEqItems a b with
    | isTrue h, isTrue h' => isTrue (by rw [h, h'])
    | isFalse h, _ => isFalse (by simp [h])
    | _, isFalse h => isFalse (by simp [h])
  | [], _ :: _ | _ :: _, [] => isFalse (by simp)

def decEqMembers : (a b : List (String × Json)) → Decidable (a = b)
  | [], [] => isTrue rfl
  | (k, x) :: a, (l, y) :: b =>
    if h₀ : k = l then
      match decEq x y, decEqMembers a b with
      | isTrue h, isTrue h' => isTrue (by rw [h₀, h, h'])
      | isFalse h, _ => isFalse (by simp [h])
      | _, isFalse h => isFalse (by simp [h])
    else isFalse (by simp [h₀])
  | [], _ :: _ | _ :: _, [] => isFalse (by simp)

end

instance : DecidableEq Json := decEq

/-- The object with these members, keys in order, the last of equal keys kept. -/
def ofMembers (members : List (String × Json)) : Json := obj (Dict.ofList members).entries

def ofDict (d : Dict String Json) : Json := obj d.entries

mutual

/-- Sorts the keys of every object and keeps the last of equal ones; null stands for what is
illegible. -/
def canonical : Json → Json
  | arr items => arr (canonicalItems items)
  | obj members => ofMembers (canonicalMembers members)
  | illegible => null
  | j => j

def canonicalItems : List Json → List Json
  | [] => []
  | x :: r => x.canonical :: canonicalItems r

def canonicalMembers : List (String × Json) → List (String × Json)
  | [] => []
  | (k, x) :: r => (k, x.canonical) :: canonicalMembers r

end

mutual

/-- Whether nothing in a value is illegible. -/
def isLegible : Json → Bool
  | illegible => false
  | arr items => areLegible items
  | obj members => areLegibleMembers members
  | _ => true

def areLegible : List Json → Bool
  | [] => true
  | x :: r => x.isLegible && areLegible r

def areLegibleMembers : List (String × Json) → Bool
  | [] => true
  | (_, x) :: r => x.isLegible && areLegibleMembers r

end

/-- The value in canonical form, if it is legible. -/
def legible? (j : Json) : Option Json := if j.isLegible then some j.canonical else none

mutual

/-- How deep values are nested, a lone value counting one. -/
def depth : Json → Nat
  | arr items => depthItems items + 1
  | obj members => depthMembers members + 1
  | _ => 1

def depthItems : List Json → Nat
  | [] => 0
  | x :: r => max x.depth (depthItems r)

def depthMembers : List (String × Json) → Nat
  | [] => 0
  | (_, x) :: r => max x.depth (depthMembers r)

end

/-- The member of an object under `key`. -/
def get? (j : Json) (key : String) : Option Json :=
  match j with
  | obj members => members.reverse.lookup key
  | _ => none

def asString? : Json → Option String
  | str s => some s
  | _ => none

def asBool? : Json → Option Bool
  | bool b => some b
  | _ => none

/-- A whole number in the signed 64-bit range. -/
def asInt64? : Json → Option Int
  | int n => if n < Nat.pow 2 63 then some n else none
  | _ => none

/-- A number as a double. -/
def asDouble? : Json → Option Double
  | int n => some (Double.ofInt n)
  | float d => some d
  | _ => none

def isObject : Json → Bool
  | obj _ => true
  | _ => false

def isNull : Json → Bool
  | null => true
  | _ => false

/-- A double as a value; infinities have no JSON form and become null. -/
def ofDouble (d : Double) : Json := if d.isFinite then float d else null

/-- A single widened to a double. -/
def ofSingle (s : Single) : Json := ofDouble s.toDouble

/-- A single as it reads back from its own shortest text. -/
def ofSingleText (s : Single) : Json := ofDouble s.reread

def ofNat (n : Nat) : Json := int n

def ofStrings (l : List String) : Json := arr (l.map str)

/-- A value, or null in its place. -/
def nullable {α : Type} (encode : α → Json) : Option α → Json
  | some a => encode a
  | none => null

/-- The members that are present. -/
def ofFields (fields : List (Option (String × Json))) : Json := ofMembers (fields.filterMap id)

/-- A member that is always written. -/
def field (name : String) (value : Json) : Option (String × Json) := some (name, value)

/-- A member written only when there is a value. -/
def field? {α : Type} (name : String) (encode : α → Json) (value : Option α) :
    Option (String × Json) := value.map fun v => (name, encode v)

/-- A member written unless the list is empty. -/
def fieldList {α : Type} (name : String) (encode : α → Json) (items : List α) :
    Option (String × Json) := if items.isEmpty then none else some (name, arr (items.map encode))

/-- A member written unless the text is empty. -/
def fieldText (name : String) (text : String) : Option (String × Json) :=
  if text.isEmpty then none else some (name, str text)

/-- A member written unless the map is empty. -/
def fieldDict (name : String) (d : Dict String Json) : Option (String × Json) :=
  if d.isEmpty then none else some (name, ofDict d)

end Json

end ChatRetrieval
