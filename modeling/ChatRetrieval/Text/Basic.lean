/-!
Small functions on text: blank characters, cutting at a separator, decimal numerals.
-/

namespace ChatRetrieval.Text

/-- The characters with the white-space property. -/
def isBlank (c : Char) : Bool :=
  let n := c.toNat
  (0x09 ≤ n ∧ n ≤ 0x0D) ∨ n = 0x20 ∨ n = 0x85 ∨ n = 0xA0 ∨ n = 0x1680 ∨
    (0x2000 ≤ n ∧ n ≤ 0x200A) ∨ n = 0x2028 ∨ n = 0x2029 ∨ n = 0x202F ∨ n = 0x205F ∨ n = 0x3000

/-- Drops from the end while the test holds. -/
def dropLastWhile (p : Char → Bool) (cs : List Char) : List Char :=
  (cs.reverse.dropWhile p).reverse

/-- The text without blanks at its ends. -/
def trim (s : String) : String :=
  String.ofList (dropLastWhile isBlank (s.toList.dropWhile isBlank))

/-- The text behind a given beginning. -/
def after? (start s : String) : Option String :=
  if start.toList.isPrefixOf s.toList then some (String.ofList (s.toList.drop start.length)) else none

/-- The text in front of a given ending. -/
def before? (ending s : String) : Option String :=
  if ending.toList.isSuffixOf s.toList then
    some (String.ofList (s.toList.take (s.length - ending.length)))
  else none

/-- The text on both sides of the first such character. -/
def cut? (c : Char) (s : String) : Option (String × String) :=
  let front := s.toList.takeWhile (· != c)
  match s.toList.drop front.length with
  | [] => none
  | _ :: back => some (String.ofList front, String.ofList back)

def startsWith (start s : String) : Bool := (after? start s).isSome

/-- The pieces between the separators, empty ones included. -/
def splitOn (c : Char) : List Char → List (List Char)
  | [] => [[]]
  | x :: r =>
    if x = c then [] :: splitOn c r
    else match splitOn c r with
      | [] => [[x]]
      | p :: ps => (x :: p) :: ps

def joinWith (separator : String) (parts : List String) : String := separator.intercalate parts

def decimal (n : Nat) : String := String.ofList (Nat.toDigits 10 n)

def signedDecimal (n : Int) : String :=
  if n < 0 then "-" ++ decimal n.natAbs else decimal n.natAbs

def isDigit (c : Char) : Bool := '0' ≤ c ∧ c ≤ '9'

/-- The number that a nonempty run of decimal digits stands for. -/
def numeral? (cs : List Char) : Option Nat :=
  if cs.isEmpty ∨ !cs.all isDigit then none
  else some (cs.foldl (fun n c => 10 * n + (c.toNat - '0'.toNat)) 0)

def lowerChar (c : Char) : Char := if 'A' ≤ c ∧ c ≤ 'Z' then Char.ofNat (c.toNat + 32) else c

/-- Lower case for the Latin letters of ASCII, all else as it is. -/
def lower (s : String) : String := String.ofList (s.toList.map lowerChar)

end ChatRetrieval.Text
