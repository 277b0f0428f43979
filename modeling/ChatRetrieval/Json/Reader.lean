import ChatRetrieval.Json.Number

/-!
Reading JSON text. Every reader takes the front of the text and gives the value with what follows.
Objects keep their members as written; at most 127 arrays and objects may be nested, and an escape
that is half a surrogate pair is refused. Inside an array or object, text that is refused only for its
nesting, such an escape or the size of a number is skipped as illegible.
-/

namespace ChatRetrieval.Json.Reader

def isSpace (c : Char) : Bool := c = ' ' ∨ c = '\n' ∨ c = '\t' ∨ c = '\r'

def skipSpace (cs : List Char) : List Char := cs.dropWhile isSpace

def hexValue? (c : Char) : Option Nat :=
  if '0' ≤ c ∧ c ≤ '9' then some (c.toNat - '0'.toNat)
  else if 'a' ≤ c ∧ c ≤ 'f' then some (c.toNat - 'a'.toNat + 10)
  else if 'A' ≤ c ∧ c ≤ 'F' then some (c.toNat - 'A'.toNat + 10)
  else none

/-- Four hexadecimal digits. -/
def hexQuad : List Char → Option (Nat × List Char)
  | a :: b :: c :: d :: r => do
    let a ← hexValue? a
    let b ← hexValue? b
    let c ← hexValue? c
    let d ← hexValue? d
    return (((a * 16 + b) * 16 + c) * 16 + d, r)
  | _ => none

/-- The character after `\u`, one code unit or a surrogate pair. -/
def unicodeEscape (cs : List Char) : Option (Char × List Char) := do
  let (unit, r) ← hexQuad cs
  if 0xDC00 ≤ unit ∧ unit ≤ 0xDFFF then none
  else if 0xD800 ≤ unit ∧ unit ≤ 0xDBFF then
    match r with
    | '\\' :: 'u' :: r =>
      let (low, r) ← hexQuad r
      if 0xDC00 ≤ low ∧ low ≤ 0xDFFF then
        return (Char.ofNat (0x10000 + (unit - 0xD800) * 0x400 + (low - 0xDC00)), r)
      else none
    | _ => none
  else return (Char.ofNat unit, r)

/-- The character named by a backslash escape. -/
def escape : List Char → Option (Char × List Char)
  | '"' :: r => some ('"', r)
  | '\\' :: r => some ('\\', r)
  | '/' :: r => some ('/', r)
  | 'b' :: r => some ('\x08', r)
  | 'f' :: r => some ('\x0c', r)
  | 'n' :: r => some ('\n', r)
  | 'r' :: r => some ('\r', r)
  | 't' :: r => some ('\t', r)
  | 'u' :: r => unicodeEscape r
  | _ => none

/-- The rest of a string behind its opening quote; `acc` holds what was read, last first. -/
def stringBody : Nat → List Char → List Char → Option (String × List Char)
  | 0, _, _ => none
  | _, _, [] => none
  | fuel + 1, acc, c :: r =>
    if c = '"' then some (String.ofList acc.reverse, r)
    else if c = '\\' then
      match escape r with
      | some (e, r') => stringBody fuel (e :: acc) r'
      | none => none
    else if c.toNat < 0x20 then none
    else stringBody fuel (c :: acc) r

/-- Drops a word from the front of the text. -/
def word? (word : List Char) (cs : List Char) : Option (List Char) :=
  if word.isPrefixOf cs then some (cs.drop word.length) else none

/-- What an escape is followed by; it may be half a surrogate pair. -/
def skipEscape : List Char → Option (List Char)
  | 'u' :: r => (hexQuad r).map (·.2)
  | cs => (escape cs).map (·.2)

/-- What a string is followed by, behind its opening quote. -/
def skipString : Nat → List Char → Option (List Char)
  | 0, _ => none
  | _, [] => none
  | fuel + 1, c :: r =>
    if c = '"' then some r
    else if c = '\\' then (skipEscape r).bind (skipString fuel)
    else if c.toNat < 0x20 then none
    else skipString fuel r

mutual

/-- What a value is followed by, however deep it is nested and however large its numbers are. -/
def skip : Nat → List Char → Option (List Char)
  | 0, _ => none
  | fuel + 1, cs =>
    match skipSpace cs with
    | [] => none
    | '"' :: r => skipString (r.length + 1) r
    | '[' :: r =>
      match skipSpace r with
      | ']' :: r => some r
      | r => skipItems fuel r
    | '\x7b' :: r =>
      match skipSpace r with
      | '\x7d' :: r => some r
      | r => skipMembers fuel r
    | 'n' :: r => word? ['u', 'l', 'l'] r
    | 't' :: r => word? ['r', 'u', 'e'] r
    | 'f' :: r => word? ['a', 'l', 's', 'e'] r
    | c :: r => (Number.scan (c :: r)).map (·.2)

def skipItems : Nat → List Char → Option (List Char)
  | 0, _ => none
  | fuel + 1, cs =>
    match skip fuel cs with
    | none => none
    | some r =>
      match skipSpace r with
      | ',' :: r => skipItems fuel r
      | ']' :: r => some r
      | _ => none

def skipMembers : Nat → List Char → Option (List Char)
  | 0, _ => none
  | fuel + 1, cs =>
    match skipSpace cs with
    | '"' :: r =>
      match skipString (r.length + 1) r with
      | none => none
      | some r =>
        match skipSpace r with
        | ':' :: r =>
          match skip fuel r with
          | none => none
          | some r =>
            match skipSpace r with
            | ',' :: r => skipMembers fuel r
            | '\x7d' :: r => some r
            | _ => none
        | _ => none
    | _ => none

end

/-- What was read of the text, or else something illegible if the text can be skipped. -/
def orIllegible (fuel : Nat) (cs : List Char) :
    Option (Json × List Char) → Option (Json × List Char)
  | some x => some x
  | none => (skip fuel cs).map fun r => (illegible, r)

mutual

/-- A value, `depth` more levels of nesting allowed. -/
def value : Nat → Nat → List Char → Option (Json × List Char)
  | 0, _, _ => none
  | fuel + 1, depth, cs =>
    match skipSpace cs with
    | [] => none
    | '"' :: r => (stringBody (r.length + 1) [] r).map fun (s, r) => (str s, r)
    | '[' :: r =>
      match depth with
      | 0 => none
      | d + 1 =>
        match skipSpace r with
        | ']' :: r => some (arr [], r)
        | r => (items fuel d [] r).map fun (xs, r) => (arr xs, r)
    | '\x7b' :: r =>
      match depth with
      | 0 => none
      | d + 1 =>
        match skipSpace r with
        | '\x7d' :: r => some (obj [], r)
        | r => (members fuel d [] r).map fun (ms, r) => (obj ms, r)
    | 'n' :: r => (word? ['u', 'l', 'l'] r).map fun r => (null, r)
    | 't' :: r => (word? ['r', 'u', 'e'] r).map fun r => (bool true, r)
    | 'f' :: r => (word? ['a', 'l', 's', 'e'] r).map fun r => (bool false, r)
    | c :: r => Number.read (c :: r)

/-- The items of an array up to its closing bracket. -/
def items : Nat → Nat → List Json → List Char → Option (List Json × List Char)
  | 0, _, _, _ => none
  | fuel + 1, depth, acc, cs =>
    match orIllegible fuel cs (value fuel depth cs) with
    | none => none
    | some (x, r) =>
      match skipSpace r with
      | ',' :: r => items fuel depth (x :: acc) r
      | ']' :: r => some ((x :: acc).reverse, r)
      | _ => none

/-- The members of an object up to its closing brace. -/
def members : Nat → Nat → List (String × Json) → List Char →
    Option (List (String × Json) × List Char)
  | 0, _, _, _ => none
  | fuel + 1, depth, acc, cs =>
    match skipSpace cs with
    | '"' :: r =>
      match stringBody (r.length + 1) [] r with
      | none => none
      | some (k, r) =>
        match skipSpace r with
        | ':' :: r =>
          match orIllegible fuel r (value fuel depth r) with
          | none => none
          | some (x, r) =>
            match skipSpace r with
            | ',' :: r => members fuel depth ((k, x) :: acc) r
            | '\x7d' :: r => some (((k, x) :: acc).reverse, r)
            | _ => none
        | _ => none
    | _ => none

end

/-- Levels of nesting a text may have. -/
def maxDepth : Nat := 127

end ChatRetrieval.Json.Reader

namespace ChatRetrieval.Json

/-- The value a whole text stands for, its objects as written. -/
def parseRaw (text : String) : Option Json :=
  let cs := text.toList
  match Reader.value (2 * cs.length + 2) Reader.maxDepth cs with
  | some (v, r) => if (Reader.skipSpace r).isEmpty then some v else none
  | none => none

/-- The value a whole text stands for, in canonical form. -/
def parse (text : String) : Option Json := (parseRaw text).bind legible?

end ChatRetrieval.Json
