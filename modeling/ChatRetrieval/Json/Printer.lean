import ChatRetrieval.Json.Basic

/-!
Compact JSON text: no spaces, members in the order they are held, and only quotes, backslashes and
control characters escaped.
-/

namespace ChatRetrieval.Json

def hexDigit (n : Nat) : Char := if n < 10 then Char.ofNat (n + 48) else Char.ofNat (n + 87)

/-- The written form of a character inside a string. -/
def escapeChar (c : Char) : List Char :=
  if c = '"' then ['\\', '"']
  else if c = '\\' then ['\\', '\\']
  else if c = '\x08' then ['\\', 'b']
  else if c = '\x0c' then ['\\', 'f']
  else if c = '\n' then ['\\', 'n']
  else if c = '\r' then ['\\', 'r']
  else if c = '\t' then ['\\', 't']
  else if c.toNat < 0x20 then
    ['\\', 'u', '0', '0', hexDigit (c.toNat / 16), hexDigit (c.toNat % 16)]
  else [c]

def quote (s : String) : List Char := '"' :: s.toList.flatMap escapeChar ++ ['"']

def intText (n : Int) : List Char :=
  if n < 0 then '-' :: Nat.toDigits 10 n.natAbs else Nat.toDigits 10 n.natAbs

mutual

/-- The text of a value as characters. -/
def chars : Json → List Char
  | null | illegible => ['n', 'u', 'l', 'l']
  | bool true => ['t', 'r', 'u', 'e']
  | bool false => ['f', 'a', 'l', 's', 'e']
  | int n => intText n
  | float d => if d.isFinite then d.text else ['n', 'u', 'l', 'l']
  | str s => quote s
  | arr [] => ['[', ']']
  | arr (x :: r) => '[' :: (chars x ++ itemChars r)
  | obj [] => ['\x7b', '\x7d']
  | obj ((k, x) :: r) => '\x7b' :: (quote k ++ ':' :: (chars x ++ memberChars r))

/-- The items behind the first one and the closing bracket. -/
def itemChars : List Json → List Char
  | [] => [']']
  | x :: r => ',' :: (chars x ++ itemChars r)

/-- The members behind the first one and the closing brace. -/
def memberChars : List (String × Json) → List Char
  | [] => ['\x7d']
  | (k, x) :: r => ',' :: (quote k ++ ':' :: (chars x ++ memberChars r))

end

/-- The compact text of a value. -/
def render (j : Json) : String := String.ofList j.chars

end ChatRetrieval.Json
