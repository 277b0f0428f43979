import ChatRetrieval.Url.Domain

/-!
Hosts: a domain, an IPv4 address in any of its numeric spellings, or an IPv6 address in brackets,
each brought to its one canonical text.
-/

namespace ChatRetrieval.Url

/-- A number in an IPv4 address: decimal, octal after `0`, hexadecimal after `0x`. -/
def ipv4Number? (cs : List Char) : Option Nat :=
  let read (base : Nat) (ds : List Char) : Option Nat :=
    ds.foldl (fun acc c => do
      let n ← acc
      let d ← hexValue? c
      if d < base then some (n * base + d) else none) (some 0)
  match cs with
  | [] => none
  | '0' :: x :: r => if x = 'x' ∨ x = 'X' then read 16 r else read 8 (x :: r)
  | ds => read 10 ds

/-- The labels of a domain without the empty one behind a trailing dot. -/
def domainLabels (cs : List Char) : List (List Char) :=
  let labels := Text.splitOn '.' cs
  if labels.getLast? = some [] ∧ 1 < labels.length then labels.dropLast else labels

/-- Whether a domain must be read as an IPv4 address. -/
def endsInNumber (cs : List Char) : Bool :=
  match (domainLabels cs).getLast? with
  | none => false
  | some [] => false
  | some l => l.all Text.isDigit ∨ ((l.take 2 = ['0', 'x'] ∨ l.take 2 = ['0', 'X']) ∧ (ipv4Number? l).isSome)

def numbers? : List (List Char) → Option (List Nat)
  | [] => some []
  | l :: r => do
    let n ← ipv4Number? l
    let ns ← numbers? r
    return n :: ns

def ipv4Text (n : Nat) : List Char :=
  (Text.decimal (n / Nat.pow 2 24) ++ "." ++ Text.decimal (n / Nat.pow 2 16 % 256) ++ "." ++
    Text.decimal (n / 256 % 256) ++ "." ++ Text.decimal (n % 256)).toList

/-- An IPv4 address; the last number fills the bytes the others leave. -/
def ipv4? (cs : List Char) : Option (List Char) := do
  let ns ← numbers? (domainLabels cs)
  let last ← ns.getLast?
  let front := ns.dropLast
  let room := Nat.pow 256 (4 - front.length)
  if 3 < front.length ∨ front.any (255 < ·) ∨ room ≤ last then none
  else return ipv4Text ((front.foldl (fun n b => 256 * n + b) 0) * room + last)

/-- A group of up to four hexadecimal digits. -/
def ipv6Group? (cs : List Char) : Option Nat :=
  if cs.isEmpty ∨ 4 < cs.length then none
  else cs.foldl (fun acc c => do
    let n ← acc
    let d ← hexValue? c
    return n * 16 + d) (some 0)

/-- A decimal byte without leading zero. -/
def byte? (cs : List Char) : Option Nat := do
  let n ← Text.numeral? cs
  if n ≤ 255 ∧ (cs.length = 1 ∨ cs.head? ≠ some '0') then some n else none

/-- The groups of one side of an IPv6 address; its very end may be an IPv4 address. -/
def ipv6Groups? (atEnd : Bool) : List (List Char) → Option (List Nat)
  | [] => some []
  | [l] =>
    if atEnd ∧ l.contains '.' then
      match Text.splitOn '.' l with
      | [a, b, c, d] => do
        let a ← byte? a
        let b ← byte? b
        let c ← byte? c
        let d ← byte? d
        return [a * 256 + b, c * 256 + d]
      | _ => none
    else (ipv6Group? l).map ([·])
  | l :: r => do
    let n ← ipv6Group? l
    let ns ← ipv6Groups? atEnd r
    return n :: ns

/-- Cuts at the first double colon. -/
def cutDoubleColon : List Char → Option (List Char × List Char)
  | ':' :: ':' :: r => some ([], r)
  | c :: r => (cutDoubleColon r).map fun (a, b) => (c :: a, b)
  | [] => none

def groupsOf (cs : List Char) : List (List Char) := if cs.isEmpty then [] else Text.splitOn ':' cs

/-- The eight groups of an IPv6 address. -/
def ipv6? (cs : List Char) : Option (List Nat) :=
  match cutDoubleColon cs with
  | none => do
    let ns ← ipv6Groups? true (groupsOf cs)
    if ns.length = 8 then some ns else none
  | some (a, b) => do
    let front ← ipv6Groups? false (groupsOf a)
    let back ← ipv6Groups? true (groupsOf b)
    if front.length + back.length < 8 then
      return front ++ List.replicate (8 - front.length - back.length) 0 ++ back
    else none

/-- The length of the run of zero groups at the front. -/
def zeroRun (ns : List Nat) : Nat := (ns.takeWhile (· = 0)).length

/-- Start and length of the first longest run of zeros. -/
def longestZeroRun : Nat → List Nat → Nat × Nat
  | _, [] => (0, 0)
  | i, n :: r =>
    let here := zeroRun (n :: r)
    let (j, there) := longestZeroRun (i + 1) r
    if there ≤ here then (i, here) else (j, there)

def hexText (n : Nat) : List Char := Nat.toDigits 16 n

def colonJoin (ns : List Nat) : List Char := [':'].intercalate (ns.map hexText)

/-- The canonical text of an IPv6 address. -/
def ipv6Text (ns : List Nat) : List Char :=
  let (i, len) := longestZeroRun 0 ns
  if len < 2 then colonJoin ns
  else colonJoin (ns.take i) ++ [':', ':'] ++ colonJoin (ns.drop (i + len))

/-- The host of a web address. -/
def webHost? (cs : List Char) : Option (List Char) :=
  match cs with
  | '[' :: r =>
    if r.getLast? = some ']' then do
      let ns ← ipv6? r.dropLast
      return '[' :: ipv6Text ns ++ [']']
    else none
  | _ => do
    let domain ← domainToAscii (percentDecode cs)
    if domain.isEmpty then none
    else if endsInNumber domain then ipv4? domain
    else some domain

def isForbiddenInHost (c : Char) : Bool :=
  [0, 9, 10, 13, 32].contains c.toNat ∨
    ['#', '/', ':', '<', '>', '?', '@', '[', '\\', ']', '^', '|'].contains c

/-- The host of any other address. -/
def opaqueHost? (cs : List Char) : Option (List Char) :=
  match cs with
  | '[' :: _ => webHost? cs
  | _ => if cs.any isForbiddenInHost then none else some (percentEncode inControlSet cs)

end ChatRetrieval.Url
