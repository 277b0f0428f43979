import ChatRetrieval.Url.Host
import ChatRetrieval.Failure

/-!
Absolute URLs, parsed and written as the web does it: blanks at the ends are dropped, scheme and
host are normalised, dot segments resolved, default ports left out and foreign characters percent
encoded.
-/

namespace ChatRetrieval

structure Url where
  scheme : List Char
  username : List Char
  password : List Char
  host : Option (List Char)
  port : Option Nat
  path : List Char
  query : Option (List Char)
  fragment : Option (List Char)
  deriving DecidableEq, Inhabited

namespace Url

/-- The schemes with a host and their default ports. -/
def webSchemes : List (String × Option Nat) :=
  [("http", some 80), ("https", some 443), ("ws", some 80), ("wss", some 443), ("ftp", some 21),
    ("file", none)]

def isWeb (scheme : List Char) : Bool := webSchemes.any fun s => s.1.toList = scheme

def defaultPort? (scheme : List Char) : Option Nat :=
  (webSchemes.lookup (String.ofList scheme)).bind id

def isLetter (c : Char) : Bool := ('a' ≤ c ∧ c ≤ 'z') ∨ ('A' ≤ c ∧ c ≤ 'Z')

def isSchemeChar (c : Char) : Bool := isLetter c ∨ Text.isDigit c ∨ ['+', '-', '.'].contains c

/-- The scheme and what follows its colon. -/
def cutScheme (cs : List Char) : Option (List Char × List Char) :=
  let scheme := cs.takeWhile isSchemeChar
  match scheme, cs.drop scheme.length with
  | c :: _, ':' :: r => if isLetter c then some (scheme.map Text.lowerChar, r) else none
  | _, _ => none

/-- Whether a character ends a path segment. -/
def isSlash (web : Bool) (c : Char) : Bool := c = '/' ∨ (web ∧ c = '\\')

/-- Cuts at the path separators. -/
def segments (web : Bool) : List Char → List (List Char)
  | [] => [[]]
  | c :: r =>
    if isSlash web c then [] :: segments web r
    else match segments web r with
      | [] => [[c]]
      | s :: ss => (c :: s) :: ss

def isDot (s : List Char) : Bool := [".", "%2e"].any fun d => d.toList = s.map Text.lowerChar

def isDoubleDot (s : List Char) : Bool :=
  ["..", ".%2e", "%2e.", "%2e%2e"].any fun d => d.toList = s.map Text.lowerChar

/-- Resolves dot segments; `done` holds the finished segments, last first. -/
def resolve (done : List (List Char)) : List (List Char) → List (List Char)
  | [] => done.reverse
  | [s] =>
    if isDoubleDot s then ([] :: done.tail).reverse
    else if isDot s then ([] :: done).reverse
    else (percentEncode inPathSet s :: done).reverse
  | s :: r =>
    if isDoubleDot s then resolve done.tail r
    else if isDot s then resolve done r
    else resolve (percentEncode inPathSet s :: done) r

/-- The normal form of a path, its leading separator dropped. -/
def normalPath (web : Bool) (cs : List Char) : List Char :=
  '/' :: ['/'].intercalate (resolve [] (segments web cs))

/-- Path, query and fragment. -/
def cutTail (cs : List Char) : List Char × Option (List Char) × Option (List Char) :=
  let front := cs.takeWhile (· != '#')
  let fragment := match cs.drop front.length with
    | [] => none
    | _ :: f => some (percentEncode inFragmentSet f)
  let path := front.takeWhile (· != '?')
  match front.drop path.length with
  | [] => (path, none, fragment)
  | _ :: q => (path, some q, fragment)

/-- User name and password in front of the last at sign. -/
def cutUserInfo (cs : List Char) : List Char × List Char × List Char × Bool :=
  let back := cs.reverse.takeWhile (· != '@')
  if back.length = cs.length then ([], [], cs, false)
  else
    let info := cs.take (cs.length - back.length - 1)
    let user := info.takeWhile (· != ':')
    (percentEncode inUserInfoSet user, percentEncode inUserInfoSet (info.drop (user.length + 1)),
      back.reverse, true)

/-- The host text in front of a colon outside brackets, and the port text behind it. -/
def cutPort : Bool → List Char → List Char × Option (List Char)
  | _, [] => ([], none)
  | inside, c :: r =>
    if c = ':' ∧ !inside then ([], some r)
    else
      let (h, p) := cutPort (if c = '[' then true else if c = ']' then false else inside) r
      (c :: h, p)

/-- A port number; nothing for the scheme's default or an empty one. -/
def port? (scheme : List Char) : Option (List Char) → Option (Option Nat)
  | none => some none
  | some [] => some none
  | some ds => do
    let n ← Text.numeral? ds
    if 65535 < n then none
    else if defaultPort? scheme = some n then some none
    else some (some n)

/-- Reads what follows the slashes of an address with a host. -/
def withAuthority (scheme : List Char) (web : Bool) (cs : List Char) : Option Url := do
  let authority := cs.takeWhile fun c => !(isSlash web c ∨ c = '?' ∨ c = '#')
  let (path, query, fragment) := cutTail (cs.drop authority.length)
  let (username, password, hostPort, hasInfo) := cutUserInfo authority
  let (hostText, portText) := cutPort false hostPort
  let host ← if web then webHost? hostText else opaqueHost? hostText
  if host.isEmpty ∧ (web ∨ hasInfo ∨ portText.isSome) then none
  else
    let port ← port? scheme portText
    let path := match path with
      | [] => if web then ['/'] else []
      | _ :: r => normalPath web r
    let inSet := if web then inWebQuerySet else inQuerySet
    return ⟨scheme, username, password, some host, port, path, query.map (percentEncode inSet), fragment⟩

/-- Reads a file address. -/
def fileUrl (scheme cs : List Char) : Option Url := do
  let slashes := (cs.takeWhile (isSlash true)).length
  let (host, rest) ←
    if slashes = 2 then do
      let body := cs.drop 2
      let hostText := body.takeWhile fun c => !(isSlash true c ∨ c = '?' ∨ c = '#')
      let host ← if hostText.isEmpty then some [] else webHost? hostText
      some (if host = "localhost".toList then [] else host, body.drop hostText.length)
    else some ([], cs.drop (min slashes 2))
  let (path, query, fragment) := cutTail rest
  let path := match path with
    | [] => ['/']
    | c :: r => if isSlash true c then normalPath true r else normalPath true (c :: r)
  return ⟨scheme, [], [], some host, none, path, query.map (percentEncode inWebQuerySet), fragment⟩

def isTrimmed (c : Char) : Bool := c.toNat ≤ 0x20

def isLineBreak (c : Char) : Bool := c = '\t' ∨ c = '\n' ∨ c = '\r'

/-- Reads an absolute URL. -/
def parse (text : String) : Option Url := do
  let trimmed := Text.dropLastWhile isTrimmed (text.toList.dropWhile isTrimmed)
  let (scheme, r) ← cutScheme (trimmed.filter fun c => !isLineBreak c)
  if scheme = "file".toList then fileUrl scheme r
  else if isWeb scheme then withAuthority scheme true (r.dropWhile (isSlash true))
  else match r with
    | '/' :: '/' :: r => withAuthority scheme false r
    | '/' :: r =>
      let (path, query, fragment) := cutTail r
      return ⟨scheme, [], [], none, none, normalPath false path, query.map (percentEncode inQuerySet),
        fragment⟩
    | r =>
      let (path, query, fragment) := cutTail r
      return ⟨scheme, [], [], none, none, percentEncode inControlSet path,
        query.map (percentEncode inQuerySet), fragment⟩

def hostChars (u : Url) : List Char :=
  match u.host with
  | none => if u.path.take 2 = ['/', '/'] then ['/', '.'] else []
  | some h =>
    let secret := if u.password.isEmpty then [] else ':' :: u.password
    let info := if u.username.isEmpty ∧ u.password.isEmpty then [] else u.username ++ secret ++ ['@']
    let port := match u.port with
      | none => []
      | some p => ':' :: (Text.decimal p).toList
    ['/', '/'] ++ info ++ h ++ port

def chars (u : Url) : List Char :=
  let query := match u.query with
    | none => []
    | some q => '?' :: q
  let fragment := match u.fragment with
    | none => []
    | some f => '#' :: f
  u.scheme ++ [':'] ++ u.hostChars ++ u.path ++ query ++ fragment

/-- The text of a URL. -/
def text (u : Url) : String := String.ofList u.chars

/-- The address with another query. -/
def withQuery (u : Url) (query : String) : Url := { u with query := some query.toList }

/-- Puts a path behind a base address, keeping the path the base already has. -/
def joined (base path : String) : String :=
  String.ofList (Text.dropLastWhile (· == '/') base.toList) ++ "/" ++
    String.ofList (path.toList.dropWhile (· == '/'))

def join (base path : String) : Result Url :=
  let full := joined base path
  Result.within ("Failed to parse URL: " ++ full) (Result.ofOption .url (parse full))

end Url

end ChatRetrieval
