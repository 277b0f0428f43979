import ChatRetrieval.Failure

/-!
Inline media, written as `data:<media type>;base64,<data>`.
-/

namespace ChatRetrieval.Text

/-- Media type and base64 data of an inline medium. -/
structure Inline where
  mediaType : String
  data : String
  deriving DecidableEq

namespace Inline

def url (i : Inline) : String := "data:" ++ i.mediaType ++ ";base64," ++ i.data

/-- The inline medium an address holds; nothing for an address of another scheme. -/
def ofUrl (url : String) : Result (Option Inline) :=
  match after? "data:" url with
  | none => .ok none
  | some body =>
    match cut? ',' body with
    | none => Result.fail "Malformed data url: missing ','"
    | some (head, data) =>
      match before? ";base64" head with
      | none => Result.fail "Malformed data url: only base64 payloads are supported"
      | some mediaType => .ok (some ⟨mediaType, data⟩)

end Inline

end ChatRetrieval.Text
