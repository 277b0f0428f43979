import ChatRetrieval.Json.Decode

/-!
Who speaks in a conversation.
-/

namespace ChatRetrieval

inductive Role where
  | system
  | user
  | assistant
  | tool
  deriving DecidableEq, Inhabited, Repr

namespace Role

def name : Role → String
  | system => "system"
  | user => "user"
  | assistant => "assistant"
  | tool => "tool"

def byName : List (String × Role) :=
  [system, user, assistant, tool].map fun r => (r.name, r)

/-- The role of this name. -/
def named? (name : String) : Option Role := byName.lookup name

def decode : Decoder Role := Decode.oneOf byName

def toJson (r : Role) : Json := .str r.name

end Role

end ChatRetrieval
