import ChatRetrieval.Json.Reader
import ChatRetrieval.Message.Basic
import ChatRetrieval.Failure

/-!
Conversations as turns. Adjacent messages of one side share a turn, messages without content make
none, and system messages stand apart.
-/

namespace ChatRetrieval

/-- What one side says before the other answers. -/
structure Turn (ρ β : Type) where
  role : ρ
  blocks : List β

namespace Turn

variable {ρ β : Type} [DecidableEq ρ]

/-- Continues the last turn if it has this role, or begins a new one. -/
def extend (turns : List (Turn ρ β)) (role : ρ) (blocks : List β) : List (Turn ρ β) :=
  if blocks.isEmpty then turns
  else match turns.getLast? with
    | some t =>
      if t.role = role then turns.dropLast ++ [⟨role, t.blocks ++ blocks⟩]
      else turns ++ [⟨role, blocks⟩]
    | none => [⟨role, blocks⟩]

/-- Turns from what each message says. -/
def ofMessages (said : List (ρ × List β)) : List (Turn ρ β) :=
  said.foldl (fun turns s => extend turns s.1 s.2) []

end Turn

/-- All nonempty texts of the system messages. -/
def systemTexts (input : List Message) : List String :=
  ((input.filter fun m => m.role = .system).flatMap fun m =>
    m.content :: m.userParts.filterMap ContentPart.asText?).filter fun t => !t.isEmpty

/-- The arguments of a call as a value; blank ones are those of a call without arguments. -/
def ToolCall.argumentValue (c : ToolCall) : Result Json :=
  if (Text.trim c.arguments).isEmpty then .ok (.obj [])
  else Result.within ("Failed to parse arguments of tool call '" ++ c.name ++ "'")
    (Result.ofOption .json (Json.parse c.arguments))

end ChatRetrieval
