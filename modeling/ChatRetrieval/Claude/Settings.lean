import ChatRetrieval.Json.Decode

/-!
Settings of the Claude model that a call may override.
-/

namespace ChatRetrieval.Claude

open Json (field)

/-- Extended thinking within a budget of tokens. -/
structure Thinking where
  enabled : Bool
  budgetTokens : Nat
  deriving DecidableEq

namespace Thinking

def toJson (t : Thinking) : Json :=
  .ofFields [field "enable" (.bool t.enabled), field "budget_tokens" (.ofNat t.budgetTokens)]

def decode : Decoder Thinking := fun j => do
  let r ← Decode.record ["enable", "budget_tokens"] j
  return ⟨← r.required "enable" Decode.bool, ← r.required "budget_tokens" (Decode.natural 32)⟩

end Thinking

/-- Options of one call. -/
structure Options where
  topK : Option Nat
  thinking : Option Thinking
  disableParallelTools : Option Bool
  /-- Caches the tools, the system prompt and the conversation so far. -/
  autoCache : Option Bool
  deriving DecidableEq

def Options.none : Options := ⟨.none, .none, .none, .none⟩

end ChatRetrieval.Claude
