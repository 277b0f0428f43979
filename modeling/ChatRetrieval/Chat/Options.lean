import ChatRetrieval.Ark.Settings
import ChatRetrieval.Claude.Settings
import ChatRetrieval.Gemini.Settings
import ChatRetrieval.Tool

/-!
What a caller may set for one call of a chat model, and the tools a model is bound to.
-/

namespace ChatRetrieval

/-- Options of one call; those of a single provider are there only when given. -/
structure ChatOptions where
  model : Option String
  temperature : Option Single
  maxTokens : Option Nat
  topP : Option Single
  stop : Option (List String)
  tools : Option (List ToolInfo)
  toolChoice : Option ToolChoice
  allowedToolNames : List String
  /-- Whether Qwen thinks, when its options are given. -/
  qwen : Option (Option Bool)
  claude : Option Claude.Options
  gemini : Option Gemini.Options
  ark : Option Ark.Options

def ChatOptions.none : ChatOptions where
  model := .none
  temperature := .none
  maxTokens := .none
  topP := .none
  stop := .none
  tools := .none
  toolChoice := .none
  allowedToolNames := []
  qwen := .none
  claude := .none
  gemini := .none
  ark := .none

/-- The tools a model is bound to and how it uses them by default. -/
structure Binding where
  tools : List ToolInfo
  choice : Option ToolChoice

namespace Binding

def none : Binding := ⟨[], .none⟩

/-- Binds tools, to be used as the model likes; there must be one. -/
def toTools (tools : List ToolInfo) : Result Binding :=
  if tools.isEmpty then .error Cause.noToolsToBind.failure else .ok ⟨tools, some .allowed⟩

end Binding

end ChatRetrieval
