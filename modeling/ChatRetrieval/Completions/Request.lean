import ChatRetrieval.Completions.Wire
import ChatRetrieval.Chat.Options

/-!
Building the body of a chat-completions call from messages, bound tools and the options of the call.
Options of the call win over the configuration.
-/

namespace ChatRetrieval.Completions

open Json (field field? fieldList)

/-- The body of a call. -/
structure Request where
  model : String
  messages : List RequestMessage
  maxTokens : Option Nat
  temperature : Option Single
  topP : Option Single
  stop : Option (List String)
  presencePenalty : Option Single
  frequencyPenalty : Option Single
  responseFormat : Option ResponseFormat
  logprobs : Option Bool
  topLogprobs : Option Nat
  tools : List Tool
  toolChoice : Option ToolChoiceParam
  /-- A streamed reply, its last chunk reporting usage. -/
  streamed : Bool
  /-- Fields of one provider. -/
  extra : List (String × Json)

namespace Request

def blank (model : String) : Request where
  model
  messages := []
  maxTokens := none
  temperature := none
  topP := none
  stop := none
  presencePenalty := none
  frequencyPenalty := none
  responseFormat := none
  logprobs := none
  topLogprobs := none
  tools := []
  toolChoice := none
  streamed := false
  extra := []

def addField (r : Request) (name : String) (value : Json) : Request :=
  { r with extra := r.extra ++ [(name, value)] }

/-- Adds a field when there is a value for it. -/
def addField? {α : Type} (r : Request) (name : String) (encode : α → Json) (value : Option α) :
    Request :=
  match value with
  | some v => r.addField name (encode v)
  | none => r

def toJson (r : Request) : Json := .ofMembers ([
  field "model" (.str r.model), field "messages" (.arr (r.messages.map RequestMessage.toJson)),
  field? "max_tokens" .ofNat r.maxTokens, field? "temperature" .ofSingleText r.temperature,
  field? "top_p" .ofSingleText r.topP, field? "stop" .ofStrings r.stop,
  field? "presence_penalty" .ofSingleText r.presencePenalty,
  field? "frequency_penalty" .ofSingleText r.frequencyPenalty,
  field? "response_format" ResponseFormat.toJson r.responseFormat,
  field? "logprobs" .bool r.logprobs, field? "top_logprobs" .ofNat r.topLogprobs,
  fieldList "tools" Tool.toJson r.tools, field? "tool_choice" ToolChoiceParam.toJson r.toolChoice,
  if r.streamed then field "stream" (.bool true) else none,
  if r.streamed then field "stream_options" (.ofFields [field "include_usage" (.bool true)])
  else none].filterMap id ++ r.extra)

/-- Lets the common options of a call override the configuration. -/
def override (r : Request) (options : ChatOptions) : Request :=
  { r with
    model := options.model.getD r.model
    temperature := options.temperature.or r.temperature
    maxTokens := options.maxTokens.or r.maxTokens
    topP := options.topP.or r.topP
    stop := options.stop.or r.stop }

end Request

/-- A part as it is sent; sounds and files cannot be. -/
def wirePart (provider : String) : ContentPart → Result Part
  | .text t => .ok (.text t)
  | .image url detail _ => .ok (.image ⟨url, detail.map (·.name)⟩)
  | .video url _ => .ok (.video ⟨url, none⟩)
  | .audio _ _ => .error (Cause.unsupportedPart provider "audio_url").failure
  | .file _ _ => .error (Cause.unsupportedPart provider "file_url").failure

def wireParts (provider : String) (parts : List ContentPart) : Result (List Part) :=
  parts.mapM (wirePart provider)

/-- A call as it is sent back. -/
def wireCall (c : ToolCall) : WireCall where
  index := none
  id := some c.id
  kind := some (if c.kind.isEmpty then "function" else c.kind)
  name := some c.name
  arguments := some c.arguments

/-- The content of a message: its parts, or else its text, left out when only tool calls are left. -/
def wireContent (provider : String) (m : Message) : Result (Option Content) :=
  let parts := if m.role = .assistant then m.assistantParts else m.userParts
  if parts.isEmpty then
    if m.content.isEmpty ∧ !m.toolCalls.isEmpty then .ok none else .ok (some (.text m.content))
  else (wireParts provider parts).map fun ps => some (.parts ps)

/-- A message as it is sent; `toolRole` is the provider's name for the role of a tool result. -/
def requestMessage (provider toolRole : String) (m : Message) : Result RequestMessage := do
  let content ← wireContent provider m
  return {
    role := if m.role = .tool then toolRole else m.role.name
    content
    name := if m.role = .tool then m.toolName else none
    toolCalls := m.toolCalls.map wireCall
    toolCallId := m.toolCallId }

def requestMessages (provider toolRole : String) (input : List Message) :
    Result (List RequestMessage) :=
  input.mapM (requestMessage provider toolRole)

def functionTools (tools : List ToolInfo) : List Tool :=
  tools.map fun t => ⟨"function", t.name, t.description, t.schema⟩

/-- Sets the tools, those of the call replacing the bound ones, and the choice among them. -/
def Request.withTools (r : Request) (bound : Binding) (options : ChatOptions) : Result Request := do
  let tools := options.tools.getD bound.tools
  let choice ← ToolChoice.resolve (options.toolChoice.or bound.choice) options.allowedToolNames
    (tools.map (·.name))
  return { r with tools := functionTools tools, toolChoice := choice.map ToolChoiceParam.ofResolved }

end ChatRetrieval.Completions
