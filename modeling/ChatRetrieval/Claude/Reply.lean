import ChatRetrieval.Claude.Input
import ChatRetrieval.Json.Printer

/-!
Turning Claude replies, whole or streamed, into messages.
-/

namespace ChatRetrieval.Claude

/-- The counts in terms of messages: cached tokens belong to the prompt. -/
def Usage.toTokenUsage (u : Usage) : TokenUsage :=
  let prompt := TokenUsage.plus (TokenUsage.plus u.inputTokens u.cacheCreationTokens) u.cacheReadTokens
  ⟨prompt, u.cacheReadTokens, u.outputTokens, 0, TokenUsage.plus prompt u.outputTokens⟩

/-- The arguments of a call as text. -/
def argumentText : Json → String
  | .null => "\x7b\x7d"
  | input => input.render

/-- Adds a block of a reply to its message. -/
def addBlock (m : Message) : ReplyBlock → Message
  | .text t => { m with content := m.content ++ t }
  | .thinking t signature =>
    let m := { m with reasoning := m.reasoning ++ t }
    if signature.isEmpty then m else setThinkingSignature m signature
  | .toolUse id name input =>
    { m with toolCalls := m.toolCalls ++ [.function id name (argumentText input)] }
  | .other => m

/-- The message of a whole reply. -/
def responseMessage (reply : Reply) : Message :=
  reply.content.foldl addBlock { Message.blank .assistant with
    responseMeta := some ⟨reply.stopReason, some reply.usage.toTokenUsage, none⟩ }

/-- The piece of a message that a delta brings. -/
def deltaMessage (index : Nat) : Delta → Option Message
  | .text t => some (.assistant t [])
  | .thinking t => some { Message.blank .assistant with reasoning := t }
  | .signature s => some (setThinkingSignature (.blank .assistant) s)
  | .inputJson piece => some (.assistant "" [⟨some index, "", "", "", piece, Dict.empty⟩])
  | .other => none

/-- The piece of a message that the start of a block brings. -/
def startMessage (index : Nat) : ReplyBlock → Option Message
  | .toolUse id name _ => some (.assistant "" [{ ToolCall.function id name "" with index := some index }])
  | .text t => if t.isEmpty then none else some (.assistant t [])
  | _ => none

/-- The piece of a message that an event brings. The counts of the prompt come with the start and are
reported together with the count of the output. -/
def onEvent (usage : Usage) : Event → Result (Option Message) × Usage
  | .messageStart reply => (.ok none, reply.usage)
  | .blockStart index block => (.ok (startMessage index block), usage)
  | .blockDelta index delta => (.ok (deltaMessage index delta), usage)
  | .messageDelta stopReason more =>
    let usage := match more with
      | some u => { usage with outputTokens := u.outputTokens }
      | none => usage
    (.ok (some { Message.blank .assistant with
      responseMeta := some ⟨stopReason, some usage.toTokenUsage, none⟩ }), usage)
  | .error kind message =>
    (Result.fail ("claude stream error: " ++ kind ++ ": " ++ message), usage)
  | .other => (.ok none, usage)

end ChatRetrieval.Claude
