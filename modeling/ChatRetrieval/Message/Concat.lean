import ChatRetrieval.Message.Basic
import ChatRetrieval.Failure

/-!
Putting the pieces of a streamed message together. Texts are joined, adjacent text parts fuse, pieces
of a tool call are merged by index, and of everything else the last report counts.
-/

namespace ChatRetrieval

namespace ContentPart

/-- Puts a part behind others; a text continues a text. -/
def append (parts : List ContentPart) (part : ContentPart) : List ContentPart :=
  match parts.getLast?, part with
  | some (text a), text b => parts.dropLast ++ [text (a ++ b)]
  | _, _ => parts ++ [part]

def appendAll (parts more : List ContentPart) : List ContentPart := more.foldl append parts

end ContentPart

/-- The first of two texts, or the second when the first is empty. -/
def firstNonEmpty (a b : String) : String := if a.isEmpty then b else a

namespace ToolCall

/-- Continues a call by a further piece of it. -/
def continued (call piece : ToolCall) : ToolCall where
  index := call.index
  id := firstNonEmpty call.id piece.id
  kind := firstNonEmpty call.kind piece.kind
  name := firstNonEmpty call.name piece.name
  arguments := call.arguments ++ piece.arguments
  extra := call.extra.union piece.extra

/-- Merges a piece into the call of its index, or puts it behind all calls. -/
def mergeInto (calls : List ToolCall) (piece : ToolCall) : List ToolCall :=
  match piece.index with
  | none => calls ++ [piece]
  | some i =>
    if calls.any fun c => c.index == some i then
      calls.map fun c => if c.index == some i then c.continued piece else c
    else calls ++ [piece]

/-- One call for each index, where it first appeared; calls without index stay as they are. -/
def merge (pieces : List ToolCall) : List ToolCall := pieces.foldl mergeInto []

end ToolCall

namespace ResponseMeta

/-- Combines two optional values, one alone standing for itself. -/
def combine {α : Type} (f : α → α → α) : Option α → Option α → Option α
  | some a, some b => some (f a b)
  | some a, none => some a
  | none, b => b

/-- Takes the report of a further piece: the last nonempty reason, the larger counts, all
probabilities. -/
def join (a b : ResponseMeta) : ResponseMeta where
  finishReason := (b.finishReason.filter fun r => !r.isEmpty).or a.finishReason
  usage := combine TokenUsage.max a.usage b.usage
  logprobs := combine (· ++ ·) a.logprobs b.logprobs

end ResponseMeta

namespace Message

/-- What is gathered while pieces come in. -/
structure Gathering where
  message : Message
  pieces : List ToolCall
  report : ResponseMeta

/-- Takes one piece in. -/
def Gathering.add (p : Gathering) (chunk : Message) : Gathering where
  message := { p.message with
    content := p.message.content ++ chunk.content
    reasoning := p.message.reasoning ++ chunk.reasoning
    userParts := ContentPart.appendAll p.message.userParts chunk.userParts
    assistantParts := ContentPart.appendAll p.message.assistantParts chunk.assistantParts
    toolCallId := chunk.toolCallId.or p.message.toolCallId
    toolName := chunk.toolName.or p.message.toolName
    extra := p.message.extra.union chunk.extra }
  pieces := p.pieces ++ chunk.toolCalls
  report := p.report.join (chunk.responseMeta.getD .empty)

/-- The message gathered so far. -/
def Gathering.finish (p : Gathering) : Message :=
  { p.message with toolCalls := ToolCall.merge p.pieces, responseMeta := p.report.nonEmpty? }

/-- Takes pieces in up to the first of another role. -/
def gather (p : Gathering) : List Message → Result Gathering
  | [] => .ok p
  | chunk :: rest =>
    if chunk.role = p.message.role then gather (p.add chunk) rest
    else .error (Cause.roleMismatch p.message.role chunk.role).failure

/-- Merges the pieces of a message. -/
def concat : List Message → Result Message
  | [] => .error Cause.emptyConcat.failure
  | first :: rest =>
    match gather ⟨blank first.role, [], .empty⟩ (first :: rest) with
    | .ok p => .ok p.finish
    | .error f => .error f

end Message

end ChatRetrieval
