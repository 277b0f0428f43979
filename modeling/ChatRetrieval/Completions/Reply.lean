import ChatRetrieval.Completions.Request
import ChatRetrieval.Chat.Client

/-!
Turning chat-completions replies and stream chunks into messages, and the two calls of an endpoint.
Only choice 0 counts.
-/

namespace ChatRetrieval.Completions

/-- A received call; what is missing is empty. -/
def toolCall (c : WireCall) : ToolCall where
  index := c.index
  id := c.id.getD ""
  kind := c.kind.getD ""
  name := c.name.getD ""
  arguments := c.arguments.getD ""
  extra := Dict.empty

/-- The message of a choice with this text and these calls. -/
def choiceMessage (choice : Choice) (reply : ReplyMessage) : Message :=
  { Message.blank .assistant with
    content := reply.content.getD ""
    reasoning := reply.reasoning.getD ""
    toolCalls := reply.toolCalls.map toolCall
    responseMeta := ResponseMeta.nonEmpty?
      ⟨choice.finishReason.filter fun r => !r.isEmpty, none, choice.logprobs⟩ }

def apiFailure (provider : String) (e : ApiError) : Failure :=
  (Cause.api provider e.codeText e.message).failure

def firstChoice? (choices : List Choice) : Option Choice := choices.find? fun c => c.index == 0

def addUsage (m : Message) (usage : Option Usage) : Message :=
  match usage with
  | some u => m.withUsage u.toTokenUsage
  | none => m

/-- The message of a whole reply. -/
def responseMessage (provider : String) (reply : Reply) : Result Message :=
  match reply.error with
  | some e => .error (apiFailure provider e)
  | none =>
    if reply.choices.isEmpty then .error (Cause.emptyChoices provider).failure
    else match firstChoice? reply.choices with
      | none => .error (Cause.choiceNotFound provider).failure
      | some choice =>
        .ok (addUsage (choiceMessage choice (choice.message.getD .blank)) reply.usage)

/-- The message of a stream chunk; nothing when it carries neither a delta of choice 0 nor usage. -/
def chunkMessage (provider : String) (chunk : Reply) : Result (Option Message) :=
  match chunk.error with
  | some e => .error (apiFailure provider e)
  | none =>
    match firstChoice? chunk.choices, chunk.usage with
    | some choice, usage =>
      .ok (some (addUsage (choiceMessage choice (choice.delta.getD .blank)) usage))
    | none, some u => .ok (some ((Message.blank .assistant).withUsage u.toTokenUsage))
    | none, none => .ok none

/-- Where a provider's completions are asked for. -/
structure Endpoint where
  client : Chat.Client
  url : Url
  provider : String
  /-- Notes facts about the whole reply on its message. -/
  decorate : Reply → Message → Message

namespace Endpoint

/-- The endpoint under a base address. -/
def under (base provider : String) (client : Chat.Client) (decorate : Reply → Message → Message) :
    Result Endpoint := do
  return { client, url := ← Url.join base "chat/completions", provider, decorate }

/-- Asks for a whole reply; also gives its headers. -/
def generate (e : Endpoint) (request : Request) (headers : List (String × String)) :
    Action (Message × Headers) := do
  let answer ← e.client.postJson Reply.decode e.url request.toJson headers
  let message ← Action.lift (responseMessage e.provider answer.body)
  return (e.decorate answer.body message, answer.headers)

/-- The decorated message of a chunk. -/
def chunk (e : Endpoint) (chunk : Reply) : Result (Option Message) :=
  (chunkMessage e.provider chunk).map fun m => m.map (e.decorate chunk)

/-- Asks for a streamed reply. -/
def stream (e : Endpoint) (request : Request) (headers : List (String × String)) :
    Action (List (Result Message)) := do
  let request := { request with streamed := true }
  let events ← e.client.postStream e.url request.toJson headers
  return Chat.messagesOf e.chunk (Chat.decodeEvents Reply.decode events)

end Endpoint

end ChatRetrieval.Completions
