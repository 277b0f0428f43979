import ChatRetrieval.Ark.Extra
import ChatRetrieval.Ark.Responses.Wire
import ChatRetrieval.Chat.Options

/-!
What a request to the Responses service says: where in a stored conversation it goes on, the messages
that are left to send, and the tools.
-/

namespace ChatRetrieval.Ark.Responses

/-- The response id of a message whose stored reply has not expired. -/
def liveResponseId? (now : Int64) (m : Message) : Option String :=
  match Extra.expireAt? m with
  | some second => if second < now then none else Extra.responseId? m
  | none => none

/-- The newest live response id of a conversation and the messages behind its message. -/
def newestLive? (now : Int64) : List Message → Option (String × List Message)
  | [] => none
  | m :: rest =>
    match newestLive? now rest with
    | some found => some found
    | none => (liveResponseId? now m).map fun id => (id, rest)

/-- How the session cache applies to one call. -/
structure CacheChoice where
  enabled : Bool
  ttl : Option Int64

/-- The setting of the call, or else the configured one. -/
def effectiveCache (configured : Option SessionCache) (option : Option CacheOption) : CacheChoice :=
  match (option.bind (·.sessionCache)).or configured with
  | some c => ⟨c.enabled, some c.ttl⟩
  | none => ⟨false, none⟩

/-- The messages still to be sent and the response that they go on from. -/
structure Continuation where
  remaining : List Message
  previous : Option String

/-- Where the conversation goes on. With the session cache on and no context given this is behind the
newest live reply, behind which there must be a message; otherwise everything is sent, continuing the
given context or response. -/
def continuation (input : List Message) (cache : CacheChoice) (option : Option CacheOption)
    (now : Int64) : Result Continuation :=
  let context := option.bind (·.contextId)
  let given := context.or (option.bind (·.headResponseId))
  match if cache.enabled ∧ context.isNone then newestLive? now input else none with
  | some (_, []) => Result.fail "not found incremental input after ResponseID"
  | some (id, rest) => .ok ⟨rest, some id⟩
  | none => .ok ⟨input, given⟩

/-- Notes continuation and caching in a request; gives the messages left to send. -/
def populateCache (input : List Message) (request : Request) (configured : Option SessionCache)
    (option : Option CacheOption) (now : Int64) : Result (List Message × Request) :=
  let cache := effectiveCache configured option
  (continuation input cache option now).map fun c => (c.remaining, { request with
    previousResponseId := c.previous
    store := some cache.enabled
    expireAt := cache.ttl.map (now + ·)
    caching := some cache.enabled
    reusable := false })

/-- A part as it is sent; inline files go by their data. -/
def contentItem (m : Message) : ContentPart → Result ContentItem
  | .text t => .ok (.text t)
  | .image url detail _ => .ok (.image url (detail.map (·.name)))
  | .video url _ => .ok (.video url (Extra.videoFps? m url))
  | .file url _ =>
    .ok (if Text.startsWith "data:" url then .file none (some url) else .file (some url) none)
  | .audio _ _ => Result.fail "unsupported content type in UserInputMultiContent: audio_url"

/-- The content of a user or system message, which must not be empty. -/
def userContent (role : String) (m : Message) : Result (List ContentItem) :=
  if !m.assistantParts.isEmpty then
    Result.fail ("if " ++ role ++ " role, AssistantGenMultiContent cannot be set")
  else if !m.userParts.isEmpty then m.userParts.mapM (contentItem m)
  else if !m.content.isEmpty then .ok [.text m.content]
  else Result.fail (role ++ " role message content is empty")

def generatedItem (part : ContentPart) : Result ContentItem :=
  match part.asText? with
  | some t => .ok (.text t)
  | none => Result.fail "unsupported content type in AssistantGenMultiContent"

/-- The content of an assistant message, which holds texts only. -/
def assistantContent (m : Message) : Result (List ContentItem) :=
  if !m.userParts.isEmpty then
    Result.fail "if assistant role, UserInputMultiContent cannot be set"
  else if !m.assistantParts.isEmpty then m.assistantParts.mapM generatedItem
  else if !m.content.isEmpty then .ok [.text m.content]
  else .ok []

/-- The items of one message. -/
def messageItems (m : Message) : Result (List InputItem) :=
  match m.role with
  | .user => (userContent "user" m).map fun c => [.message .user c]
  | .system => (userContent "system" m).map fun c => [.message .system c]
  | .assistant => (assistantContent m).map fun c =>
      (if c.isEmpty then [] else [.message .assistant c]) ++
        m.toolCalls.map fun call => .call call.id call.name call.arguments
  | .tool =>
    if m.userParts.isEmpty then .ok [.callOutput (m.toolCallId.getD "") m.content]
    else Result.fail "ark response api doesn't support multi modal tool result"

def inputItems (input : List Message) : Result (List InputItem) :=
  (input.mapM messageItems).map List.flatten

def functionTools (tools : List ToolInfo) : List Tool :=
  tools.map fun t => .function t.name t.description t.schema

/-- Sets the tools, the choice among them, web search and the limit of tool calls. A request that goes
on from a stored response keeps the tools of that response. -/
def populateTools (request : Request) (binding : Binding) (options : ChatOptions)
    (search : Option WebSearch) (maxToolCalls : Option Int) : Result Request :=
  if request.previousResponseId.isSome then .ok request
  else do
    let tools := options.tools.getD binding.tools
    let choice ← ToolChoice.resolve (options.toolChoice.or binding.choice) options.allowedToolNames
      (tools.map (·.name))
    return { request with
      toolChoice := choice
      tools := functionTools tools ++ (search.map Tool.search).toList
      maxToolCalls := maxToolCalls.or request.maxToolCalls }

end ChatRetrieval.Ark.Responses
