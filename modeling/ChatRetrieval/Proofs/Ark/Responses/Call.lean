import ChatRetrieval.Proofs.Ark.Responses.Output
import ChatRetrieval.Proofs.Chat.Client
import ChatRetrieval.Proofs.Result

/-!
One call of the Responses model: what its request is made of, what is asked of the service, and that
the message it returns carries the id of the reply it was answered with.
-/

namespace ChatRetrieval.Ark.Responses

/-- One call of the model with what it meets outside: the clock and the replies to come. -/
structure Call where
  config : Config
  binding : Binding
  options : ChatOptions
  session : Session

namespace Call

def cacheOption (call : Call) : Option CacheOption := call.options.ark.bind (·.cache)

def run (call : Call) (input : List Message) : Result Message × Session :=
  generate call.config call.binding input call.options call.session

/-- The session cache is on, and neither a context nor a response to go on from is given. -/
structure FollowsSession (call : Call) : Prop where
  enabled : (effectiveCache call.config.sessionCache call.cacheOption).enabled = true
  noContext : call.cacheOption.bind (·.contextId) = none
  noHead : call.cacheOption.bind (·.headResponseId) = none

/-- The call sends `request`, whose input is made of the messages `remaining`. -/
structure Sends (call : Call) (input remaining : List Message) (request : Request) : Prop where
  cache : ∃ base cached, call.config.baseRequest call.options = .ok base ∧
    populateCache input base call.config.sessionCache call.cacheOption call.session.unixTime =
      .ok (remaining, cached) ∧
    request.previousResponseId = cached.previousResponseId
  items : inputItems remaining = .ok request.input
  request : call.config.request call.binding input call.options call.session.unixTime = .ok request

end Call

theorem responseId?_foldl_addItem (items : List OutputItem) (m : Message) :
    Extra.responseId? (items.foldl addItem m) = Extra.responseId? m := by
  rw [foldl_addItem]
  rfl

theorem responseId?_noteReply (reply : Reply) (cache : CacheState) (m : Message) :
    Extra.responseId? (noteReply reply cache m) = some reply.id := by
  have hset : ∀ m, Extra.responseId? (Extra.setText m Extra.responseIdKey reply.id) =
      some reply.id := by
    intro m
    unfold Extra.responseId? Extra.text? Extra.setText Message.setExtra
    rw [Dict.get?_insert_self]
    rfl
  unfold noteReply
  dsimp only
  split
  · next tier _ =>
    unfold Extra.responseId? Extra.text? Extra.setText Message.setExtra
    rw [Dict.get?_insert_of_ne _ _ (by decide)]
    exact hset _
  · exact hset _

theorem responseId?_outputMessage {reply : Reply} {cache : CacheState} {m : Message}
    (h : outputMessage reply cache = .ok m) : Extra.responseId? m = some reply.id := by
  have hstatus : Extra.responseId? (statusMessage reply (finishReason reply) cache) =
      some reply.id := responseId?_noteReply reply cache _
  unfold outputMessage at h
  dsimp only at h
  split at h
  · rw [← Except.ok.inj h, hstatus]
  · split at h
    · cases h
    · rw [← Except.ok.inj h, responseId?_foldl_addItem, hstatus]

theorem populateTools_ok {request request' : Request} {binding : Binding} {options : ChatOptions}
    {search : Option WebSearch} {maxToolCalls : Option Int}
    (h : populateTools request binding options search maxToolCalls = .ok request') :
    request'.input = request.input ∧ request'.previousResponseId = request.previousResponseId := by
  unfold populateTools at h
  split at h
  · obtain rfl := Except.ok.inj h
    exact ⟨rfl, rfl⟩
  · obtain ⟨choice, _, h⟩ := Result.bind_eq_ok h
    obtain rfl := Except.ok.inj h
    exact ⟨rfl, rfl⟩

theorem Call.sends_of_request {call : Call} {input : List Message} {request : Request}
    (h : call.config.request call.binding input call.options call.session.unixTime = .ok request) :
    ∃ remaining, call.Sends input remaining request := by
  have hrequest := h
  unfold Config.request at h
  obtain ⟨base, hbase, h⟩ := Result.bind_eq_ok h
  obtain ⟨⟨remaining, cached⟩, hcached, h⟩ := Result.bind_eq_ok h
  obtain ⟨items, hitems, h⟩ := Result.bind_eq_ok h
  obtain ⟨hinput, hprevious⟩ := populateTools_ok h
  exact ⟨remaining, ⟨base, cached, hbase, hcached, hprevious⟩, by rw [hitems, hinput], hrequest⟩

/-- A call fails with nothing asked of the service, or it makes one request as often as it is
attempted; a message it returns carries the id of the reply to the last attempt. -/
theorem Call.run_eq (call : Call) (input : List Message) :
    (∃ f, call.run input = (.error f, call.session)) ∨
    ∃ request url headers n,
      call.config.request call.binding input call.options call.session.unixTime = .ok request ∧
      (call.run input).2 =
        call.session.asked ⟨.post, url, headers, .json request.toJson⟩ (n + 1) ∧
      ∀ reply, (call.run input).1 = .ok reply → ∃ answer,
        Chat.posted Reply.decode url (call.session.replyTo n) = .ok answer ∧
        Extra.responseId? reply = some answer.body.id := by
  have hnow : Action.unixTime call.session = (.ok call.session.unixTime, call.session) := rfl
  unfold Call.run generate
  rw [Action.bind_of_ok hnow]
  cases call.config.request call.binding input call.options call.session.unixTime with
  | error f => exact .inl ⟨f, rfl⟩
  | ok request =>
    rw [Action.lift_ok_bind]
    cases call.config.url with
    | error f => exact .inl ⟨f, rfl⟩
    | ok url =>
      rw [Action.lift_ok_bind]
      have hpost := Chat.postJson_run call.config.client Reply.decode url request.toJson
        (call.config.headers call.options) call.session
      cases hheaders : call.config.client.requestHeaders (call.config.headers call.options) with
      | error f =>
        rw [hheaders] at hpost
        exact .inl ⟨f, Action.bind_of_error hpost _⟩
      | ok headers =>
        rw [hheaders] at hpost
        obtain ⟨n, -, -, -, hpost⟩ := hpost
        refine .inr ⟨request, url.text, headers, n, rfl, ?_⟩
        cases hposted : Chat.posted Reply.decode url.text (call.session.replyTo n) with
        | error f =>
          rw [hposted] at hpost
          rw [Action.bind_of_error hpost]
          refine ⟨rfl, fun reply hreply => ?_⟩
          cases hreply
        | ok answer =>
          rw [hposted] at hpost
          rw [Action.bind_of_ok hpost]
          exact ⟨rfl, fun reply hreply => ⟨answer, rfl, responseId?_outputMessage hreply⟩⟩

end ChatRetrieval.Ark.Responses
