import ChatRetrieval.Proofs.Ark.Responses.Continuation
import Mathlib.Data.List.Infix

/-!
Conversations that the session cache carries on. The service knows under the id of each reply the
conversation up to that reply, so a call that goes on behind a live reply sends the rest exactly.
-/

namespace ChatRetrieval.Ark.Responses

/-- A conversation on both sides. -/
structure Conversation where
  history : List Message
  /-- The messages that the service knows under a response id. -/
  stored : String → Option (List Message)

/-- What the service knows in front of a request that goes on from this response. -/
def Conversation.context (conv : Conversation) : Option String → Option (List Message)
  | none => some []
  | some id => conv.stored id

/-- The service keeps what it knows and may learn more, from a reply that got lost, say. -/
def Keeps (stored stored' : String → Option (List Message)) : Prop :=
  ∀ id messages, stored id = some messages → stored' id = some messages

/-- Conversations that calls lead to. Each turn puts new messages, which carry no response id, behind
the history, and a reply with a fresh id behind them if there is one; under that id the service then
knows what it was shown for the call and the reply. -/
inductive Reachable : Conversation → Prop where
  | start (stored : String → Option (List Message)) : Reachable ⟨[], stored⟩
  | replied {conv : Conversation} {call : Call} {new remaining : List Message} {request : Request}
    {reply : Message} {id : String} {stored : String → Option (List Message)}
    (hconv : Reachable conv) (hcall : call.FollowsSession)
    (hnew : ∀ m ∈ new, Extra.responseId? m = none)
    (hsends : call.Sends (conv.history ++ new) remaining request)
    (hrun : (call.run (conv.history ++ new)).1 = .ok reply)
    (hid : Extra.responseId? reply = some id) (hfresh : conv.stored id = none)
    (hkeeps : Keeps conv.stored stored)
    (hstored : stored id =
      some ((conv.context request.previousResponseId).getD [] ++ remaining ++ [reply])) :
    Reachable ⟨conv.history ++ new ++ [reply], stored⟩
  | failed {conv : Conversation} {call : Call} {new : List Message} {f : Failure}
    {stored : String → Option (List Message)}
    (hconv : Reachable conv) (hcall : call.FollowsSession)
    (hnew : ∀ m ∈ new, Extra.responseId? m = none)
    (hrun : (call.run (conv.history ++ new)).1 = .error f) (hkeeps : Keeps conv.stored stored) :
    Reachable ⟨conv.history ++ new, stored⟩

/-- A call on a conversation sends nothing, or every request it makes goes on where the service
stands: what the service knows there and what is sent are the whole input. -/
inductive Conversation.Continues (conv : Conversation) (call : Call) (input : List Message) : Prop where
  | unsent (f : Failure) (hrun : call.run input = (.error f, call.session))
  | sent {remaining context : List Message} {request : Request} {url : String} {headers : Headers}
    {n : Nat} (hsends : call.Sends input remaining request)
    (hsession : (call.run input).2 =
      call.session.asked ⟨.post, url, headers, .json request.toJson⟩ (n + 1))
    (hcontext : conv.context request.previousResponseId = some context)
    (hwhole : context ++ remaining = input)
    (hreply : ∀ reply, (call.run input).1 = .ok reply → ∃ answer,
      Chat.posted Reply.decode url (call.session.replyTo n) = .ok answer ∧
      Extra.responseId? reply = some answer.body.id)

/-- Under the id of a reply the service knows the history up to the reply. -/
def Remembers (stored : String → Option (List Message)) (history : List Message) : Prop :=
  ∀ earlier reply id, earlier ++ [reply] <+: history → Extra.responseId? reply = some id →
    stored id = some (earlier ++ [reply])

namespace Remembers

variable {stored stored' : String → Option (List Message)} {history : List Message}

theorem keeps (h : Remembers stored history) (hkeeps : Keeps stored stored') :
    Remembers stored' history :=
  fun earlier reply id hprefix hid => hkeeps id _ (h earlier reply id hprefix hid)

theorem append_one (h : Remembers stored history) {m : Message}
    (hm : ∀ id, Extra.responseId? m = some id → stored id = some (history ++ [m])) :
    Remembers stored (history ++ [m]) := by
  intro earlier reply id hprefix hid
  rcases List.prefix_concat_iff.1 hprefix with heq | hprefix
  · rw [heq]
    obtain ⟨-, hlast⟩ := List.append_inj' heq rfl
    obtain rfl := List.singleton_inj.1 hlast
    exact hm id hid
  · exact h earlier reply id hprefix hid

theorem append_new (h : Remembers stored history) {new : List Message}
    (hnew : ∀ m ∈ new, Extra.responseId? m = none) : Remembers stored (history ++ new) := by
  induction new generalizing history with
  | nil => rwa [List.append_nil]
  | cons m new ih =>
    have hm : Extra.responseId? m = none := hnew m (List.mem_cons_self ..)
    rw [List.append_cons]
    refine ih (h.append_one fun id hid => ?_) fun m' hm' => hnew m' (List.mem_cons_of_mem _ hm')
    rw [hm] at hid
    cases hid

end Remembers

theorem Call.Sends.complete {call : Call} {input remaining : List Message} {request : Request}
    (h : call.Sends input remaining request) (hcall : call.FollowsSession) {conv : Conversation}
    (hremembers : Remembers conv.stored input) :
    ∃ context, conv.context request.previousResponseId = some context ∧
      context ++ remaining = input := by
  obtain ⟨base, cached, -, hcached, hprevious⟩ := h.cache
  unfold populateCache at hcached
  dsimp only at hcached
  obtain ⟨c, hc, hcached⟩ := Result.map_eq_ok hcached
  obtain ⟨hremaining, hrequest⟩ := Prod.mk.inj hcached
  have hlast : request.previousResponseId = c.previous := by rw [hprevious, ← hrequest]
  rw [hlast, ← hremaining]
  unfold continuation at hc
  simp only [hcall.enabled, hcall.noContext, hcall.noHead] at hc
  split at hc
  · cases hc
  · next id rest _ hlive =>
    obtain rfl := Except.ok.inj hc
    obtain ⟨earlier, reply, hsplit, hlive, -⟩ := newestLive?_eq_some_iff.1 hlive
    rw [List.append_cons] at hsplit
    -- The service stands right behind the message of the live id.
    refine ⟨earlier ++ [reply], ?_, hsplit.symm⟩
    exact hremembers earlier reply id ⟨rest, hsplit.symm⟩ hlive.response
  · obtain rfl := Except.ok.inj hc
    exact ⟨[], rfl, rfl⟩

theorem Reachable.remembers {conv : Conversation} (h : Reachable conv) :
    Remembers conv.stored conv.history := by
  induction h with
  | start stored =>
    intro earlier reply id hprefix
    cases List.append_eq_nil_iff.1 (List.prefix_nil.1 hprefix) |>.2
  | replied hconv hcall hnew hsends hrun hid hfresh hkeeps hstored ih =>
    have hbefore := ih.append_new hnew
    obtain ⟨context, hcontext, hwhole⟩ := hsends.complete hcall hbefore
    -- Only the reply is new under an id, and what was sent for it completes the history.
    refine (hbefore.keeps hkeeps).append_one fun id' hid' => ?_
    obtain rfl := Option.some.inj (hid.symm.trans hid')
    rw [hstored, hcontext, Option.getD_some, hwhole]
  | failed hconv hcall hnew hrun hkeeps ih => exact (ih.append_new hnew).keeps hkeeps

/-- A service that notes each reply behind what it was shown carries on any conversation. -/
theorem Reachable.reply {conv : Conversation} (hconv : Reachable conv) {call : Call}
    (hcall : call.FollowsSession) {new : List Message}
    (hnew : ∀ m ∈ new, Extra.responseId? m = none) {reply : Message} {id : String}
    (hrun : (call.run (conv.history ++ new)).1 = .ok reply)
    (hid : Extra.responseId? reply = some id) (hfresh : conv.stored id = none) :
    Reachable ⟨conv.history ++ new ++ [reply], fun key =>
      if key = id then some (conv.history ++ new ++ [reply]) else conv.stored key⟩ := by
  rcases call.run_eq (conv.history ++ new) with ⟨f, hf⟩ | ⟨request, _, _, _, hrequest, _⟩
  · rw [hf] at hrun
    cases hrun
  · obtain ⟨remaining, hsends⟩ := Call.sends_of_request hrequest
    obtain ⟨context, hcontext, hwhole⟩ :=
      hsends.complete hcall (hconv.remembers.append_new hnew)
    refine .replied hconv hcall hnew hsends hrun hid hfresh ?_ ?_
    · intro key messages hkey
      have hne : key ≠ id := by
        rintro rfl
        rw [hfresh] at hkey
        cases hkey
      exact (if_neg hne).trans hkey
    · rw [hcontext, Option.getD_some, hwhole]
      exact if_pos rfl

/-- Wherever a conversation stands, the next call sends nothing or exactly what the service does not
know of the history: nothing is lost, repeated or out of order. -/
theorem generate_continues {conv : Conversation} (hconv : Reachable conv) {call : Call}
    (hcall : call.FollowsSession) {new : List Message}
    (hnew : ∀ m ∈ new, Extra.responseId? m = none) :
    conv.Continues call (conv.history ++ new) := by
  rcases call.run_eq (conv.history ++ new) with ⟨f, hf⟩ | ⟨request, url, headers, n, hrequest, hrun⟩
  · exact .unsent f hf
  · obtain ⟨remaining, hsends⟩ := Call.sends_of_request hrequest
    obtain ⟨context, hcontext, hwhole⟩ :=
      hsends.complete hcall (hconv.remembers.append_new hnew)
    exact .sent hsends hrun.1 hcontext hwhole hrun.2

def sampleCall (now : Int64) : Call where
  config := {
    apiKey := "k", baseUrl := "http://h", region := "", model := "m", maxOutputTokens := none
    temperature := none, topP := none, responseFormat := none, thinking := none, serviceTier := none
    reasoningEffort := none, sessionCache := some ⟨true, 600⟩, webSearch := none, maxToolCalls := none
    customHeaders := .empty, http := .default, retry := .disabled }
  binding := .none
  options := .none
  session := ⟨[.answered ⟨200, .empty, .ok "\x7b\"id\":\"r1\",\"status\":\"incomplete\"\x7d"⟩ []],
    [], [], now, 0⟩

def sampleReply : Message := { Message.blank .assistant with
  responseMeta := some ⟨none, some .zero, none⟩
  extra := .ofList [(Extra.expireAtKey, .int 1600), (Extra.contextIdKey, .str "r1"),
    (Extra.responseIdKey, .str "r1")] }

theorem generate_continues_second_turn :
    ∃ conv : Conversation, conv.history = [.user "hi", sampleReply] ∧ Reachable conv ∧
      (sampleCall 1500).FollowsSession ∧
      (∀ m ∈ [Message.user "go"], Extra.responseId? m = none) ∧
      conv.Continues (sampleCall 1500) (conv.history ++ [.user "go"]) := by
  have hfollows : ∀ now, (sampleCall now).FollowsSession := fun now => ⟨rfl, rfl, rfl⟩
  have hquestion : ∀ text, ∀ m ∈ [Message.user text], Extra.responseId? m = none := by
    intro text m hm
    rw [List.mem_singleton.1 hm]
    rfl
  have hrun : ((sampleCall 1000).run [.user "hi"]).1 = .ok sampleReply :=
    Result.eq_ok_of_toOption (by decide +kernel)
  have hid : Extra.responseId? sampleReply = some "r1" := by decide
  have hfirst := (Reachable.start fun _ => none).reply (hfollows 1000) (hquestion "hi") hrun hid rfl
  exact ⟨_, rfl, hfirst, hfollows 1500, hquestion "go",
    generate_continues hfirst (hfollows 1500) (hquestion "go")⟩

end ChatRetrieval.Ark.Responses
