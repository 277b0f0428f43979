import ChatRetrieval.Chat.Model
import ChatRetrieval.Proofs.Chat.Stream
import ChatRetrieval.Proofs.Completions.Attempts
import ChatRetrieval.Proofs.Completions.Streaming
import Mathlib.Data.List.Forall2

/-!
From events to messages. Every event of a streamed completion adds its own items and no event changes
what another one adds. The mark `[DONE]` adds nothing, like a blank event, and cuts nothing off.
-/

namespace ChatRetrieval

namespace Completions.Endpoint

/-- What an event, or a failure in its place, adds to the messages of a stream. -/
inductive Adds (e : Endpoint) : Result String → List (Result Message) → Prop where
  | failure (f : Failure) : Adds e (.error f) [.error f]
  | blank {data : String} (h : Text.trim data = "") : Adds e (.ok data) []
  | mark {data : String} (h : Text.trim data = "[DONE]") : Adds e (.ok data) []
  | malformed {data : String} (hdata : Chat.isMark data = false)
      (h : Decode.fromText Reply.decode data = none) :
      Adds e (.ok data)
        [.error (Cause.json.failure.within ("Failed to parse stream event: " ++ data))]
  | refused {data : String} {chunk : Reply} {error : ApiError} (hdata : Chat.isMark data = false)
      (h : Decode.fromText Reply.decode data = some chunk) (herror : chunk.error = some error) :
      Adds e (.ok data) [.error (apiFailure e.provider error)]
  | idle {data : String} {chunk : Reply} (hdata : Chat.isMark data = false)
      (h : Decode.fromText Reply.decode data = some chunk) (herror : chunk.error = none)
      (hresolves : chunk.resolves = false) : Adds e (.ok data) []
  | message {data : String} {chunk : Reply} (hdata : Chat.isMark data = false)
      (h : Decode.fromText Reply.decode data = some chunk) (herror : chunk.error = none)
      (hresolves : chunk.resolves = true) :
      Adds e (.ok data) [.ok (e.decorate chunk (piece chunk))]

variable (e : Endpoint)

def itemsOf (events : List (Result String)) : List (Result Message) :=
  Chat.messagesOf e.chunk (Chat.decodeEvents Reply.decode events)

variable {e}

theorem itemsOf_cons (event : Result String) (events : List (Result String)) :
    e.itemsOf (event :: events) = e.itemsOf [event] ++ e.itemsOf events := by
  unfold itemsOf Chat.decodeEvents
  cases hdecoded : Chat.decodeEvent Reply.decode event with
  | none => rw [List.filterMap_cons_none hdecoded, List.filterMap_cons_none hdecoded]; rfl
  | some r =>
    rw [List.filterMap_cons_some hdecoded, List.filterMap_cons_some hdecoded, List.filterMap_nil]
    cases r with
    | error f => rfl
    | ok chunk =>
      simp only [Chat.messagesOf]
      cases e.chunk chunk with
      | error f => rfl
      | ok m => cases m <;> rfl

theorem isMark_iff {data : String} :
    Chat.isMark data = true ↔ Text.trim data = "[DONE]" ∨ Text.trim data = "" := by
  simp [Chat.isMark]

theorem itemsOf_of_isMark {data : String} (h : Chat.isMark data = true) :
    e.itemsOf [.ok data] = [] := by
  simp only [itemsOf, Chat.decodeEvents, List.filterMap_cons, Chat.decodeEvent, h, if_true,
    List.filterMap_nil, Chat.messagesOf]

theorem itemsOf_of_fromText {data : String} {r : Option Reply} (hdata : Chat.isMark data = false)
    (h : Decode.fromText Reply.decode data = r) :
    e.itemsOf [.ok data] = Chat.messagesOf e.chunk
      [Result.within ("Failed to parse stream event: " ++ data) (Result.ofOption .json r)] := by
  simp only [itemsOf, Chat.decodeEvents, List.filterMap_cons, Chat.decodeEvent, hdata,
    Bool.false_eq_true, if_false, h, List.filterMap_nil]

theorem adds_itemsOf (event : Result String) : e.Adds event (e.itemsOf [event]) := by
  cases event with
  | error f => exact .failure f
  | ok data =>
    cases hdata : Chat.isMark data with
    | true =>
      rw [itemsOf_of_isMark hdata]
      exact (isMark_iff.1 hdata).elim .mark .blank
    | false =>
      cases hread : Decode.fromText Reply.decode data with
      | none =>
        rw [itemsOf_of_fromText hdata hread]
        exact .malformed hdata hread
      | some chunk =>
        rw [itemsOf_of_fromText hdata hread]
        cases herror : chunk.error with
        | some error =>
          have hchunk : e.chunk chunk = .error (apiFailure e.provider error) := by
            rw [Endpoint.chunk, chunkMessage, herror]
            rfl
          simp only [Result.ofOption, Result.within, Chat.messagesOf, hchunk]
          exact .refused hdata hread herror
        | none =>
          have hchunk : e.chunk chunk =
              .ok (if chunk.resolves then some (e.decorate chunk (piece chunk)) else none) := by
            rw [Endpoint.chunk, chunkMessage_eq e.provider herror]
            cases chunk.resolves <;> rfl
          simp only [Result.ofOption, Result.within, Chat.messagesOf, hchunk]
          cases hresolves : chunk.resolves with
          | true => exact .message hdata hread herror hresolves
          | false => exact .idle hdata hread herror hresolves

/-- The items of a stream are what its events add, one after the other. -/
def Streams (e : Endpoint) (events : List (Result String)) (items : List (Result Message)) : Prop :=
  ∃ added, List.Forall₂ e.Adds events added ∧ items = added.flatten

theorem streams_itemsOf (events : List (Result String)) : e.Streams events (e.itemsOf events) := by
  induction events with
  | nil => exact ⟨[], .nil, rfl⟩
  | cons event events ih =>
    obtain ⟨added, hadded, hitems⟩ := ih
    refine ⟨e.itemsOf [event] :: added, .cons (adds_itemsOf event) hadded, ?_⟩
    rw [itemsOf_cons, hitems, List.flatten_cons]

theorem itemsOf_append (front back : List (Result String)) :
    e.itemsOf (front ++ back) = e.itemsOf front ++ e.itemsOf back := by
  induction front with
  | nil => rfl
  | cons event front ih =>
    rw [List.cons_append, itemsOf_cons, ih, itemsOf_cons event front, List.append_assoc]

theorem itemsOf_eq_nil {events : List (Result String)}
    (h : ∀ event ∈ events, ∃ data, event = .ok data ∧ Chat.isMark data = true) :
    e.itemsOf events = [] := by
  induction events with
  | nil => rfl
  | cons event events ih =>
    obtain ⟨data, rfl, hdata⟩ := h event (List.mem_cons_self ..)
    rw [itemsOf_cons, itemsOf_of_isMark hdata,
      ih fun other hother => h other (List.mem_cons_of_mem _ hother), List.append_nil]

theorem stream_of_headers {headers : List (String × String)} {sent : Headers}
    (h : e.client.requestHeaders headers = .ok sent) (request : Request) (s : Session) :
    ∃ n opened,
      Chat.StreamRun e.client.retry (Http.contextText none "POST" e.url.text) s n opened ∧
      e.stream request headers s = (opened.map e.itemsOf,
        s.asked ⟨.stream, e.url.text, sent, .json { request with streamed := true }.toJson⟩
          (n + 1)) := by
  obtain ⟨n, opened, hrun, hopened⟩ := Chat.retrying_openOnce_run e.client.retry
    ⟨.stream, e.url.text, sent, .json { request with streamed := true }.toJson⟩ s
  rw [← Chat.Client.postStream_of_headers h] at hrun
  exact ⟨n, opened, hopened, Action.bind_pure_run hrun e.itemsOf⟩

end Completions.Endpoint

namespace Chat

/-- What a model asks an endpoint for. -/
structure Completion where
  endpoint : Result Completions.Endpoint
  request : Result Completions.Request
  /-- Headers behind those of the client. -/
  headers : List (String × String)

/-- How a model of chat completions answers a conversation. -/
def Model.completion? (m : Model) (input : List Message) (options : ChatOptions) :
    Option Completion :=
  match m.settings with
  | .deepSeek c => some ⟨c.endpoint, c.request m.binding input options, []⟩
  | .qwen c => some ⟨c.endpoint, c.request m.binding input options, []⟩
  | .qianfan c => some ⟨c.endpoint, c.request m.binding input options, []⟩
  | .ark c => some ⟨c.endpoint, c.request m.binding input options, c.headers options⟩
  | .arkResponses _ | .claude _ | .gemini _ => none

theorem Model.stream_of_completion {m : Model} {input : List Message} {options : ChatOptions}
    {call : Completion} (h : m.completion? input options = some call) :
    m.stream input options = completeStreamed call.endpoint call.request call.headers := by
  obtain ⟨settings, binding⟩ := m
  cases settings with
  | deepSeek c =>
    obtain rfl := Option.some.inj h
    rfl
  | qwen c =>
    obtain rfl := Option.some.inj h
    rfl
  | qianfan c =>
    obtain rfl := Option.some.inj h
    rfl
  | ark c =>
    obtain rfl := Option.some.inj h
    rfl
  | arkResponses _ | claude _ | gemini _ => cases h

/-- The stream of a completion: the events that its opening delivers, and nothing else, decide the
items. The mark `[DONE]` does not end it, so what stands behind the mark counts too, unless that is
marks and blank events only. -/
theorem Model.stream_items {m : Model} {input : List Message} {options : ChatOptions}
    {call : Completion} {e : Completions.Endpoint} {request : Completions.Request} {sent : Headers}
    (hcall : m.completion? input options = some call) (hendpoint : call.endpoint = .ok e)
    (hrequest : call.request = .ok request)
    (hsent : e.client.requestHeaders call.headers = .ok sent) (s : Session) :
    ∃ n opened, StreamRun e.client.retry (Http.contextText none "POST" e.url.text) s n opened ∧
      (m.stream input options s).2 =
        s.asked ⟨.stream, e.url.text, sent, .json { request with streamed := true }.toJson⟩ (n + 1) ∧
      (∀ f, opened = .error f → (m.stream input options s).1 = .error f) ∧
      ∀ events, opened = .ok events → ∃ items, (m.stream input options s).1 = .ok items ∧
        e.Streams events items ∧
        ∀ front mark back, events = front ++ .ok mark :: back → Text.trim mark = "[DONE]" →
          (∀ event ∈ back, ∃ data, event = .ok data ∧
            (Text.trim data = "[DONE]" ∨ Text.trim data = "")) → e.Streams front items := by
  obtain ⟨n, opened, hopened, hrun⟩ := e.stream_of_headers hsent request s
  have hstream : m.stream input options s = e.stream request call.headers s := by
    rw [Model.stream_of_completion hcall, hendpoint, hrequest]
    rfl
  rw [hstream, hrun]
  -- The items are a function of the events alone, and one that distributes over appending, so marks
  -- at the end can be left out.
  refine ⟨n, opened, hopened, rfl, ?_, ?_⟩
  · rintro f rfl
    rfl
  · rintro events rfl
    refine ⟨e.itemsOf events, rfl, Completions.Endpoint.streams_itemsOf events, ?_⟩
    rintro front mark back rfl hmark hback
    have hmarks : ∀ event ∈ .ok mark :: back, ∃ data, event = .ok data ∧ isMark data = true := by
      intro event hevent
      obtain rfl | hevent := List.mem_cons.1 hevent
      · exact ⟨mark, rfl, Completions.Endpoint.isMark_iff.2 (.inl hmark)⟩
      · obtain ⟨data, hdata, hblank⟩ := hback event hevent
        exact ⟨data, hdata, Completions.Endpoint.isMark_iff.2 hblank⟩
    rw [Completions.Endpoint.itemsOf_append, Completions.Endpoint.itemsOf_eq_nil hmarks,
      List.append_nil]
    exact Completions.Endpoint.streams_itemsOf front

def plainConfig : DeepSeek.Config :=
  ⟨⟨"key", "http://h", "m", none, none, none, none, none, none, none, .default, .default⟩, false, none⟩

def plainModel : Model := ⟨.deepSeek plainConfig, .none⟩

def streaming (events : List String) : Session :=
  ⟨[.answered ⟨200, .empty, .ok ""⟩ (events.map .ok)], [], [], 0, 0⟩

def deltaEvent (text : String) : String :=
  "\x7b\"choices\":[\x7b\"delta\":\x7b\"content\":\"" ++ text ++ "\"\x7d\x7d]\x7d"

def plainStream (events : List String) : Option (List (Option Message)) :=
  (plainModel.stream [] .none (streaming events)).1.toOption.map fun items => items.map (·.toOption)

/-- The mark in the middle of a stream is dropped, and the chunk behind it adds its message too. -/
theorem Model.stream_passes_mark :
    Text.trim " [DONE]" = "[DONE]" ∧
    plainStream [deltaEvent "early"] =
      some [some { Message.blank .assistant with content := "early" }] ∧
    plainStream [deltaEvent "early", " [DONE]", deltaEvent "late"] =
      some [some { Message.blank .assistant with content := "early" },
        some { Message.blank .assistant with content := "late" }] := by
  decide +kernel

def mixedEvents : List String :=
  ["", deltaEvent "a", "\x7b\"error\":\x7b\"message\":\"busy\"\x7d\x7d", "?", "[DONE]", " "]

theorem Model.stream_items_of_mixedEvents :
    plainStream mixedEvents =
      some [some { Message.blank .assistant with content := "a" }, none, none] ∧
    ∃ call e request sent, plainModel.completion? [] .none = some call ∧ call.endpoint = .ok e ∧
      call.request = .ok request ∧ e.client.requestHeaders call.headers = .ok sent ∧
      ∃ n opened, StreamRun e.client.retry (Http.contextText none "POST" e.url.text)
          (streaming mixedEvents) n opened ∧
        ∀ events, opened = .ok events →
          ∃ items, (plainModel.stream [] .none (streaming mixedEvents)).1 = .ok items ∧
            e.Streams events items := by
  refine ⟨by decide +kernel, ?_⟩
  obtain ⟨request, hrequest⟩ : ∃ r, plainConfig.request .none [] .none = .ok r :=
    Result.exists_ok_of_isOk (by decide)
  obtain ⟨e, hendpoint⟩ : ∃ e, plainConfig.endpoint = .ok e := Result.exists_ok_of_isOk (by decide)
  obtain ⟨sent, hsent⟩ : ∃ sent, e.client.requestHeaders [] = .ok sent := by
    rw [Completions.Endpoint.client_of_under hendpoint]
    exact Result.exists_ok_of_isOk (by decide)
  have hcall : plainModel.completion? [] .none =
      some ⟨plainConfig.endpoint, plainConfig.request .none [] .none, []⟩ := rfl
  obtain ⟨n, opened, hopened, -, -, hitems⟩ :=
    Model.stream_items hcall hendpoint hrequest hsent (streaming mixedEvents)
  refine ⟨_, e, request, sent, hcall, hendpoint, hrequest, hsent, n, opened, hopened, ?_⟩
  intro events hevents
  obtain ⟨items, hrun, hstreams, -⟩ := hitems events hevents
  exact ⟨items, hrun, hstreams⟩

end Chat

end ChatRetrieval
