import ChatRetrieval.Proofs.Claude.Pieces
import ChatRetrieval.Proofs.Claude.Replay

/-!
The arguments of calls. A stream brings them in pieces, after the start of their call and between
anything else, and the pieces are put together by their indexes. A call without pieces is left without
arguments, where the whole reply writes those of an empty object.
-/

namespace ChatRetrieval.Claude

structure Opening where
  index : Nat
  id : String
  name : String

namespace Event

def opening? : Event → Option Opening
  | blockStart index (.toolUse id name _) => some ⟨index, id, name⟩
  | _ => none

def continues? : Event → Option Nat
  | blockDelta index (.inputJson _) => some index
  | _ => none

def inputAt (index : Nat) : Event → String
  | blockDelta i (.inputJson piece) => if i = index then piece else ""
  | _ => ""

end Event

def openings (events : List Event) : List Opening := events.filterMap (·.opening?)

/-- All that comes for an index. -/
def inputText (events : List Event) (index : Nat) : String :=
  String.join (events.map (·.inputAt index))

def Opening.call (events : List Event) (o : Opening) : ToolCall :=
  { ToolCall.function o.id o.name (inputText events o.index) with index := some o.index }

/-- No two calls start under one index, and inputs come for calls that have started. -/
structure InOrder (events : List Event) : Prop where
  indexes : ((openings events).map (·.index)).Nodup
  opened : ∀ n < events.length, ∀ index ∈ (events[n]?).bind (·.continues?),
    index ∈ (openings (events.take n)).map (·.index)

section

variable {events : List Event} {e : Event}

theorem openings_concat (events : List Event) (e : Event) :
    openings (events ++ [e]) = openings events ++ e.opening?.toList := by
  rw [openings, List.filterMap_append]
  cases h : e.opening? <;> simp [openings, h]

theorem inputText_concat (events : List Event) (e : Event) (index : Nat) :
    inputText (events ++ [e]) index = inputText events index ++ e.inputAt index := by
  simp [inputText]

theorem InOrder.of_concat (h : InOrder (events ++ [e])) : InOrder events where
  indexes := by
    have hnodup := h.indexes
    rw [openings_concat, List.map_append] at hnodup
    exact (List.nodup_append.1 hnodup).1
  opened := fun n hn index hindex => by
    have hopened := h.opened n (by rw [List.length_append]; omega) index
    rw [List.getElem?_append_left hn, List.take_append_of_le_length hn.le] at hopened
    exact hopened hindex

theorem InOrder.opened_concat (h : InOrder (events ++ [e])) {index : Nat}
    (he : e.continues? = some index) : index ∈ (openings events).map (·.index) := by
  have hopened := h.opened events.length (by simp) index
  rw [List.getElem?_concat_length, List.take_left] at hopened
  exact hopened he

theorem InOrder.inputText_eq_empty (h : InOrder events) {index : Nat}
    (hindex : index ∉ (openings events).map (·.index)) : inputText events index = "" := by
  induction events using List.reverseRecOn with
  | nil => rfl
  | append_singleton events e ih =>
    have hbefore : index ∉ (openings events).map (·.index) := by
      rw [openings_concat, List.map_append] at hindex
      exact fun hmem => hindex (List.mem_append_left _ hmem)
    have hnothing : e.inputAt index = "" := by
      unfold Event.inputAt
      split
      · rename_i i piece
        exact if_neg fun hi : i = index => hbefore (hi ▸ h.opened_concat rfl)
      · rfl
    rw [inputText_concat, ih h.of_concat hbefore, hnothing, String.append_empty]

theorem hasIndex_calls (index : Nat) : ToolCall.HasIndex ((openings events).map (·.call events)) index ↔
    index ∈ (openings events).map (·.index) := by
  simp [ToolCall.HasIndex, Opening.call]

theorem map_call_concat (hnothing : ∀ index, e.inputAt index = "") (calls : List Opening) :
    calls.map (·.call (events ++ [e])) = calls.map (·.call events) := by
  apply List.map_congr_left
  intro o _
  rw [Opening.call, inputText_concat, hnothing, String.append_empty, Opening.call]

theorem continueAt_calls (index : Nat) (piece : String) (calls : List Opening) :
    ToolCall.continueAt index (calls.map (·.call events)) ⟨some index, "", "", "", piece, Dict.empty⟩ =
      calls.map (·.call (events ++ [.blockDelta index (.inputJson piece)])) := by
  rw [ToolCall.continueAt, List.map_map]
  apply List.map_congr_left
  intro o _
  by_cases ho : o.index = index
  · simp [Opening.call, ho, ToolCall.continued, ToolCall.function, inputText_concat, Event.inputAt]
  · simp [Opening.call, ho, Ne.symm ho, inputText_concat, Event.inputAt]

theorem InOrder.merge_toolCalls (h : InOrder events) :
    ToolCall.merge (events.filterMap (·.toolCall?)) = (openings events).map (·.call events) := by
  induction events using List.reverseRecOn with
  | nil => rfl
  | append_singleton events e ih =>
    have hstep (pieces more : List ToolCall) : ToolCall.merge (pieces ++ more) =
        more.foldl ToolCall.mergeInto (ToolCall.merge pieces) := List.foldl_append
    rw [List.filterMap_append, hstep, ih h.of_concat, openings_concat, List.map_append]
    cases e with
    | blockStart index block =>
      rw [map_call_concat fun _ => rfl]
      cases block with
      | toolUse id name input =>
        have hnew : index ∉ (openings events).map (·.index) := by
          have hnodup := h.indexes
          rw [openings_concat, List.map_append] at hnodup
          exact fun hmem =>
            (List.nodup_append.1 hnodup).2.2 _ hmem index (List.mem_singleton_self _) rfl
        have hcall : ToolCall.mergeInto ((openings events).map (·.call events))
            { ToolCall.function id name "" with index := some index } = _ :=
          ToolCall.mergeInto_of_not_hasIndex rfl (mt (hasIndex_calls index).1 hnew)
        refine hcall.trans (congrArg _ ?_)
        simp [Event.opening?, Opening.call, inputText_concat, Event.inputAt,
          h.of_concat.inputText_eq_empty hnew]
      | _ => exact (List.append_nil _).symm
    | blockDelta index delta =>
      cases delta with
      | inputJson piece =>
        have hopened := h.opened_concat rfl
        have hcall : ToolCall.mergeInto ((openings events).map (·.call events))
            ⟨some index, "", "", "", piece, Dict.empty⟩ = _ :=
          ToolCall.mergeInto_of_hasIndex rfl ((hasIndex_calls index).2 hopened)
        exact hcall.trans ((continueAt_calls index piece _).trans (List.append_nil _).symm)
      | _ =>
        rw [map_call_concat fun _ => rfl]
        exact (List.append_nil _).symm
    | _ =>
      rw [map_call_concat fun _ => rfl]
      exact (List.append_nil _).symm

end

/-- The call was put together from a stream. Its arguments are a text of the input unless nothing came
for it. -/
structure ToolUse.Streamed (u : ToolUse) (c : ToolCall) : Prop extends u.Named c where
  parse_iff : Json.parse c.arguments = some u.input ↔ c.arguments ≠ ""
  empty : c.arguments = "" → u.input = .obj []

/-- The call was written for a whole reply. Its arguments are a text of the input, where that reads back,
and of an empty object if there is none. -/
structure ToolUse.Written (u : ToolUse) (c : ToolCall) : Prop extends u.Named c where
  null : u.input = .null → Json.parse c.arguments = some (.obj [])
  input : u.input ≠ .null → u.input.Rereads → Json.parse c.arguments = some u.input

/-- A call starts as this one, and what comes for it spells the input; for an input without members
nothing need come. -/
structure ToolUse.Brought (events : List Event) (u : ToolUse) (o : Opening) : Prop where
  id : o.id = u.id
  name : o.name = u.name
  input : Json.parse (inputText events o.index) = some u.input ∨
    inputText events o.index = "" ∧ u.input = .obj []

/-- A stream of the reply's calls. -/
structure BringsCalls (reply : Reply) (events : List Event) : Prop
    extends Complete events, InOrder events where
  calls : List.Forall₂ (ToolUse.Brought events) reply.toolUses (openings events)

theorem parse_empty : Json.parse "" = none := by
  rw [Option.eq_none_iff_forall_ne_some]
  intro v hv
  cases Json.trim_nonempty_of_parse hv

theorem ToolUse.Brought.streamed {events : List Event} {o : Opening} {u : ToolUse}
    (h : u.Brought events o) : u.Streamed (o.call events) := by
  have htext : (o.call events).arguments = inputText events o.index := rfl
  refine ⟨⟨h.id, rfl, h.name⟩, ?_, ?_⟩ <;> rw [htext]
  · by_cases hempty : inputText events o.index = ""
    · simp [hempty, parse_empty]
    · simpa [hempty] using h.input
  · intro hempty
    have hinput := h.input
    rw [hempty, parse_empty] at hinput
    exact (hinput.resolve_left nofun).2

theorem ToolUse.written_call (u : ToolUse) (h : u.input.Readable) :
    u.Written (.function u.id u.name (argumentText u.input)) := by
  refine ⟨⟨rfl, rfl, rfl⟩, fun hnull => ?_, fun hnull hrereads => ?_⟩
  · have hparse : Json.parse (argumentText .null) = some (.obj []) := by decide +kernel
    rw [hnull]
    exact hparse
  · have htext : argumentText u.input = u.input.render := by
      cases hinput : u.input with
      | null => exact absurd hinput hnull
      | _ => rfl
    rw [ToolCall.function, htext, h.parse_render hrereads]

theorem forall₂_written {content : List ReplyBlock} (h : ∀ b ∈ content, b.HasReadableInput) :
    List.Forall₂ ToolUse.Written (content.filterMap (·.toolUse?)) (content.filterMap (·.call?)) := by
  have hwritten : List.Forall₂ (fun b b' : ReplyBlock =>
      Option.Rel ToolUse.Written b.toolUse? b'.call?) content content := by
    refine List.forall₂_same.2 fun b hb => ?_
    cases b with
    | toolUse id name input =>
      exact .some (ToolUse.written_call ⟨id, name, input⟩ (h _ hb id name input rfl))
    | _ => exact .none
  exact List.rel_filterMap (fun _ _ hb => hb) hwritten

/-- A stream puts together the calls of its reply. The arguments of each are a text of its input just if
anything comes for it, and otherwise they are empty, which no value is spelled as. Those of the whole
reply spell the input, where it reads back, and an empty object for none. -/
theorem toolCalls_reply (reply : Reply) :
    (∀ events, BringsCalls reply events → ∃ m, Streamed events m ∧
      m.toolCalls = (openings events).map (·.call events) ∧
      List.Forall₂ ToolUse.Streamed reply.toolUses m.toolCalls) ∧
    Json.parse "" = none ∧
    ∀ text, Decode.fromText Reply.decode text = some reply →
      List.Forall₂ ToolUse.Written reply.toolUses (responseMessage reply).toolCalls := by
  refine ⟨fun events h => ?_, parse_empty, fun text htext => ?_⟩
  · obtain ⟨m, hm, hassembled⟩ := h.exists_streamed
    have hcalls := hassembled.toolCalls.trans h.merge_toolCalls
    refine ⟨m, hm, hcalls, ?_⟩
    rw [hcalls, List.forall₂_map_right_iff]
    exact h.calls.imp fun _ _ hu => hu.streamed
  · rw [responseMessage, toolCalls_foldl_addBlock]
    exact forall₂_written (yields_reply.of_fromText htext)

def twoUses : Reply :=
  ⟨"", "", [.toolUse "a" "f" (.obj []), .toolUse "b" "g" (.obj [("k", .int 1)])], none, ⟨0, 2, 0, 0⟩⟩

def twoUsesEvents : List Event := [
  .messageStart ⟨"", "", [], none, .zero⟩,
  .blockStart 2 (.toolUse "a" "f" (.obj [])), .blockStart 3 (.toolUse "b" "g" (.obj [])),
  .blockDelta 3 (.inputJson "\x7b\"k"), .blockDelta 2 (.inputJson ""), .other,
  .blockDelta 3 (.inputJson "\":1\x7d"), .messageDelta none (some ⟨0, 2, 0, 0⟩)]

theorem bringsCalls_twoUses : BringsCalls twoUses twoUsesEvents where
  succeeds := by decide
  reports := by decide
  indexes := by decide
  opened := by decide
  calls := by
    have hinput : Json.parse (inputText twoUsesEvents 3) = some (.obj [("k", .int 1)]) := by
      decide +kernel
    exact .cons ⟨rfl, rfl, .inr ⟨rfl, rfl⟩⟩ (.cons ⟨rfl, rfl, .inl hinput⟩ .nil)

theorem toolCalls_reply_twoUses :
    let text := "\x7b\"content\":[" ++
      "\x7b\"type\":\"tool_use\",\"id\":\"a\",\"name\":\"f\",\"input\":\x7b\x7d\x7d," ++
      "\x7b\"type\":\"tool_use\",\"id\":\"b\",\"name\":\"g\",\"input\":\x7b\"k\":1\x7d\x7d]," ++
      "\"usage\":\x7b\"output_tokens\":2\x7d\x7d"
    Decode.fromText Reply.decode text = some twoUses ∧
    (∃ m, Streamed twoUsesEvents m ∧
      List.Forall₂ ToolUse.Streamed twoUses.toolUses m.toolCalls) ∧
    List.Forall₂ (fun (u : ToolUse) (c : ToolCall) => Json.parse c.arguments = some u.input)
      twoUses.toolUses (responseMessage twoUses).toolCalls := by
  intro text
  have htext : Decode.fromText Reply.decode text = some twoUses := by decide +kernel
  have hrereads : ∀ u ∈ twoUses.toolUses, u.input ≠ .null ∧ u.input.Rereads := by
    intro u hu
    have huses : twoUses.toolUses =
        [⟨"a", "f", .obj []⟩, ⟨"b", "g", .obj [("k", .int 1)]⟩] := rfl
    rw [huses, List.mem_pair] at hu
    rcases hu with rfl | rfl
    · exact ⟨nofun, .obj (by simp)⟩
    · exact ⟨nofun, .obj (by simp [Json.Rereads.int])⟩
  obtain ⟨hstreamed, -, hwritten⟩ := toolCalls_reply twoUses
  obtain ⟨m, hm, -, hcalls⟩ := hstreamed _ bringsCalls_twoUses
  exact ⟨htext, ⟨m, hm, hcalls⟩, ((List.forall₂_and_left _ _).2 ⟨hrereads, hwritten text htext⟩).imp
    fun u c h => h.2.input h.1.1 h.1.2⟩

/-- The call without members is left without arguments, which no value is spelled as. -/
theorem toolCalls_without_arguments :
    BringsCalls twoUses twoUsesEvents ∧
    (∃ m, Streamed twoUsesEvents m ∧
      m.toolCalls.map (·.arguments) = ["", "\x7b\"k\":1\x7d"]) ∧
    Json.parse "" = none ∧
    (responseMessage twoUses).toolCalls.map (·.arguments) = ["\x7b\x7d", "\x7b\"k\":1\x7d"] ∧
    Json.parse "\x7b\x7d" = some (.obj []) := by
  obtain ⟨m, hm, hassembled⟩ := bringsCalls_twoUses.exists_streamed
  have hcalls := hassembled.toolCalls.trans bringsCalls_twoUses.merge_toolCalls
  refine ⟨bringsCalls_twoUses, ⟨m, hm, ?_⟩, parse_empty, by decide +kernel, by decide +kernel⟩
  rw [hcalls]
  decide +kernel

end ChatRetrieval.Claude
