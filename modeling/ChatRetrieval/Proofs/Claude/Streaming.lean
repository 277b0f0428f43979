import ChatRetrieval.Chat.Client
import ChatRetrieval.Proofs.Claude.Blocks
import ChatRetrieval.Proofs.Message.Grouping
import ChatRetrieval.Proofs.ToolCall.Arguments
import Mathlib.Data.List.Forall2

/-!
Streamed and whole Claude replies agree. The events of a block are a run of their own, which continues
the message so far as the block does; only the arguments of calls come as text in one case and are
written anew in the other.
-/

namespace ChatRetrieval.Claude

/-- The events of one block: its start and its deltas, all under one index. -/
structure Run where
  index : Nat
  start : ReplyBlock
  deltas : List Delta

namespace Run

def events (r : Run) : List Event :=
  .blockStart r.index r.start :: r.deltas.map (.blockDelta r.index)

def pieces (r : Run) : List Message :=
  (startMessage r.index r.start).toList ++ r.deltas.filterMap (deltaMessage r.index)

end Run

def Delta.thinking? : Delta → Option String
  | .thinking t => some t
  | _ => none

def Delta.signature? : Delta → Option String
  | .signature s => some s
  | _ => none

def Delta.input? : Delta → Option String
  | .inputJson piece => some piece
  | _ => none

/-- A block brought by a start and deltas. Texts may be cut anywhere, a nonempty signature comes once,
and the pieces of a call's input make up a text of it, or nothing when it has no members. -/
inductive Brings : (start : ReplyBlock) → (deltas : List Delta) → ReplyBlock → Prop
  | text (first : String) (more : List String) :
      Brings (.text first) (more.map .text) (.text (first ++ String.join more))
  | thinking {deltas : List Delta} {signature : String}
      (honly : ∀ d ∈ deltas, d.thinking?.isSome ∨ d.signature?.isSome)
      (hsignature : deltas.filterMap (·.signature?) =
        if signature.isEmpty then [] else [signature]) :
      Brings (.thinking "" "") deltas
        (.thinking (String.join (deltas.filterMap (·.thinking?))) signature)
  | input {id name : String} {pieces : List String} {input : Json} (shown : Json)
      (hobject : input.isObject) (hparse : Json.parse (String.join pieces) = some input) :
      Brings (.toolUse id name shown) (pieces.map .inputJson) (.toolUse id name input)
  | noInput {id name : String} {pieces : List String} (shown : Json)
      (hempty : String.join pieces = "") :
      Brings (.toolUse id name shown) (pieces.map .inputJson) (.toolUse id name (.obj []))

/-- A streamed reply without what carries nothing: its opening, the runs of its blocks and the counts
that come at the end. -/
structure Transcript where
  opening : Reply
  runs : List Run
  closing : Usage

def Transcript.events (t : Transcript) (stopReason : Option String) : List Event :=
  .messageStart t.opening :: t.runs.flatMap Run.events ++ [.messageDelta stopReason (some t.closing)]

/-- The transcript is one of this reply. -/
structure Transcript.Of (t : Transcript) (reply : Reply) : Prop where
  indexes : (t.runs.map (·.index)).Nodup
  blocks : List.Forall₂ (fun r b => Brings r.start r.deltas b) t.runs reply.content
  inputTokens : t.opening.usage.inputTokens = reply.usage.inputTokens
  cacheCreationTokens : t.opening.usage.cacheCreationTokens = reply.usage.cacheCreationTokens
  cacheReadTokens : t.opening.usage.cacheReadTokens = reply.usage.cacheReadTokens
  outputTokens : t.closing.outputTokens = reply.usage.outputTokens

/-- A message of which the calls are these so far and nothing is reported yet. -/
def underway (m : Message) (calls : List ToolCall) : Message :=
  { m with toolCalls := calls, responseMeta := none }

section

variable (m : Message) (calls : List ToolCall)

theorem underway_join (piece : Message) (h : piece.responseMeta = none) :
    (underway m calls).join piece =
      underway (m.join piece) (piece.toolCalls.foldl ToolCall.mergeInto calls) := by
  simp only [Message.join, underway, Message.report, h]
  rfl

theorem underway_join_text (t : String) :
    (underway m calls).join (.assistant t []) =
      underway { m with content := m.content ++ t } calls := by
  rw [underway_join m calls _ rfl]
  simp [underway, Message.join, Message.assistant, Message.blank, ContentPart.appendAll]

theorem underway_join_thinking (t : String) :
    (underway m calls).join { Message.blank .assistant with reasoning := t } =
      underway { m with reasoning := m.reasoning ++ t } calls := by
  rw [underway_join m calls _ rfl]
  simp [underway, Message.join, Message.blank, ContentPart.appendAll]

theorem underway_join_signature (s : String) :
    (underway m calls).join (setThinkingSignature (.blank .assistant) s) =
      underway (setThinkingSignature m s) calls := by
  rw [underway_join m calls _ rfl, setThinkingSignature, Message.join_setExtra]
  simp [underway, Message.join, Message.blank, ContentPart.appendAll, setThinkingSignature,
    Message.setExtra]

theorem underway_join_call (c : ToolCall) :
    (underway m calls).join (.assistant "" [c]) = underway m (ToolCall.mergeInto calls c) := by
  rw [underway_join m calls _ rfl]
  simp [underway, Message.join, Message.assistant, Message.blank, ContentPart.appendAll]

theorem foldl_join_texts (index : Nat) (more : List String) :
    ((more.map Delta.text).filterMap (deltaMessage index)).foldl Message.join (underway m calls) =
      underway { m with content := m.content ++ String.join more } calls := by
  induction more generalizing m with
  | nil => simp
  | cons t ts ih =>
    simp only [List.map_cons, List.filterMap_cons, deltaMessage, List.foldl_cons]
    rw [underway_join_text, ih, String.join_cons, String.append_assoc]

theorem foldl_join_thoughts (index : Nat) {deltas : List Delta}
    (h : ∀ d ∈ deltas, d.thinking?.isSome ∨ d.signature?.isSome) :
    (deltas.filterMap (deltaMessage index)).foldl Message.join (underway m calls) =
      underway ((deltas.filterMap (·.signature?)).foldl setThinkingSignature
        { m with reasoning := m.reasoning ++ String.join (deltas.filterMap (·.thinking?)) }) calls := by
  induction deltas generalizing m with
  | nil => simp
  | cons d ds ih =>
    have hrest := fun m => ih m fun e he => h e (List.mem_cons_of_mem _ he)
    have hd := h d (List.mem_cons_self ..)
    cases d with
    | thinking t =>
      simp only [List.filterMap_cons, deltaMessage, List.foldl_cons]
      rw [underway_join_thinking, hrest]
      simp [Delta.thinking?, Delta.signature?, String.append_assoc]
    | signature s =>
      simp only [List.filterMap_cons, deltaMessage, List.foldl_cons]
      rw [underway_join_signature, hrest]
      simp [Delta.thinking?, Delta.signature?, setThinkingSignature, Message.setExtra]
    | _ => simp [Delta.thinking?, Delta.signature?] at hd

theorem foldl_join_input {index : Nat} (hfresh : ¬ ToolCall.HasIndex calls index) {c : ToolCall}
    (hindex : c.index = some index) (pieces : List String) :
    ((pieces.map Delta.inputJson).filterMap (deltaMessage index)).foldl Message.join
        (underway m (calls ++ [c])) =
      underway m (calls ++ [{ c with arguments := c.arguments ++ String.join pieces }]) := by
  induction pieces generalizing c with
  | nil => simp
  | cons p ps ih =>
    have hstep : ToolCall.mergeInto (calls ++ [c]) ⟨some index, "", "", "", p, Dict.empty⟩ =
        calls ++ [{ c with arguments := c.arguments ++ p }] := by
      rw [ToolCall.mergeInto_of_hasIndex rfl
        (ToolCall.hasIndex_append_singleton.2 (Or.inr hindex)), ToolCall.continueAt_append,
        ToolCall.continueAt_of_not_hasIndex hfresh]
      simp [ToolCall.continueAt, hindex, ToolCall.continued]
    simp only [List.map_cons, List.filterMap_cons, deltaMessage, List.foldl_cons]
    rw [underway_join_call, hstep, ih (c := { c with arguments := c.arguments ++ p }) hindex,
      String.join_cons, String.append_assoc]

end

/-- The call was put together from a stream: its arguments spell the input that came. -/
structure ToolUse.Spelled (u : ToolUse) (c : ToolCall) : Prop extends u.Named c where
  arguments : c.argumentValue = .ok u.input

/-- The call stands in the message of a whole reply: its arguments were written anew, and they spell the
input where that reads back. -/
structure ToolUse.Restated (u : ToolUse) (c : ToolCall) : Prop extends u.Named c where
  arguments : u.input.Rereads → c.argumentValue = .ok u.input

theorem argumentText_of_isObject {input : Json} (h : input.isObject) :
    argumentText input = input.render := by
  cases input with
  | obj => rfl
  | _ => cases h

theorem foldl_join_toolUse (m : Message) (calls : List ToolCall) {index : Nat}
    (hfresh : ¬ ToolCall.HasIndex calls index) (id name : String) (shown : Json)
    (pieces : List String) :
    (Run.mk index (.toolUse id name shown) (pieces.map .inputJson)).pieces.foldl Message.join
        (underway m calls) =
      underway m
        (calls ++ [{ ToolCall.function id name (String.join pieces) with index := some index }]) := by
  have hcall : ToolCall.mergeInto calls { ToolCall.function id name "" with index := some index } =
      calls ++ [{ ToolCall.function id name "" with index := some index }] :=
    ToolCall.mergeInto_of_not_hasIndex rfl hfresh
  simp only [Run.pieces, startMessage, Option.toList_some, List.singleton_append, List.foldl_cons]
  rw [underway_join_call, hcall, foldl_join_input m calls hfresh rfl]
  simp only [ToolCall.function, String.empty_append]

def Run.call? (r : Run) : Option ToolCall :=
  match r.start with
  | .toolUse id name _ => some { ToolCall.function id name
      (String.join (r.deltas.filterMap (·.input?))) with index := some r.index }
  | _ => none

theorem Run.index_of_call {r : Run} {c : ToolCall} (h : r.call? = some c) :
    c.index = some r.index := by
  unfold Run.call? at h
  split at h
  · cases h
    rfl
  · cases h

theorem filterMap_input? (pieces : List String) :
    (pieces.map Delta.inputJson).filterMap (·.input?) = pieces := by
  rw [List.filterMap_map]
  exact List.filterMap_some

/-- The run of a block continues the message so far as the block does. -/
theorem Run.foldl_join {r : Run} {b : ReplyBlock} (h : Brings r.start r.deltas b) (m : Message)
    {calls : List ToolCall} (hfresh : ¬ ToolCall.HasIndex calls r.index) :
    r.pieces.foldl Message.join (underway m calls) =
      underway (addBlock m b) (calls ++ r.call?.toList) := by
  obtain ⟨index, start, deltas⟩ := r
  cases h with
  | text first more =>
    have hstart : (startMessage index (.text first)).toList.foldl Message.join (underway m calls) =
        underway { m with content := m.content ++ first } calls := by
      simp only [startMessage]
      split
      · rename_i hempty
        rw [String.isEmpty_iff.1 hempty, String.append_empty]
        rfl
      · exact underway_join_text m calls first
    rw [Run.pieces, List.foldl_append, hstart, foldl_join_texts]
    simp only [addBlock, String.append_assoc, Run.call?, Option.toList_none, List.append_nil]
  | thinking honly hsignature =>
    rw [Run.pieces, List.foldl_append]
    refine (foldl_join_thoughts m calls index honly).trans ?_
    rw [hsignature]
    simp only [addBlock, Run.call?, Option.toList_none, List.append_nil]
    split <;> rfl
  | input shown hobject hparse =>
    rw [foldl_join_toolUse m calls hfresh]
    simp only [Run.call?, filterMap_input?]
    rfl
  | noInput shown hempty =>
    rw [foldl_join_toolUse m calls hfresh]
    simp only [Run.call?, filterMap_input?]
    rfl

theorem foldl_join_runs_eq {content : List ReplyBlock} {runs : List Run}
    (h : List.Forall₂ (fun r b => Brings r.start r.deltas b) runs content)
    (hnodup : (runs.map (·.index)).Nodup) (m : Message) {calls : List ToolCall}
    (hfresh : ∀ r ∈ runs, ¬ ToolCall.HasIndex calls r.index) :
    (runs.flatMap Run.pieces).foldl Message.join (underway m calls) =
      underway (content.foldl addBlock m) (calls ++ runs.filterMap (·.call?)) := by
  induction h generalizing m calls with
  | nil =>
    rw [List.filterMap_nil, List.append_nil]
    rfl
  | @cons r b runs content hr _ ih =>
    rw [List.map_cons, List.nodup_cons] at hnodup
    have hfresh' : ∀ q ∈ runs, ¬ ToolCall.HasIndex (calls ++ r.call?.toList) q.index := by
      rintro q hq ⟨c, hc, hindex⟩
      rcases List.mem_append.1 hc with hc | hc
      · exact hfresh q (List.mem_cons_of_mem _ hq) ⟨c, hc, hindex⟩
      · rw [Run.index_of_call (Option.mem_toList.1 hc), Option.some.injEq] at hindex
        exact hnodup.1 (hindex ▸ List.mem_map_of_mem hq)
    rw [List.flatMap_cons, List.foldl_append, Run.foldl_join hr m (hfresh r (List.mem_cons_self ..)),
      ih hnodup.2 (addBlock m b) hfresh', List.foldl_cons, List.append_assoc]
    cases hc : r.call? <;> simp [hc]

theorem Run.rel_spelled {r : Run} {b : ReplyBlock} (h : Brings r.start r.deltas b) :
    Option.Rel ToolUse.Spelled b.toolUse? r.call? := by
  obtain ⟨index, start, deltas⟩ := r
  cases h with
  | text => exact .none
  | thinking => exact .none
  | input shown hobject hparse =>
    refine .some ⟨⟨rfl, rfl, rfl⟩, ToolCall.argumentValue_of_parse ?_⟩
    rw [filterMap_input?]
    exact hparse
  | noInput shown hempty =>
    refine .some ⟨⟨rfl, rfl, rfl⟩, ToolCall.argumentValue_of_empty ?_⟩
    rw [filterMap_input?]
    exact hempty

theorem ReplyBlock.rel_restated {b : ReplyBlock}
    (h : ∀ u ∈ b.toolUse?, u.input.isObject ∧ u.input.Readable) :
    Option.Rel ToolUse.Restated b.toolUse? b.call? := by
  cases b with
  | toolUse id name input =>
    obtain ⟨hobject, hreadable⟩ := h ⟨id, name, input⟩ rfl
    exact .some ⟨⟨rfl, rfl, rfl⟩,
      ToolCall.argumentValue_of_render (argumentText_of_isObject hobject) hreadable⟩
  | _ => exact .none

theorem Brings.readable {start b : ReplyBlock} {deltas : List Delta} (h : Brings start deltas b) :
    ∀ u ∈ b.toolUse?, u.input.isObject ∧ u.input.Readable := by
  intro u hu
  cases h with
  | input shown hobject hparse =>
    cases hu
    exact ⟨hobject, Json.readable_of_parse hparse⟩
  | noInput =>
    cases hu
    have hparse : Json.parse "\x7b\x7d" = some (.obj []) := by decide +kernel
    exact ⟨rfl, Json.readable_of_parse hparse⟩
  | _ => cases hu

section

open Chat (messagesFrom)

def Event.isOther : Event → Bool
  | .other => true
  | _ => false

variable (usage : Usage)

theorem messagesFrom_filter (events : List Event) :
    messagesFrom onEvent usage (events.map .ok) =
      messagesFrom onEvent usage ((events.filter (!·.isOther)).map .ok) := by
  induction events generalizing usage with
  | nil => rfl
  | cons e es ih =>
    cases e with
    | other => exact ih usage
    | _ =>
      simp only [List.filter_cons, Event.isOther, Bool.not_false, if_true, List.map_cons,
        messagesFrom, ih]

theorem messagesFrom_deltas (index : Nat) (deltas : List Delta) (rest : List (Result Event)) :
    messagesFrom onEvent usage ((deltas.map (.blockDelta index)).map .ok ++ rest) =
      (deltas.filterMap (deltaMessage index)).map .ok ++ messagesFrom onEvent usage rest := by
  induction deltas with
  | nil => rfl
  | cons d ds ih =>
    simp only [List.map_cons, List.cons_append, messagesFrom, onEvent]
    cases hd : deltaMessage index d with
    | none => simp only [List.filterMap_cons_none hd, ih]
    | some m => simp only [List.filterMap_cons_some hd, List.map_cons, List.cons_append, ih]

theorem messagesFrom_run (r : Run) (rest : List (Result Event)) :
    messagesFrom onEvent usage (r.events.map .ok ++ rest) =
      r.pieces.map .ok ++ messagesFrom onEvent usage rest := by
  rw [Run.events, Run.pieces, List.map_cons, List.cons_append, messagesFrom, onEvent,
    List.map_append, List.append_assoc, ← messagesFrom_deltas]
  cases startMessage r.index r.start <;> rfl

theorem messagesFrom_runs (runs : List Run) (rest : List (Result Event)) :
    messagesFrom onEvent usage ((runs.flatMap Run.events).map .ok ++ rest) =
      (runs.flatMap Run.pieces).map .ok ++ messagesFrom onEvent usage rest := by
  induction runs with
  | nil => rfl
  | cons r rs ih =>
    simp only [List.flatMap_cons, List.map_append, List.append_assoc, messagesFrom_run, ih]

end

def closingPiece (reply : Reply) : Message :=
  { Message.blank .assistant with
    responseMeta := some ⟨reply.stopReason, some reply.usage.toTokenUsage, none⟩ }

theorem underway_join_closingPiece (m : Message) (calls : List ToolCall) (reply : Reply) :
    (underway m calls).join (closingPiece reply) =
      { m with
        toolCalls := calls
        responseMeta := some ⟨reply.stopReason.filter fun r => !r.isEmpty,
          some reply.usage.toTokenUsage, none⟩ } := by
  simp [Message.join, underway, Message.report, closingPiece, ResponseMeta.join,
    ResponseMeta.nonEmpty?, ResponseMeta.empty, Message.blank, ContentPart.appendAll]

theorem underway_join_closing {reply : Reply} (hreason : ∀ r ∈ reply.stopReason, r ≠ "")
    (calls : List ToolCall) :
    (underway (responseMessage reply) calls).join (closingPiece reply) =
      { responseMessage reply with toolCalls := calls } := by
  have hreport : (responseMessage reply).responseMeta =
      some ⟨reply.stopReason, some reply.usage.toTokenUsage, none⟩ := by
    rw [responseMessage, foldl_addBlock]
  have hfilter : (reply.stopReason.filter fun r => !r.isEmpty) = reply.stopReason := by
    cases hr : reply.stopReason with
    | none => rfl
    | some r => simpa using hreason r hr
  rw [underway_join_closingPiece, hfilter, ← hreport]

theorem role_of_mem_pieces {r : Run} {m : Message} (h : m ∈ r.pieces) : m.role = .assistant := by
  rcases List.mem_append.1 h with hstart | hdelta
  · rw [Option.mem_toList] at hstart
    cases hr : r.start with
    | toolUse id name shown =>
      rw [hr] at hstart
      cases hstart
      rfl
    | text t =>
      simp only [hr, startMessage] at hstart
      split at hstart
      · cases hstart
      · cases hstart
        rfl
    | _ =>
      rw [hr] at hstart
      cases hstart
  · obtain ⟨d, -, hd⟩ := List.mem_filterMap.1 hdelta
    cases d with
    | other => cases hd
    | _ =>
      cases hd
      rfl

theorem Transcript.Of.messagesFrom_eq {t : Transcript} {reply : Reply} (h : t.Of reply) :
    Chat.messagesFrom onEvent .zero ((t.events reply.stopReason).map .ok) =
      (t.runs.flatMap Run.pieces ++ [closingPiece reply]).map .ok := by
  have husage : { t.opening.usage with outputTokens := t.closing.outputTokens } = reply.usage := by
    rw [Usage.mk.injEq]
    exact ⟨h.inputTokens, h.outputTokens, h.cacheCreationTokens, h.cacheReadTokens⟩
  have hclosing : Chat.messagesFrom onEvent t.opening.usage
      [.ok (.messageDelta reply.stopReason (some t.closing))] = [.ok (closingPiece reply)] := by
    simp only [Chat.messagesFrom, onEvent, husage, closingPiece]
  have hopening (rest : List (Result Event)) :
      Chat.messagesFrom onEvent .zero (.ok (.messageStart t.opening) :: rest) =
        Chat.messagesFrom onEvent t.opening.usage rest := rfl
  rw [Transcript.events, List.cons_append, List.map_cons, hopening, List.map_append,
    messagesFrom_runs, List.map_append]
  exact congrArg _ hclosing

/-- Streaming agrees with the whole reply in every field but the calls. These are, in both messages, those
of the reply one by one, with their ids, kinds and names; the streamed arguments spell the input that
came, and so do those of the whole reply where the input reads back from its own text. -/
theorem concat_transcript {t : Transcript} {reply : Reply} {events : List Event} (h : t.Of reply)
    (hreason : ∀ r ∈ reply.stopReason, r ≠ "")
    (hevents : events.filter (!·.isOther) = t.events reply.stopReason) :
    ∃ pieces m, Chat.messagesFrom onEvent .zero (events.map .ok) = pieces.map .ok ∧
      Message.concat pieces = .ok m ∧
      { m with toolCalls := [] } = { responseMessage reply with toolCalls := [] } ∧
      List.Forall₂ ToolUse.Spelled reply.toolUses m.toolCalls ∧
      List.Forall₂ ToolUse.Restated reply.toolUses (responseMessage reply).toolCalls := by
  have hrole : ∀ m ∈ t.runs.flatMap Run.pieces ++ [closingPiece reply], m.role = .assistant := by
    intro m hm
    rcases List.mem_append.1 hm with hm | hm
    · obtain ⟨r, -, hr⟩ := List.mem_flatMap.1 hm
      exact role_of_mem_pieces hr
    · rw [List.mem_singleton.1 hm]
      rfl
  -- The stream starts from nothing, so the fold may start at the message of a reply without blocks.
  have hstart : Message.blank .assistant = underway (closingPiece reply) [] := rfl
  have hruns := foldl_join_runs_eq h.blocks h.indexes (closingPiece reply)
    (fun _ _ ⟨_, hc, _⟩ => List.not_mem_nil hc)
  refine ⟨t.runs.flatMap Run.pieces ++ [closingPiece reply],
    { responseMessage reply with toolCalls := t.runs.filterMap (·.call?) }, ?_, ?_, rfl, ?_, ?_⟩
  · rw [messagesFrom_filter, hevents, h.messagesFrom_eq]
  · rw [Message.concat_eq_foldl_join (by simp) hrole, List.foldl_append, hstart, hruns]
    exact congrArg Except.ok (underway_join_closing hreason _)
  · exact List.rel_filterMap (fun _ _ hr => Run.rel_spelled hr) h.blocks.flip
  · rw [responseMessage, toolCalls_foldl_addBlock]
    have hreadable : List.Forall₂ (fun b c : ReplyBlock => Option.Rel ToolUse.Restated b.toolUse? c.call?)
        reply.content reply.content :=
      List.forall₂_same.2 fun b hb => by
        obtain ⟨r, -, hr⟩ := Result.exists_of_mem_forall₂ h.blocks.flip hb
        exact ReplyBlock.rel_restated hr.readable
    exact List.rel_filterMap (fun _ _ hb => hb) hreadable

def twoCalls : Reply :=
  ⟨"m", "", [.thinking "hm" "sig", .text "Hi", .toolUse "a" "f" (.obj []),
    .toolUse "b" "g" (.obj [("k", .arr [.int 1])])], some "tool_use", ⟨5, 9, 2, 3⟩⟩

theorem concat_transcript_two_calls :
    ∃ pieces m, Chat.messagesFrom onEvent .zero ([
        .messageStart ⟨"m", "", [], none, ⟨5, 1, 2, 3⟩⟩,
        .blockStart 0 (.thinking "" ""), .other, .blockDelta 0 (.thinking "h"),
        .blockDelta 0 (.signature "sig"), .blockDelta 0 (.thinking "m"),
        .blockStart 1 (.text "H"), .blockDelta 1 (.text "i"),
        .blockStart 3 (.toolUse "a" "f" (.obj [])),
        .blockStart 2 (.toolUse "b" "g" (.obj [])), .blockDelta 2 (.inputJson "\x7b\"k"),
        .blockDelta 2 (.inputJson "\":[1]\x7d"), .other,
        .messageDelta (some "tool_use") (some ⟨0, 9, 0, 0⟩), .other].map .ok) = pieces.map .ok ∧
      Message.concat pieces = .ok m ∧
      { m with toolCalls := [] } = { responseMessage twoCalls with toolCalls := [] } ∧
      List.Forall₂ ToolUse.Spelled twoCalls.toolUses m.toolCalls ∧
      List.Forall₂ ToolUse.Restated twoCalls.toolUses (responseMessage twoCalls).toolCalls := by
  have hinput : Json.parse (String.join ["\x7b\"k", "\":[1]\x7d"]) =
      some (.obj [("k", .arr [.int 1])]) := by decide +kernel
  have hof : (⟨⟨"m", "", [], none, ⟨5, 1, 2, 3⟩⟩, [
      ⟨0, .thinking "" "", [.thinking "h", .signature "sig", .thinking "m"]⟩,
      ⟨1, .text "H", ["i"].map .text⟩, ⟨3, .toolUse "a" "f" (.obj []), [].map .inputJson⟩,
      ⟨2, .toolUse "b" "g" (.obj []), ["\x7b\"k", "\":[1]\x7d"].map .inputJson⟩],
      ⟨0, 9, 0, 0⟩⟩ : Transcript).Of twoCalls := {
    indexes := by decide
    blocks := .cons (.thinking (by decide) rfl) (.cons (.text "H" ["i"])
      (.cons (.noInput _ rfl) (.cons (.input _ rfl hinput) .nil)))
    inputTokens := rfl
    cacheCreationTokens := rfl
    cacheReadTokens := rfl
    outputTokens := rfl }
  exact concat_transcript hof (by decide) rfl

/-- A call with the double that `1e-24` is read as, which is not the nearest one. -/
def tinyCall : Reply :=
  ⟨"m", "", [.toolUse "t" "f" (.obj [("x", .float ⟨4247835366853742248⟩)])], some "tool_use",
    ⟨5, 2, 0, 0⟩⟩

def tinyTranscript : Transcript :=
  ⟨⟨"m", "", [], none, ⟨5, 1, 0, 0⟩⟩,
    [⟨0, .toolUse "t" "f" (.obj []), ["\x7b\"x\":1e-24\x7d"].map .inputJson⟩], ⟨0, 2, 0, 0⟩⟩

/-- A double need not read back from its own text: the arguments of the whole reply then spell another
value than those of the stream. -/
theorem tinyTranscript_argument_ne :
    tinyTranscript.Of tinyCall ∧ ∃ pieces m,
      Chat.messagesFrom onEvent .zero ((tinyTranscript.events tinyCall.stopReason).map .ok) =
        pieces.map .ok ∧
      Message.concat pieces = .ok m ∧
      ¬ List.Forall₂ (fun a b => a.argumentValue = b.argumentValue) m.toolCalls
        (responseMessage tinyCall).toolCalls := by
  have hstreamed : Json.parse "\x7b\"x\":1e-24\x7d" =
      some (.obj [("x", .float ⟨4247835366853742248⟩)]) := by decide +kernel
  have hwhole : Json.parse (argumentText (.obj [("x", .float ⟨4247835366853742248⟩)])) =
      some (.obj [("x", .float ⟨4247835366853742247⟩)]) := by decide +kernel
  refine ⟨⟨by decide, .cons (.input _ rfl hstreamed) .nil, rfl, rfl, rfl, rfl⟩, [
    .assistant "" [⟨some 0, "t", "function", "f", "", .empty⟩],
    .assistant "" [⟨some 0, "", "", "", "\x7b\"x\":1e-24\x7d", .empty⟩],
    closingPiece tinyCall], _, rfl, rfl, ?_⟩
  intro h
  obtain ⟨harguments, -⟩ := List.forall₂_cons.1 h
  have hs := ToolCall.argumentValue_of_parse
    (c := ⟨some 0, "t", "function", "f", "\x7b\"x\":1e-24\x7d", .empty⟩) hstreamed
  have hw := ToolCall.argumentValue_of_parse
    (c := .function "t" "f" (argumentText (.obj [("x", .float ⟨4247835366853742248⟩)]))) hwhole
  have hvalues := Except.ok.inj (hs.symm.trans (harguments.trans hw))
  exact absurd hvalues (by decide +kernel)

end ChatRetrieval.Claude
