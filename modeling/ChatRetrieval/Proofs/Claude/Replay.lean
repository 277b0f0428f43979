import ChatRetrieval.Proofs.Claude.Streaming
import ChatRetrieval.Proofs.Json.Readable
import ChatRetrieval.Proofs.Message.Turns
import ChatRetrieval.Proofs.Result

/-!
Claude turns sent back. A turn is a thought, a text and calls, each of which its message keeps in a
place of its own. The blocks are built again from there, whether the turn was streamed or not.
-/

namespace ChatRetrieval.Claude

structure CallSaid where
  id : String
  name : String
  input : Json
  isObject : input.isObject = true

/-- What Claude says in one turn: a signed thought, a text and calls, something at least. -/
structure TurnSaid where
  thought : Option (String × String)
  text : Option String
  calls : List CallSaid
  thought_signed : ∀ t ∈ thought, t.1 ≠ "" ∧ t.2 ≠ ""
  text_nonempty : ∀ t ∈ text, t ≠ ""
  nonempty : thought ≠ none ∨ text ≠ none ∨ calls ≠ []

namespace TurnSaid

variable (turn : TurnSaid)

def received : List ReplyBlock :=
  turn.thought.toList.map (fun t => .thinking t.1 t.2) ++ turn.text.toList.map .text ++
    turn.calls.map fun c => .toolUse c.id c.name c.input

def sent : List Block :=
  turn.thought.toList.map (fun t => .thinking t.1 t.2) ++ turn.text.toList.map (.text · false) ++
    turn.calls.map fun c => .toolUse c.id c.name c.input false

theorem sent_ne_nil : turn.sent ≠ [] := by
  intro hnil
  simp only [sent, List.append_eq_nil_iff, List.map_eq_nil_iff, Option.toList_eq_nil_iff] at hnil
  rcases turn.nonempty with h | h | h
  · exact h hnil.1.1
  · exact h hnil.1.2
  · exact h hnil.2

/-- The message keeps the parts of the turn where they are looked for. -/
structure In (m : Message) : Prop where
  role : m.role = .assistant
  content : m.content = turn.text.getD ""
  reasoning : m.reasoning = (turn.thought.map (·.1)).getD ""
  signature : thinkingSignature? m = turn.thought.map (·.2)
  parts : m.assistantParts = []
  calls : m.toolCalls.mapM callBlock =
    .ok (turn.calls.map fun c => .toolUse c.id c.name c.input false)

variable {turn}

theorem In.thinkingBlocks_eq {m : Message} (h : turn.In m) :
    thinkingBlocks m = turn.thought.toList.map fun t => .thinking t.1 t.2 := by
  have hsigned := turn.thought_signed
  unfold thinkingBlocks
  rw [h.signature, h.reasoning]
  cases hthought : turn.thought with
  | none => rfl
  | some t =>
    have hempty : t.1.isEmpty = false := by
      rw [← Bool.not_eq_true, String.isEmpty_iff]
      exact (hsigned t hthought).1
    simp [hempty]

theorem In.contentBlocks_eq {m : Message} (h : turn.In m) :
    contentBlocks m.assistantParts m.content = .ok (turn.text.toList.map (.text · false)) := by
  have hnonempty := turn.text_nonempty
  rw [h.parts, h.content]
  cases htext : turn.text with
  | none => rfl
  | some t =>
    have hempty : t.isEmpty = false := by
      rw [← Bool.not_eq_true, String.isEmpty_iff]
      exact hnonempty t htext
    simp [contentBlocks, textBlocks, hempty]

theorem In.inputMessages_eq {m : Message} (h : turn.In m) :
    inputMessages [m] = .ok [⟨.assistant, turn.sent⟩] := by
  have hblocks : assistantBlocks m = .ok turn.sent := by
    unfold assistantBlocks
    rw [h.contentBlocks_eq, h.calls, h.thinkingBlocks_eq]
    rfl
  have hsaid : said m = .ok (some (.assistant, turn.sent)) := by
    simp only [said, h.role, hblocks]
    rfl
  unfold inputMessages
  rw [List.mapM_cons, hsaid]
  exact congrArg Except.ok
    (congrArg (List.map _) (Turn.ofMessages_singleton Side.assistant turn.sent_ne_nil))

end TurnSaid

def ReplyBlock.sentCall? : ReplyBlock → Option Block
  | .toolUse id name input => some (.toolUse id name input false)
  | _ => none

theorem foldl_addBlock_thought {thought : Option (String × String)} (h : ∀ t ∈ thought, t.2 ≠ "")
    (m : Message) :
    (thought.toList.map fun t => ReplyBlock.thinking t.1 t.2).foldl addBlock m =
      { m with
        reasoning := m.reasoning ++ (thought.map (·.1)).getD ""
        extra := (thought.map fun t => m.extra.insert signatureKey (.str t.2)).getD m.extra } := by
  cases thought with
  | none => simp
  | some t =>
    have hsignature : t.2.isEmpty = false := by
      rw [← Bool.not_eq_true, String.isEmpty_iff]
      exact h t rfl
    simp [addBlock, hsignature, setThinkingSignature, Message.setExtra]

theorem foldl_addBlock_text (text : Option String) (m : Message) :
    (text.toList.map ReplyBlock.text).foldl addBlock m =
      { m with content := m.content ++ text.getD "" } := by
  cases text with
  | none => simp
  | some t => rfl

theorem foldl_addBlock_calls (calls : List CallSaid) (m : Message) :
    (calls.map fun c => ReplyBlock.toolUse c.id c.name c.input).foldl addBlock m =
      { m with toolCalls := m.toolCalls ++
        calls.map fun c => .function c.id c.name (argumentText c.input) } := by
  induction calls generalizing m with
  | nil => simp
  | cons c calls ih =>
    rw [List.map_cons, List.foldl_cons, ih]
    simp [addBlock]

theorem callBlock_of_argumentValue {c : ToolCall} {input : Json} (h : c.argumentValue = .ok input) :
    callBlock c = .ok (.toolUse c.id c.name input false) := by
  rw [callBlock, h]
  rfl

theorem mapM_callBlock_runs {runs : List Run} {content : List ReplyBlock}
    (h : List.Forall₂ (fun r b => Brings r.start r.deltas b) runs content) :
    (runs.filterMap (·.call?)).mapM callBlock = .ok (content.filterMap (·.sentCall?)) := by
  refine Result.mapM_eq_ok_iff.2 (List.rel_filterMap (fun r b hr => ?_) h)
  have hspelled := Run.rel_spelled hr
  generalize r.call? = call at hspelled ⊢
  cases b with
  | toolUse id name input =>
    cases hspelled with
    | some h =>
      obtain ⟨⟨rfl, -, rfl⟩, hinput⟩ := h
      exact .some (callBlock_of_argumentValue hinput)
  | _ =>
    cases hspelled
    exact .none

theorem mapM_callBlock_calls {content : List ReplyBlock}
    (h : ∀ id name input, .toolUse id name input ∈ content →
      input.isObject = true ∧ input.Readable ∧ input.Rereads) :
    (content.filterMap (·.call?)).mapM callBlock = .ok (content.filterMap (·.sentCall?)) := by
  have hsent : List.Forall₂ (fun b b' : ReplyBlock =>
      Option.Rel (fun c sent => callBlock c = .ok sent) b.call? b'.sentCall?) content content := by
    refine List.forall₂_same.2 fun b hb => ?_
    cases b with
    | toolUse id name input =>
      obtain ⟨hobject, hreadable, hrereads⟩ := h id name input hb
      exact .some (callBlock_of_argumentValue (ToolCall.argumentValue_of_render
        (argumentText_of_isObject hobject) hreadable hrereads))
    | _ => exact .none
  exact Result.mapM_eq_ok_iff.2 (List.rel_filterMap (fun _ _ hb => hb) hsent)

namespace TurnSaid

variable (turn : TurnSaid)

theorem foldl_addBlock_received (m : Message) :
    turn.received.foldl addBlock m =
      { m with
        content := m.content ++ turn.text.getD ""
        reasoning := m.reasoning ++ (turn.thought.map (·.1)).getD ""
        extra := (turn.thought.map fun t => m.extra.insert signatureKey (.str t.2)).getD m.extra
        toolCalls := m.toolCalls ++
          turn.calls.map fun c => .function c.id c.name (argumentText c.input) } := by
  have hsignature : ∀ t ∈ turn.thought, t.2 ≠ "" := fun t ht => (turn.thought_signed t ht).2
  rw [received, List.foldl_append, List.foldl_append, foldl_addBlock_thought hsignature,
    foldl_addBlock_text, foldl_addBlock_calls]

theorem filterMap_sentCall? : turn.received.filterMap (·.sentCall?) =
    turn.calls.map fun c => .toolUse c.id c.name c.input false := by
  have hthought : (turn.thought.toList.map fun t => ReplyBlock.thinking t.1 t.2).filterMap
      (·.sentCall?) = [] := by
    cases turn.thought <;> rfl
  have htext : (turn.text.toList.map ReplyBlock.text).filterMap (·.sentCall?) = [] := by
    cases turn.text <;> rfl
  rw [received, List.filterMap_append, List.filterMap_append, hthought, htext, List.filterMap_map]
  induction turn.calls with
  | nil => rfl
  | cons c calls ih => exact congrArg (Block.toolUse c.id c.name c.input false :: ·) ih

theorem exists_call_of_mem {id name : String} {input : Json}
    (h : .toolUse id name input ∈ turn.received) : ∃ c ∈ turn.calls, c.input = input := by
  rcases List.mem_append.1 h with h | h
  · rcases List.mem_append.1 h with h | h
    · obtain ⟨t, -, ht⟩ := List.mem_map.1 h
      cases ht
    · obtain ⟨t, -, ht⟩ := List.mem_map.1 h
      cases ht
  · obtain ⟨c, hc, heq⟩ := List.mem_map.1 h
    cases heq
    exact ⟨c, hc, rfl⟩

variable {turn} {reply : Reply} (hreply : reply.content = turn.received)
include hreply

/-- How a turn came makes no difference but for the texts of the calls and the report. -/
theorem in_of_reply {calls : List ToolCall} (report : Option ResponseMeta)
    (hcalls : calls.mapM callBlock = .ok (reply.content.filterMap (·.sentCall?))) :
    turn.In { responseMessage reply with toolCalls := calls, responseMeta := report } := by
  rw [hreply, filterMap_sentCall?] at hcalls
  rw [responseMessage, hreply, foldl_addBlock_received]
  refine ⟨rfl, String.empty_append, String.empty_append, ?_, rfl, hcalls⟩
  cases hthought : turn.thought with
  | none => rfl
  | some t =>
    simp only [thinkingSignature?, Option.map_some, Option.getD_some, Dict.get?_insert_self]
    rfl

end TurnSaid

section

open Decode (Yields)

/-- The input of a call, if the block is one, can be read from a text. -/
def ReplyBlock.HasReadableInput (b : ReplyBlock) : Prop :=
  ∀ id name input, b = .toolUse id name input → input.Readable

theorem yields_block : Yields ReplyBlock.decode ReplyBlock.HasReadableInput := by
  intro j b hj hb
  obtain ⟨⟨tag, body⟩, htagged, hb⟩ := Option.bind_eq_some_iff.1 hb
  have hbody := Decode.fits_of_tagged hj htagged
  dsimp only at hb
  split at hb
  · obtain ⟨r, -, hb⟩ := Option.bind_eq_some_iff.1 hb
    obtain ⟨t, -, hb⟩ := Option.bind_eq_some_iff.1 hb
    cases hb
    rintro _ _ _ ⟨⟩
  · obtain ⟨r, -, hb⟩ := Option.bind_eq_some_iff.1 hb
    obtain ⟨t, -, hb⟩ := Option.bind_eq_some_iff.1 hb
    obtain ⟨signature, -, hb⟩ := Option.bind_eq_some_iff.1 hb
    cases hb
    rintro _ _ _ ⟨⟩
  · obtain ⟨r, hr, hb⟩ := Option.bind_eq_some_iff.1 hb
    obtain ⟨id, -, hb⟩ := Option.bind_eq_some_iff.1 hb
    obtain ⟨name, -, hb⟩ := Option.bind_eq_some_iff.1 hb
    obtain ⟨input, hinput, hb⟩ := Option.bind_eq_some_iff.1 hb
    cases hb
    have hnull : Json.Readable .null := ⟨.null, rfl⟩
    have hreadable := Decode.Record.withDefault_of_yields (Decode.Record.fits_of_record hbody hr)
      Decode.yields_any hnull hinput
    rintro _ _ _ ⟨⟩
    exact hreadable
  · cases hb
    rintro _ _ _ ⟨⟩

theorem yields_reply : Yields Reply.decode fun reply => ∀ b ∈ reply.content, b.HasReadableInput := by
  intro j reply hj hreply
  obtain ⟨r, hr, hreply⟩ := Option.bind_eq_some_iff.1 hreply
  obtain ⟨id, -, hreply⟩ := Option.bind_eq_some_iff.1 hreply
  obtain ⟨model, -, hreply⟩ := Option.bind_eq_some_iff.1 hreply
  obtain ⟨content, hcontent, hreply⟩ := Option.bind_eq_some_iff.1 hreply
  obtain ⟨reason, -, hreply⟩ := Option.bind_eq_some_iff.1 hreply
  obtain ⟨usage, -, hreply⟩ := Option.bind_eq_some_iff.1 hreply
  cases hreply
  exact Decode.Record.listOf_of_yields (Decode.Record.fits_of_record hj hr) yields_block hcontent

end

theorem Transcript.Of.concat_pieces {t : Transcript} {reply : Reply} (h : t.Of reply) :
    Message.concat (t.runs.flatMap Run.pieces ++ [closingPiece reply]) =
      .ok { responseMessage reply with
        toolCalls := t.runs.filterMap (·.call?)
        responseMeta := some ⟨reply.stopReason.filter fun r => !r.isEmpty,
          some reply.usage.toTokenUsage, none⟩ } := by
  have hrole : ∀ m ∈ t.runs.flatMap Run.pieces ++ [closingPiece reply], m.role = .assistant := by
    intro m hm
    rcases List.mem_append.1 hm with hm | hm
    · obtain ⟨r, -, hr⟩ := List.mem_flatMap.1 hm
      exact role_of_mem_pieces hr
    · rw [List.mem_singleton.1 hm]
      rfl
  have hfresh : ∀ r ∈ t.runs, ¬ ToolCall.HasIndex [] r.index :=
    fun _ _ ⟨_, hc, _⟩ => List.not_mem_nil hc
  have hstart : Message.blank .assistant = underway (closingPiece reply) [] := rfl
  rw [Message.concat_eq_foldl_join (by simp) hrole, List.foldl_append, hstart,
    foldl_join_runs_eq h.blocks h.indexes (closingPiece reply) hfresh]
  exact congrArg Except.ok (underway_join_closingPiece _ _ reply)

/-- A turn is sent as the blocks it was received as, if the inputs of its calls read back from their own
texts; a turn that was streamed always is. -/
theorem inputMessages_turn (turn : TurnSaid) {reply : Reply}
    (hreply : reply.content = turn.received) :
    (∀ text, Decode.fromText Reply.decode text = some reply →
      (∀ c ∈ turn.calls, c.input.Rereads) →
      inputMessages [responseMessage reply] = .ok [⟨.assistant, turn.sent⟩]) ∧
    ∀ (t : Transcript) (events : List Event), t.Of reply →
      events.filter (!·.isOther) = t.events reply.stopReason →
      ∃ pieces m, Chat.messagesFrom onEvent .zero (events.map .ok) = pieces.map .ok ∧
        Message.concat pieces = .ok m ∧
        inputMessages [m] = .ok [⟨.assistant, turn.sent⟩] := by
  constructor
  · intro text htext hrereads
    have hreadable := yields_reply.of_fromText htext
    have hcalls : (responseMessage reply).toolCalls.mapM callBlock =
        .ok (reply.content.filterMap (·.sentCall?)) := by
      rw [responseMessage, toolCalls_foldl_addBlock]
      refine mapM_callBlock_calls fun id name input hb => ?_
      obtain ⟨c, hc, rfl⟩ := turn.exists_call_of_mem (hreply ▸ hb)
      exact ⟨c.isObject, hreadable _ hb id name c.input rfl, hrereads c hc⟩
    exact (TurnSaid.in_of_reply hreply (responseMessage reply).responseMeta hcalls).inputMessages_eq
  · intro t events hof hevents
    have hmessages := hof.messagesFrom_eq
    rw [← hevents, ← messagesFrom_filter] at hmessages
    exact ⟨_, _, hmessages, hof.concat_pieces,
      (TurnSaid.in_of_reply hreply _ (mapM_callBlock_runs hof.blocks)).inputMessages_eq⟩

def thoughtAndCall : TurnSaid where
  thought := some ("hm", "sig")
  text := none
  calls := [⟨"a", "f", .obj [("k", .int 1)], rfl⟩]
  thought_signed := by decide
  text_nonempty := by decide
  nonempty := .inl nofun

theorem inputMessages_turn_thoughtAndCall :
    let text := "\x7b\"content\":[\x7b\"type\":\"thinking\",\"thinking\":\"hm\"," ++
      "\"signature\":\"sig\"\x7d,\x7b\"type\":\"tool_use\",\"id\":\"a\",\"name\":\"f\"," ++
      "\"input\":\x7b\"k\":1\x7d\x7d],\"usage\":\x7b\"output_tokens\":2\x7d\x7d"
    let reply : Reply := ⟨"", "", thoughtAndCall.received, none, ⟨0, 2, 0, 0⟩⟩
    Decode.fromText Reply.decode text = some reply ∧
    inputMessages [responseMessage reply] = .ok [⟨.assistant, thoughtAndCall.sent⟩] ∧
    ∃ pieces m, Chat.messagesFrom onEvent .zero ([
        .messageStart ⟨"", "", [], none, .zero⟩,
        .blockStart 1 (.thinking "" ""), .other, .blockDelta 1 (.signature "sig"),
        .blockDelta 1 (.thinking "h"), .blockDelta 1 (.thinking "m"),
        .blockStart 0 (.toolUse "a" "f" (.obj [])), .blockDelta 0 (.inputJson "\x7b\"k\""),
        .blockDelta 0 (.inputJson ":1\x7d"),
        .messageDelta none (some ⟨0, 2, 0, 0⟩)].map .ok) = pieces.map .ok ∧
      Message.concat pieces = .ok m ∧
      inputMessages [m] = .ok [⟨.assistant, thoughtAndCall.sent⟩] := by
  intro text reply
  have hinput : Json.parse (String.join ["\x7b\"k\"", ":1\x7d"]) = some (.obj [("k", .int 1)]) := by
    decide +kernel
  have hof : (⟨⟨"", "", [], none, .zero⟩, [
      ⟨1, .thinking "" "", [.signature "sig", .thinking "h", .thinking "m"]⟩,
      ⟨0, .toolUse "a" "f" (.obj []), ["\x7b\"k\"", ":1\x7d"].map .inputJson⟩],
      ⟨0, 2, 0, 0⟩⟩ : Transcript).Of reply := {
    indexes := by decide
    blocks := .cons (.thinking (by decide) rfl) (.cons (.input _ rfl hinput) .nil)
    inputTokens := rfl
    cacheCreationTokens := rfl
    cacheReadTokens := rfl
    outputTokens := rfl }
  have htext : Decode.fromText Reply.decode text = some reply := by decide +kernel
  have hrereads : ∀ c ∈ thoughtAndCall.calls, c.input.Rereads := by
    intro c hc
    rw [List.mem_singleton.1 hc]
    exact .obj (by simp [Json.Rereads.int])
  have hcontent : reply.content = thoughtAndCall.received := rfl
  obtain ⟨hwhole, hstreamed⟩ := inputMessages_turn thoughtAndCall hcontent
  exact ⟨htext, hwhole text htext hrereads, hstreamed _ _ hof rfl⟩

def tinyTurn (word : UInt64) : TurnSaid where
  thought := none
  text := none
  calls := [⟨"t", "f", .obj [("x", .float ⟨word⟩)], rfl⟩]
  thought_signed := nofun
  text_nonempty := nofun
  nonempty := .inr (.inr (List.cons_ne_nil _ _))

/-- The input of a call need not read back from its own text: another one is then sent than came. -/
theorem inputMessages_tinyCall_ne :
    let text := "\x7b\"id\":\"m\",\"content\":[\x7b\"type\":\"tool_use\",\"id\":\"t\"," ++
      "\"name\":\"f\",\"input\":\x7b\"x\":1e-24\x7d\x7d],\"stop_reason\":\"tool_use\"," ++
      "\"usage\":\x7b\"input_tokens\":5,\"output_tokens\":2\x7d\x7d"
    Decode.fromText Reply.decode text = some tinyCall ∧
    tinyCall.content = (tinyTurn 4247835366853742248).received ∧
    inputMessages [responseMessage tinyCall] ≠
      .ok [⟨.assistant, (tinyTurn 4247835366853742248).sent⟩] := by
  have hread : Json.parse (argumentText (.obj [("x", .float ⟨4247835366853742248⟩)])) =
      some (.obj [("x", .float ⟨4247835366853742247⟩)]) := by decide +kernel
  have hcalls : (responseMessage tinyCall).toolCalls.mapM callBlock =
      .ok [.toolUse "t" "f" (.obj [("x", .float ⟨4247835366853742247⟩)]) false] := by
    have hcall := ToolCall.argumentValue_of_parse
      (c := .function "t" "f" (argumentText (.obj [("x", .float ⟨4247835366853742248⟩)]))) hread
    show [ToolCall.function "t" "f" _].mapM callBlock = _
    rw [List.mapM_cons, callBlock, hcall]
    rfl
  have hin : (tinyTurn 4247835366853742247).In (responseMessage tinyCall) :=
    ⟨rfl, rfl, rfl, rfl, rfl, hcalls⟩
  refine ⟨by decide +kernel, rfl, ?_⟩
  rw [hin.inputMessages_eq]
  intro heq
  have hblocks : (tinyTurn 4247835366853742247).sent = (tinyTurn 4247835366853742248).sent :=
    congrArg InputMessage.content (List.cons.inj (Except.ok.inj heq)).1
  exact absurd hblocks (by decide)

end ChatRetrieval.Claude
