import ChatRetrieval.Completions.Reply
import ChatRetrieval.Proofs.Message.Grouping

/-!
Streamed and whole completions agree. Whatever way the deltas of choice 0 cut a reply into chunks,
putting the messages of the chunks together gives the message of the reply.
-/

namespace ChatRetrieval.Completions

namespace Reply

def delta (chunk : Reply) : ReplyMessage :=
  ((firstChoice? chunk.choices).bind (·.delta)).getD .blank

def reason? (chunk : Reply) : Option String :=
  (firstChoice? chunk.choices).bind fun choice => choice.finishReason.filter fun r => !r.isEmpty

def logprobs? (chunk : Reply) : Option (List LogProb) :=
  (firstChoice? chunk.choices).bind (·.logprobs)

/-- A chunk gives a message when it has a choice 0 or reports usage. -/
def resolves (chunk : Reply) : Bool :=
  (firstChoice? chunk.choices).isSome || chunk.usage.isSome

end Reply

/-- Pieces that calls are cut into: every call has an index, the calls begin in their order, and the
pieces of one index, others anywhere between them, are a first one with id, kind and name and further
ones with arguments only. As the order is given by first appearances, no two calls share an index. -/
structure CallsCut (calls pieces : List WireCall) : Prop where
  indexed : ∀ c ∈ calls, c.index.isSome
  order : (pieces.map (·.index)).eraseDups = calls.map (·.index)
  cut : ∀ c ∈ calls, ∃ first rest, pieces.filter (fun p => p.index == c.index) = first :: rest ∧
    first.id.getD "" = c.id.getD "" ∧ first.kind.getD "" = c.kind.getD "" ∧
    first.name.getD "" = c.name.getD "" ∧
    (∀ p ∈ rest, p.id.getD "" = "" ∧ p.kind.getD "" = "" ∧ p.name.getD "" = "") ∧
    String.join ((first :: rest).map (·.arguments.getD "")) = c.arguments.getD ""

/-- Chunks that stream a reply with this choice 0 and usage. Chunks that carry neither a choice 0 nor
usage may stand anywhere. -/
structure Streamed (choice : Choice) (usage : Option Usage) (chunks : List Reply) : Prop where
  intact : ∀ c ∈ chunks, c.error = none
  resolved : ∃ c ∈ chunks, c.resolves
  content : String.join (chunks.map (·.delta.content.getD "")) =
    (choice.message.getD .blank).content.getD ""
  reasoning : String.join (chunks.map (·.delta.reasoning.getD "")) =
    (choice.message.getD .blank).reasoning.getD ""
  calls : CallsCut (choice.message.getD .blank).toolCalls (chunks.flatMap (·.delta.toolCalls))
  reason : chunks.filterMap (·.reason?) = (choice.finishReason.filter fun r => !r.isEmpty).toList
  logprobs : (chunks.filterMap (·.logprobs?)).flatten = choice.logprobs.getD []
  logprobs_iff : (∃ c ∈ chunks, c.logprobs?.isSome) ↔ choice.logprobs.isSome
  usage : chunks.filterMap (·.usage) = usage.toList

theorem addUsage_choiceMessage (choice : Choice) (reply : ReplyMessage) (usage : Option Usage) :
    addUsage (choiceMessage choice reply) usage =
      { Message.blank .assistant with
        content := reply.content.getD ""
        reasoning := reply.reasoning.getD ""
        toolCalls := reply.toolCalls.map toolCall
        responseMeta := ResponseMeta.nonEmpty?
          ⟨choice.finishReason.filter fun r => !r.isEmpty, usage.map (·.toTokenUsage),
            choice.logprobs⟩ } := by
  cases usage with
  | none => rfl
  | some u =>
    simp only [addUsage, Message.withUsage, choiceMessage, ResponseMeta.getD_nonEmpty?,
      Option.map_some]
    simp [ResponseMeta.nonEmpty?, ResponseMeta.empty]

/-- What a chunk adds to the message. -/
def piece (chunk : Reply) : Message :=
  { Message.blank .assistant with
    content := chunk.delta.content.getD ""
    reasoning := chunk.delta.reasoning.getD ""
    toolCalls := chunk.delta.toolCalls.map toolCall
    responseMeta :=
      ResponseMeta.nonEmpty? ⟨chunk.reason?, chunk.usage.map (·.toTokenUsage), chunk.logprobs?⟩ }

theorem chunkMessage_eq (provider : String) {chunk : Reply} (h : chunk.error = none) :
    chunkMessage provider chunk =
      .ok (if chunk.resolves then some (piece chunk) else none) := by
  unfold chunkMessage piece Reply.resolves Reply.delta Reply.reason? Reply.logprobs?
  rw [h]
  cases firstChoice? chunk.choices with
  | some choice => simp [addUsage_choiceMessage]
  | none =>
    cases chunk.usage with
    | none => rfl
    | some u =>
      simp [Message.withUsage, Message.blank, ResponseMeta.nonEmpty?, ResponseMeta.empty,
        ReplyMessage.blank]

theorem piece_eq_blank {chunk : Reply} (h : chunk.resolves = false) :
    piece chunk = Message.blank .assistant := by
  rw [Reply.resolves, Bool.or_eq_false_iff, Option.isSome_eq_false_iff, Option.isNone_iff_eq_none,
    Option.isSome_eq_false_iff, Option.isNone_iff_eq_none] at h
  simp only [piece, Reply.delta, Reply.reason?, Reply.logprobs?, h]
  rfl

theorem messagesOf_chunks (provider : String) {chunks : List Reply}
    (h : ∀ c ∈ chunks, c.error = none) :
    Chat.messagesOf (chunkMessage provider) (chunks.map .ok) =
      ((chunks.filter (·.resolves)).map piece).map .ok := by
  induction chunks with
  | nil => rfl
  | cons c cs ih =>
    have hrest := ih fun d hd => h d (List.mem_cons_of_mem _ hd)
    rw [List.map_cons, Chat.messagesOf, chunkMessage_eq provider (h c (List.mem_cons_self ..)),
      List.filter_cons]
    cases c.resolves with
    | true => simp only [if_true, hrest, List.map_cons]
    | false => simp only [Bool.false_eq_true, if_false, hrest]

theorem foldl_join_resolved {m : Message} (hm : m.Settled) (chunks : List Reply) :
    ((chunks.filter (·.resolves)).map piece).foldl Message.join m =
      (chunks.map piece).foldl Message.join m := by
  have hfilter : (chunks.filter (·.resolves)).map piece =
      chunks.filterMap fun c => if c.resolves then some (piece c) else none := by
    rw [← List.filterMap_eq_map, List.filterMap_filter]
    rfl
  have hblank : ∀ c ∈ chunks,
      (if c.resolves then some (piece c) else none).getD (Message.blank .assistant) = piece c := by
    intro c _
    cases hc : c.resolves with
    | true => rfl
    | false => exact (piece_eq_blank hc).symm
  rw [hfilter, hm.foldl_filterMap .assistant, List.map_congr_left hblank]

theorem foldl_continued_arguments {pieces : List WireCall}
    (h : ∀ p ∈ pieces, p.id.getD "" = "" ∧ p.kind.getD "" = "" ∧ p.name.getD "" = "")
    (call : ToolCall) :
    (pieces.map toolCall).foldl ToolCall.continued call =
      { call with arguments := call.arguments ++ String.join (pieces.map (·.arguments.getD "")) } := by
  induction pieces generalizing call with
  | nil => simp
  | cons p ps ih =>
    obtain ⟨hid, hkind, hname⟩ := h p (List.mem_cons_self ..)
    rw [List.map_cons, List.foldl_cons, ih fun q hq => h q (List.mem_cons_of_mem _ hq)]
    simp only [ToolCall.continued, toolCall, hid, hkind, hname, firstNonEmpty_empty,
      Dict.union_empty, List.map_cons, String.join_cons, String.append_assoc]

theorem CallsCut.merge_eq {calls pieces : List WireCall} (h : CallsCut calls pieces) :
    ToolCall.merge (pieces.map toolCall) = calls.map toolCall := by
  apply ToolCall.merge_eq_of_pieces
  · intro c hc
    obtain ⟨w, hw, rfl⟩ := List.mem_map.1 hc
    exact h.indexed w hw
  · rw [List.map_map, List.map_map]
    exact h.order
  · intro c hc
    obtain ⟨w, hw, rfl⟩ := List.mem_map.1 hc
    obtain ⟨first, rest, hfilter, hid, hkind, hname, hrest, harguments⟩ := h.cut w hw
    have hfirst : first ∈ pieces.filter fun p => p.index == w.index := by
      rw [hfilter]
      exact List.mem_cons_self ..
    have hindex : first.index = w.index := by simpa using (List.mem_filter.1 hfirst).2
    refine ⟨toolCall first, rest.map toolCall, ?_, ?_⟩
    · rw [List.filter_map, ← List.map_cons, ← hfilter]
      rfl
    · rw [List.map_cons, String.join_cons] at harguments
      rw [foldl_continued_arguments hrest]
      simp only [toolCall, hid, hkind, hname, hindex, harguments]

theorem report_piece (chunk : Reply) :
    (piece chunk).report = ⟨chunk.reason?, chunk.usage.map (·.toTokenUsage), chunk.logprobs?⟩ :=
  ResponseMeta.getD_nonEmpty? _

theorem filter_reason? (chunk : Reply) :
    (chunk.reason?.filter fun r => !r.isEmpty) = chunk.reason? := by
  unfold Reply.reason?
  cases firstChoice? chunk.choices with
  | none => rfl
  | some choice => simp

section

variable {choice : Choice} {usage : Option Usage} {chunks : List Reply}

theorem Streamed.foldl_reports (h : Streamed choice usage chunks) :
    ((chunks.map piece).map Message.report).foldl ResponseMeta.join .empty =
      ⟨choice.finishReason.filter fun r => !r.isEmpty, usage.map (·.toTokenUsage),
        choice.logprobs⟩ := by
  have hreason : (((chunks.map piece).map Message.report).foldl ResponseMeta.join .empty).finishReason =
      choice.finishReason.filter fun r => !r.isEmpty := by
    rw [ResponseMeta.finishReason_foldl_join]
    simp only [List.map_map, List.filterMap_map, Function.comp_def, report_piece, filter_reason?,
      h.reason]
    cases choice.finishReason.filter fun r => !r.isEmpty <;> rfl
  have husage : (((chunks.map piece).map Message.report).foldl ResponseMeta.join .empty).usage =
      usage.map (·.toTokenUsage) := by
    have hone : chunks.filterMap (fun c => c.usage.map (·.toTokenUsage)) =
        (usage.map (·.toTokenUsage)).toList := by
      rw [← List.map_filterMap, h.usage]
      cases usage <;> rfl
    rw [ResponseMeta.usage_foldl_join, ResponseMeta.empty, ResponseMeta.foldl_combine_none]
    simp only [List.filterMap_map, Function.comp_def, report_piece, id_eq, hone]
    cases usage <;> rfl
  have hlogprobs : (((chunks.map piece).map Message.report).foldl ResponseMeta.join .empty).logprobs =
      choice.logprobs := by
    rw [ResponseMeta.logprobs_foldl_join, ResponseMeta.empty, ResponseMeta.foldl_combine_none]
    simp only [List.filterMap_map, Function.comp_def, report_piece, id_eq]
    cases hl : chunks.filterMap (·.logprobs?) with
    | nil =>
      -- An empty list of probabilities in the reply would need a chunk that has one too.
      have hnone : ¬ choice.logprobs.isSome := by
        rw [← h.logprobs_iff]
        rintro ⟨c, hc, hsome⟩
        rw [List.filterMap_eq_nil_iff.1 hl c hc] at hsome
        cases hsome
      exact (Option.not_isSome_iff_eq_none.1 hnone).symm
    | cons first rest =>
      have hsome : choice.logprobs.isSome := by
        have hfirst : first ∈ chunks.filterMap (·.logprobs?) := hl ▸ List.mem_cons_self ..
        obtain ⟨c, hc, hcf⟩ := List.mem_filterMap.1 hfirst
        exact h.logprobs_iff.1 ⟨c, hc, Option.isSome_of_eq_some hcf⟩
      obtain ⟨all, hall⟩ := Option.isSome_iff_exists.1 hsome
      have hjoined := h.logprobs
      rw [hl, hall, Option.getD_some, List.flatten_cons] at hjoined
      have hfold : rest.foldl (· ++ ·) first = first ++ rest.flatten := by
        rw [← List.map_id rest, ← List.foldl_append_eq_append, List.map_id]
        rfl
      simp only [hall, ← hjoined, hfold]
  rw [← hreason, ← husage, ← hlogprobs]

theorem Streamed.merged_eq (h : Streamed choice usage chunks) :
    Message.merged .assistant (chunks.map piece) =
      addUsage (choiceMessage choice (choice.message.getD .blank)) usage := by
  have hcalls : (chunks.map piece).flatMap (·.toolCalls) =
      (chunks.flatMap (·.delta.toolCalls)).map toolCall := by
    rw [List.flatMap_map, List.map_flatMap]
    rfl
  have hextra : ((chunks.map piece).map (·.extra)).foldl Dict.union Dict.empty = Dict.empty := by
    clear hcalls h
    induction chunks with
    | nil => rfl
    | cons c cs ih => exact ih
  have hparts : chunks.flatMap (fun _ => ([] : List ContentPart)) = [] :=
    List.flatMap_eq_nil_iff.2 fun _ _ => rfl
  have htexts : chunks.filterMap (fun _ => (none : Option String)) = [] :=
    List.filterMap_eq_nil_iff.2 fun _ _ => rfl
  rw [addUsage_choiceMessage, Message.merged, h.foldl_reports, hcalls, h.calls.merge_eq, hextra]
  simp only [List.map_map, List.flatMap_map, List.filterMap_map, Function.comp_def, piece,
    Message.blank, h.content, h.reasoning, hparts, htexts, ContentPart.appendAll, List.foldl_nil,
    List.getLast?_nil]

end

/-- Streaming agrees with the whole reply: the messages of the chunks come to the message of the
reply in every field. -/
theorem concat_streamed (provider : String) {reply : Reply} {choice : Choice} {chunks : List Reply}
    (hok : reply.error = none) (hzero : firstChoice? reply.choices = some choice)
    (h : Streamed choice reply.usage chunks) :
    ∃ pieces m, Chat.messagesOf (chunkMessage provider) (chunks.map .ok) = pieces.map .ok ∧
      Message.concat pieces = .ok m ∧ responseMessage provider reply = .ok m := by
  refine ⟨(chunks.filter (·.resolves)).map piece,
    addUsage (choiceMessage choice (choice.message.getD .blank)) reply.usage,
    messagesOf_chunks provider h.intact, ?_, ?_⟩
  · have hne : (chunks.filter (·.resolves)).map piece ≠ [] := by
      obtain ⟨c, hc, hresolves⟩ := h.resolved
      exact List.ne_nil_of_mem (List.mem_map_of_mem (List.mem_filter.2 ⟨hc, hresolves⟩))
    have hrole : ∀ m ∈ (chunks.filter (·.resolves)).map piece, m.role = .assistant := by
      intro m hm
      obtain ⟨c, _, rfl⟩ := List.mem_map.1 hm
      rfl
    rw [Message.concat_eq_foldl_join hne hrole, foldl_join_resolved (Message.settled_blank _),
      Message.foldl_join_blank, h.merged_eq]
  · have hchoices : reply.choices.isEmpty = false := by
      cases hc : reply.choices with
      | nil => simp [hc, firstChoice?] at hzero
      | cons => rfl
    simp only [responseMessage, hok, hchoices, hzero, Bool.false_eq_true, if_false]

theorem concat_streamed_interleaved :
    ∃ pieces m,
      Chat.messagesOf (chunkMessage "p") ([
        (⟨none, none, [⟨0, none, some ⟨some "Hi", none,
          [⟨some 0, some "a", some "function", some "f", none⟩]⟩, none, none⟩], none, none, none⟩ : Reply),
        ⟨none, none, [⟨0, none, some ⟨none, none, [⟨some 1, some "b", none, some "g", some "["⟩,
          ⟨some 0, none, none, none, some "[]"⟩]⟩, none, none⟩], none, none, none⟩,
        ⟨none, none, [⟨0, none, some ⟨some "!", none, [⟨some 1, none, none, none, some "]"⟩]⟩,
          some "tool_calls", none⟩], none, none, none⟩,
        ⟨none, none, [], none, none, none⟩,
        ⟨none, none, [], some ⟨3, 4, 7, none, none⟩, none, none⟩].map .ok) = pieces.map .ok ∧
      Message.concat pieces = .ok m ∧
      responseMessage "p" ⟨none, none, [⟨0, some ⟨some "Hi!", none,
        [⟨some 0, some "a", some "function", some "f", some "[]"⟩,
          ⟨some 1, some "b", none, some "g", some "[]"⟩]⟩, none, some "tool_calls", none⟩],
        some ⟨3, 4, 7, none, none⟩, none, none⟩ = .ok m := by
  refine concat_streamed "p" rfl rfl {
    intact := by decide
    resolved := by decide
    content := by decide
    reasoning := by decide
    calls := { indexed := by decide, order := by decide, cut := ?_ }
    reason := by decide
    logprobs := by decide
    logprobs_iff := by decide
    usage := by decide }
  simp only [Option.getD_some, List.mem_cons, List.not_mem_nil, or_false]
  rintro c (rfl | rfl)
  · exact ⟨_, _, rfl, rfl, rfl, rfl, by decide, by decide⟩
  · exact ⟨_, _, rfl, rfl, rfl, rfl, by decide, by decide⟩

end ChatRetrieval.Completions
