import ChatRetrieval.Proofs.ToolCall.Merge

/-!
Concatenation as a fold. Pieces of one role come together one after the other by `Message.join`, a
binary operation on messages, and what the fold gives is known for each field.
-/

namespace ChatRetrieval

theorem getLast?_filterMap_cons {α β : Type} (f : α → Option β) (a : α) (rest : List α)
    (b : Option β) :
    (((a :: rest).filterMap f).getLast?).or b = ((rest.filterMap f).getLast?).or ((f a).or b) := by
  cases ha : f a with
  | none => rw [List.filterMap_cons_none ha, Option.none_or]
  | some c =>
    rw [List.filterMap_cons_some ha, List.getLast?_cons]
    cases (rest.filterMap f).getLast? <;> rfl

theorem getLast?_filterMap_cons_eq {α β : Type} (f : α → Option β) (a : α) (rest : List α) :
    ((a :: rest).filterMap f).getLast? = ((rest.filterMap f).getLast?).or (f a) := by
  simpa only [Option.or_none] using getLast?_filterMap_cons f a rest none

namespace ContentPart

theorem append_text_text (parts : List ContentPart) (a b : String) :
    append (append parts (text a)) (text b) = append parts (text (a ++ b)) := by
  unfold append
  cases parts.getLast? with
  | none => simp only [List.getLast?_concat, List.dropLast_concat]
  | some last =>
    cases last <;>
      simp only [List.getLast?_concat, List.dropLast_concat, String.append_assoc]

theorem append_eq_concat {parts : List ContentPart} {part : ContentPart}
    (h : ∀ a b, parts.getLast? = some (text a) → part ≠ text b) :
    append parts part = parts ++ [part] := by
  unfold append
  split
  · rename_i a b hlast
    exact absurd rfl (h a b hlast)
  · rfl

theorem appendAll_append (parts more : List ContentPart) (part : ContentPart) :
    appendAll parts (append more part) = append (appendAll parts more) part := by
  by_cases h : ∃ a b, more.getLast? = some (text a) ∧ part = text b
  · obtain ⟨a, b, hlast, rfl⟩ := h
    obtain ⟨front, rfl⟩ := List.getLast?_eq_some_iff.1 hlast
    have hfuse : append (front ++ [text a]) (text b) = front ++ [text (a ++ b)] := by
      simp only [append, List.getLast?_concat, List.dropLast_concat]
    rw [hfuse]
    simp only [appendAll, List.foldl_append, List.foldl_cons, List.foldl_nil, append_text_text]
  · have hplain : append more part = more ++ [part] :=
      append_eq_concat fun a b hlast hpart => h ⟨a, b, hlast, hpart⟩
    rw [hplain]
    simp only [appendAll, List.foldl_append, List.foldl_cons, List.foldl_nil]

theorem appendAll_concat_of_ne_text {part : ContentPart} (h : ∀ t, part ≠ text t)
    (parts more : List ContentPart) :
    appendAll parts (more ++ [part]) = appendAll parts more ++ [part] := by
  rw [← append_eq_concat fun _ t _ => h t, appendAll_append, append_eq_concat fun _ t _ => h t]

theorem appendAll_assoc (a b c : List ContentPart) :
    appendAll (appendAll a b) c = appendAll a (appendAll b c) := by
  induction c generalizing b with
  | nil => rfl
  | cons part rest ih =>
    have hstep := ih (append b part)
    rw [appendAll_append] at hstep
    exact hstep

end ContentPart

theorem TokenUsage.max_assoc (a b c : TokenUsage) : (a.max b).max c = a.max (b.max c) := by
  simp only [TokenUsage.max, TokenUsage.mk.injEq]
  exact ⟨Nat.max_assoc .., Nat.max_assoc .., Nat.max_assoc .., Nat.max_assoc .., Nat.max_assoc ..⟩

instance : LE TokenUsage where
  le a b := a.promptTokens ≤ b.promptTokens ∧ a.cachedTokens ≤ b.cachedTokens ∧
    a.completionTokens ≤ b.completionTokens ∧ a.reasoningTokens ≤ b.reasoningTokens ∧
    a.totalTokens ≤ b.totalTokens

theorem TokenUsage.max_eq_right {a b : TokenUsage} (h : a ≤ b) : a.max b = b := by
  obtain ⟨hprompt, hcached, hcompletion, hreasoning, htotal⟩ := h
  cases b
  simp only [TokenUsage.max, TokenUsage.mk.injEq]
  exact ⟨Nat.max_eq_right hprompt, Nat.max_eq_right hcached, Nat.max_eq_right hcompletion,
    Nat.max_eq_right hreasoning, Nat.max_eq_right htotal⟩

theorem TokenUsage.foldl_max {a : TokenUsage} {more : List TokenUsage}
    (h : (a :: more).Pairwise (· ≤ ·)) :
    more.foldl TokenUsage.max a = (a :: more).getLast (List.cons_ne_nil a more) := by
  induction more generalizing a with
  | nil => rfl
  | cons b rest ih =>
    obtain ⟨ha, hrest⟩ := List.pairwise_cons.1 h
    rw [List.foldl_cons, TokenUsage.max_eq_right (ha b (List.mem_cons_self ..)), ih hrest,
      List.getLast_cons (List.cons_ne_nil b rest)]

namespace ResponseMeta

theorem combine_assoc {α : Type} {f : α → α → α} (h : ∀ a b c, f (f a b) c = f a (f b c))
    (a b c : Option α) : combine f (combine f a b) c = combine f a (combine f b c) := by
  cases a <;> cases b <;> cases c <;> simp only [combine, h]

@[simp] theorem combine_none {α : Type} (f : α → α → α) (a : Option α) : combine f a none = a := by
  cases a <;> rfl

@[simp] theorem none_combine {α : Type} (f : α → α → α) (a : Option α) : combine f none a = a := rfl

theorem reason_assoc (p : String → Bool) (a b c : Option String) :
    (c.filter p).or ((b.filter p).or a) = (((c.filter p).or b).filter p).or a := by
  cases hc : c.filter p with
  | none => rfl
  | some r =>
    obtain ⟨_, hr⟩ := Option.filter_eq_some_iff.1 hc
    simp only [Option.some_or, Option.filter_some, hr, if_true]

theorem join_assoc (a b c : ResponseMeta) : (a.join b).join c = a.join (b.join c) := by
  simp only [join, ResponseMeta.mk.injEq]
  exact ⟨reason_assoc _ _ _ _, combine_assoc TokenUsage.max_assoc _ _ _,
    combine_assoc List.append_assoc _ _ _⟩

@[simp] theorem join_empty (a : ResponseMeta) : a.join empty = a := by
  simp only [join, empty, Option.filter_none, Option.none_or, combine_none]

theorem foldl_combine_some {α : Type} (f : α → α → α) (values : List (Option α)) (a : α) :
    values.foldl (combine f) (some a) = some ((values.filterMap id).foldl f a) := by
  induction values generalizing a with
  | nil => rfl
  | cons v vs ih =>
    cases v with
    | none => exact ih a
    | some b => exact ih (f a b)

theorem foldl_combine_none {α : Type} (f : α → α → α) (values : List (Option α)) :
    values.foldl (combine f) none =
      match values.filterMap id with
      | [] => none
      | a :: rest => some (rest.foldl f a) := by
  induction values with
  | nil => rfl
  | cons v vs ih =>
    cases v with
    | none => exact ih
    | some a => exact foldl_combine_some f vs a

theorem foldl_combine_max {counts : List (Option TokenUsage)}
    (h : (counts.filterMap id).Pairwise (· ≤ ·)) :
    counts.foldl (combine TokenUsage.max) none = (counts.filterMap id).getLast? := by
  rw [foldl_combine_none]
  cases hc : counts.filterMap id with
  | nil => rfl
  | cons a rest =>
    rw [hc] at h
    exact (congrArg some (TokenUsage.foldl_max h)).trans (List.getLast?_eq_some_getLast _).symm

theorem finishReason_foldl_join (m : ResponseMeta) (reports : List ResponseMeta) :
    (reports.foldl join m).finishReason =
      ((reports.filterMap fun r => r.finishReason.filter fun t => !t.isEmpty).getLast?).or
        m.finishReason := by
  induction reports generalizing m with
  | nil => rfl
  | cons r rest ih =>
    rw [List.foldl_cons, ih, getLast?_filterMap_cons]
    rfl

theorem usage_foldl_join (m : ResponseMeta) (reports : List ResponseMeta) :
    (reports.foldl join m).usage =
      (reports.map (·.usage)).foldl (combine TokenUsage.max) m.usage := by
  induction reports generalizing m with
  | nil => rfl
  | cons r rest ih => exact ih (m.join r)

theorem logprobs_foldl_join (m : ResponseMeta) (reports : List ResponseMeta) :
    (reports.foldl join m).logprobs =
      (reports.map (·.logprobs)).foldl (combine (· ++ ·)) m.logprobs := by
  induction reports generalizing m with
  | nil => rfl
  | cons r rest ih => exact ih (m.join r)

theorem getD_nonEmpty? (m : ResponseMeta) : m.nonEmpty?.getD empty = m := by
  unfold nonEmpty?
  split
  · rename_i h
    exact h.symm
  · rfl

theorem nonEmpty?_ne_some_empty (m : ResponseMeta) : m.nonEmpty? ≠ some empty := by
  unfold nonEmpty?
  split
  · exact Option.some_ne_none _ |>.symm
  · rename_i h
    exact fun he => h (Option.some.inj he)

end ResponseMeta

namespace Message

/-- What a message reports about the reply, an empty report when it has none. -/
def report (m : Message) : ResponseMeta := m.responseMeta.getD .empty

/-- A message continued by a further piece of it. -/
def join (m piece : Message) : Message where
  role := m.role
  content := m.content ++ piece.content
  userParts := ContentPart.appendAll m.userParts piece.userParts
  assistantParts := ContentPart.appendAll m.assistantParts piece.assistantParts
  reasoning := m.reasoning ++ piece.reasoning
  toolCalls := piece.toolCalls.foldl ToolCall.mergeInto m.toolCalls
  toolCallId := piece.toolCallId.or m.toolCallId
  toolName := piece.toolName.or m.toolName
  responseMeta := (m.report.join piece.report).nonEmpty?
  extra := m.extra.union piece.extra

theorem join_setExtra (m piece : Message) (key : String) (value : Json) :
    m.join (piece.setExtra key value) = (m.join piece).setExtra key value := by
  simp only [join, setExtra, report, Dict.union_insert]

theorem role_foldl_join (m : Message) (pieces : List Message) :
    (pieces.foldl join m).role = m.role := by
  induction pieces generalizing m with
  | nil => rfl
  | cons p ps ih => exact ih (m.join p)

theorem Gathering.finish_add (p : Gathering) (chunk : Message) :
    (p.add chunk).finish = p.finish.join chunk := by
  simp only [finish, add, join, Message.report, ResponseMeta.getD_nonEmpty?, ToolCall.merge,
    List.foldl_append]

theorem gather_eq_ok {r : Role} {ms : List Message} (h : ∀ m ∈ ms, m.role = r) {p : Gathering}
    (hp : p.message.role = r) : gather p ms = .ok (ms.foldl Gathering.add p) := by
  induction ms generalizing p with
  | nil => rfl
  | cons m rest ih =>
    have hm : m.role = p.message.role := (h m (List.mem_cons_self ..)).trans hp.symm
    rw [gather, if_pos hm, List.foldl_cons]
    exact ih (fun m' hm' => h m' (List.mem_cons_of_mem _ hm')) hp

theorem finish_foldl_add (p : Gathering) (ms : List Message) :
    (ms.foldl Gathering.add p).finish = ms.foldl join p.finish := by
  induction ms generalizing p with
  | nil => rfl
  | cons m rest ih => rw [List.foldl_cons, List.foldl_cons, ih, Gathering.finish_add]

/-- What pieces of a message come to, field by field. -/
def merged (r : Role) (pieces : List Message) : Message where
  role := r
  content := String.join (pieces.map (·.content))
  userParts := ContentPart.appendAll [] (pieces.flatMap (·.userParts))
  assistantParts := ContentPart.appendAll [] (pieces.flatMap (·.assistantParts))
  reasoning := String.join (pieces.map (·.reasoning))
  toolCalls := ToolCall.merge (pieces.flatMap (·.toolCalls))
  toolCallId := (pieces.filterMap (·.toolCallId)).getLast?
  toolName := (pieces.filterMap (·.toolName)).getLast?
  responseMeta := ((pieces.map report).foldl ResponseMeta.join .empty).nonEmpty?
  extra := (pieces.map (·.extra)).foldl Dict.union Dict.empty

theorem Gathering.foldl_add (p : Gathering) (pieces : List Message) :
    pieces.foldl add p = {
      message := { p.message with
        content := p.message.content ++ String.join (pieces.map (·.content))
        userParts := ContentPart.appendAll p.message.userParts (pieces.flatMap (·.userParts))
        assistantParts :=
          ContentPart.appendAll p.message.assistantParts (pieces.flatMap (·.assistantParts))
        reasoning := p.message.reasoning ++ String.join (pieces.map (·.reasoning))
        toolCallId := ((pieces.filterMap (·.toolCallId)).getLast?).or p.message.toolCallId
        toolName := ((pieces.filterMap (·.toolName)).getLast?).or p.message.toolName
        extra := (pieces.map (·.extra)).foldl Dict.union p.message.extra }
      pieces := p.pieces ++ pieces.flatMap (·.toolCalls)
      report := (pieces.map Message.report).foldl ResponseMeta.join p.report } := by
  induction pieces generalizing p with
  | nil => simp [ContentPart.appendAll]
  | cons m rest ih =>
    rw [List.foldl_cons, ih]
    simp only [add, getLast?_filterMap_cons, List.map_cons, List.flatMap_cons, List.foldl_cons,
      String.join_cons, String.append_assoc, List.append_assoc, ContentPart.appendAll,
      List.foldl_append, Message.report]

theorem foldl_join_blank (r : Role) (pieces : List Message) :
    pieces.foldl join (blank r) = merged r pieces := by
  have h := finish_foldl_add ⟨blank r, [], .empty⟩ pieces
  rw [Gathering.foldl_add] at h
  refine Eq.trans h.symm ?_
  simp only [Gathering.finish, merged, blank, String.empty_append, List.nil_append, Option.or_none]

theorem concat_eq_foldl_join {r : Role} {ms : List Message} (hne : ms ≠ [])
    (h : ∀ m ∈ ms, m.role = r) : concat ms = .ok (ms.foldl join (blank r)) := by
  cases ms with
  | nil => exact absurd rfl hne
  | cons first rest =>
    obtain rfl := h first (List.mem_cons_self ..)
    rw [concat, gather_eq_ok h rfl]
    exact congrArg Except.ok (finish_foldl_add _ _)

end Message

end ChatRetrieval
