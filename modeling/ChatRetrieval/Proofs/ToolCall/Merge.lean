import ChatRetrieval.Message.Concat
import ChatRetrieval.Proofs.Dict

/-!
Merging streamed tool calls. A piece without index stands for itself; the pieces of one index become
one call at the place of the first of them, so merging may be done in parts.
-/

namespace ChatRetrieval

theorem firstNonEmpty_assoc (a b c : String) :
    firstNonEmpty (firstNonEmpty a b) c = firstNonEmpty a (firstNonEmpty b c) := by
  unfold firstNonEmpty
  by_cases ha : a.isEmpty <;> simp only [ha, if_true, if_false, Bool.false_eq_true]

@[simp] theorem firstNonEmpty_empty (a : String) : firstNonEmpty a "" = a := by
  unfold firstNonEmpty
  split
  · rename_i ha
    exact (String.isEmpty_iff.1 ha).symm
  · rfl

@[simp] theorem firstNonEmpty_self (a : String) : firstNonEmpty a a = a := ite_self a

namespace ToolCall

theorem continued_assoc (a b c : ToolCall) :
    (a.continued b).continued c = a.continued (b.continued c) := by
  simp only [continued, firstNonEmpty_assoc, String.append_assoc, Dict.union_assoc]

@[simp] theorem index_continued (call piece : ToolCall) :
    (call.continued piece).index = call.index := rfl

def HasIndex (calls : List ToolCall) (i : Nat) : Prop := ∃ c ∈ calls, c.index = some i

def continueAt (i : Nat) (calls : List ToolCall) (piece : ToolCall) : List ToolCall :=
  calls.map fun c => if c.index == some i then c.continued piece else c

theorem any_index_iff (calls : List ToolCall) (i : Nat) :
    (calls.any fun c => c.index == some i) = true ↔ HasIndex calls i := by
  simp only [List.any_eq_true, beq_iff_eq, HasIndex]

theorem mergeInto_of_none {piece : ToolCall} (h : piece.index = none) (calls : List ToolCall) :
    mergeInto calls piece = calls ++ [piece] := by
  simp only [mergeInto, h]

theorem mergeInto_of_hasIndex {calls : List ToolCall} {piece : ToolCall} {i : Nat}
    (h : piece.index = some i) (hi : HasIndex calls i) :
    mergeInto calls piece = continueAt i calls piece := by
  simp only [mergeInto, h, (any_index_iff calls i).2 hi, if_true, continueAt]

theorem mergeInto_of_not_hasIndex {calls : List ToolCall} {piece : ToolCall} {i : Nat}
    (h : piece.index = some i) (hi : ¬ HasIndex calls i) :
    mergeInto calls piece = calls ++ [piece] := by
  rw [← any_index_iff] at hi
  simp only [mergeInto, h, if_neg hi]

theorem hasIndex_continueAt {calls : List ToolCall} {i j : Nat} {piece : ToolCall} :
    HasIndex (continueAt i calls piece) j ↔ HasIndex calls j := by
  simp only [HasIndex, continueAt, List.mem_map]
  constructor
  · rintro ⟨_, ⟨c, hc, rfl⟩, hj⟩
    refine ⟨c, hc, ?_⟩
    split at hj <;> exact hj
  · rintro ⟨c, hc, hj⟩
    refine ⟨_, ⟨c, hc, rfl⟩, ?_⟩
    split <;> exact hj

theorem hasIndex_singleton {c : ToolCall} {i : Nat} : HasIndex [c] i ↔ c.index = some i := by
  simp only [HasIndex, List.mem_singleton, exists_eq_left]

theorem hasIndex_append_singleton {calls : List ToolCall} {piece : ToolCall} {j : Nat} :
    HasIndex (calls ++ [piece]) j ↔ HasIndex calls j ∨ piece.index = some j := by
  simp only [HasIndex, List.mem_append, List.mem_singleton, or_and_right, exists_or, exists_eq_left]

theorem hasIndex_mergeInto {calls : List ToolCall} {piece : ToolCall} {j : Nat} :
    HasIndex (mergeInto calls piece) j ↔ HasIndex calls j ∨ piece.index = some j := by
  cases h : piece.index with
  | none => rw [mergeInto_of_none h, hasIndex_append_singleton, h]
  | some i =>
    by_cases hi : HasIndex calls i
    · rw [mergeInto_of_hasIndex h hi, hasIndex_continueAt]
      constructor
      · exact Or.inl
      · rintro (hj | hj)
        · exact hj
        · obtain rfl := Option.some.inj hj
          exact hi
    · rw [mergeInto_of_not_hasIndex h hi, hasIndex_append_singleton, h]

theorem continueAt_append (i : Nat) (calls more : List ToolCall) (piece : ToolCall) :
    continueAt i (calls ++ more) piece = continueAt i calls piece ++ continueAt i more piece :=
  List.map_append

theorem continueAt_of_not_hasIndex {calls : List ToolCall} {i : Nat} (h : ¬ HasIndex calls i)
    (piece : ToolCall) : continueAt i calls piece = calls := by
  have hid : ∀ c ∈ calls, (if c.index == some i then c.continued piece else c) = c := by
    intro c hc
    have hci : c.index ≠ some i := fun hci => h ⟨c, hc, hci⟩
    simp only [beq_iff_eq, if_neg hci]
  exact (List.map_congr_left hid).trans (List.map_id' calls)

theorem continueAt_comm {i j : Nat} (hij : i ≠ j) (calls : List ToolCall) (p q : ToolCall) :
    continueAt j (continueAt i calls p) q = continueAt i (continueAt j calls q) p := by
  simp only [continueAt, List.map_map]
  apply List.map_congr_left
  intro c _
  simp only [Function.comp_apply, beq_iff_eq]
  by_cases hi : c.index = some i
  · have hj : c.index ≠ some j := fun hj => hij (Option.some.inj (hi.symm.trans hj))
    simp only [if_pos hi, index_continued, if_neg hj]
  · by_cases hj : c.index = some j
    · simp only [if_neg hi, if_pos hj, index_continued]
    · simp only [if_neg hi, if_neg hj]

theorem continueAt_continued (i : Nat) (calls : List ToolCall) (p q : ToolCall) :
    continueAt i (continueAt i calls p) q = continueAt i calls (p.continued q) := by
  simp only [continueAt, List.map_map]
  apply List.map_congr_left
  intro c _
  simp only [Function.comp_apply, beq_iff_eq]
  by_cases hi : c.index = some i
  · simp only [if_pos hi, index_continued, continued_assoc]
  · simp only [if_neg hi]

theorem mergeInto_continueAt {i : Nat} {piece : ToolCall} (h : piece.index ≠ some i)
    (calls : List ToolCall) (p : ToolCall) :
    mergeInto (continueAt i calls p) piece = continueAt i (mergeInto calls piece) p := by
  have happend : continueAt i calls p ++ [piece] = continueAt i (calls ++ [piece]) p := by
    rw [continueAt_append, continueAt_of_not_hasIndex (mt hasIndex_singleton.1 h)]
  cases hp : piece.index with
  | none => rw [mergeInto_of_none hp, mergeInto_of_none hp, happend]
  | some j =>
    have hij : i ≠ j := by
      rintro rfl
      exact h hp
    by_cases hj : HasIndex calls j
    · rw [mergeInto_of_hasIndex hp (hasIndex_continueAt.2 hj), mergeInto_of_hasIndex hp hj,
        continueAt_comm hij]
    · rw [mergeInto_of_not_hasIndex hp (mt hasIndex_continueAt.1 hj),
        mergeInto_of_not_hasIndex hp hj, happend]

theorem foldl_continueAt_mergeInto {i : Nat} {piece : ToolCall} (h : piece.index ≠ some i)
    (more calls : List ToolCall) :
    more.foldl (continueAt i) (mergeInto calls piece) =
      mergeInto (more.foldl (continueAt i) calls) piece := by
  induction more generalizing calls with
  | nil => rfl
  | cons p ps ih => rw [List.foldl_cons, List.foldl_cons, ← mergeInto_continueAt h, ih]

theorem foldl_mergeInto_of_hasIndex {i : Nat} (pieces : List ToolCall) {calls : List ToolCall}
    (hi : HasIndex calls i) :
    pieces.foldl mergeInto calls =
      (pieces.filter fun p => p.index != some i).foldl mergeInto
        ((pieces.filter fun p => p.index == some i).foldl (continueAt i) calls) := by
  induction pieces generalizing calls with
  | nil => rfl
  | cons p ps ih =>
    by_cases hp : p.index = some i
    · have hi' : HasIndex (continueAt i calls p) i := hasIndex_continueAt.2 hi
      have hrest := ih hi'
      simp only [List.foldl_cons, List.filter_cons, hp, BEq.rfl, bne_self_eq_false, if_true,
        if_false, Bool.false_eq_true, mergeInto_of_hasIndex hp hi, hrest]
    · have hne : (p.index == some i) = false := beq_eq_false_iff_ne.2 hp
      have hrest := ih (hasIndex_mergeInto.2 (Or.inl hi) : HasIndex (mergeInto calls p) i)
      simp only [List.foldl_cons, List.filter_cons, bne, hne, Bool.not_false, if_true, if_false,
        Bool.false_eq_true] at hrest ⊢
      rw [hrest, foldl_continueAt_mergeInto hp]

theorem foldl_mergeInto_cons {c : ToolCall} {pieces : List ToolCall}
    (h : ∀ p ∈ pieces, ∀ i, p.index = some i → c.index ≠ some i) (calls : List ToolCall) :
    pieces.foldl mergeInto (c :: calls) = c :: pieces.foldl mergeInto calls := by
  induction pieces generalizing calls with
  | nil => rfl
  | cons p ps ih =>
    have hstep : mergeInto (c :: calls) p = c :: mergeInto calls p := by
      cases hp : p.index with
      | none => rw [mergeInto_of_none hp, mergeInto_of_none hp, List.cons_append]
      | some i =>
        have hc : c.index ≠ some i := h p (List.mem_cons_self ..) i hp
        by_cases hi : HasIndex calls i
        · have hi' : HasIndex (c :: calls) i := hi.imp fun _ hd => ⟨List.mem_cons_of_mem _ hd.1, hd.2⟩
          rw [mergeInto_of_hasIndex hp hi', mergeInto_of_hasIndex hp hi]
          simp only [continueAt, List.map_cons, beq_iff_eq, if_neg hc]
        · have hi' : ¬ HasIndex (c :: calls) i := by
            rintro ⟨d, hd, hdi⟩
            rcases List.mem_cons.1 hd with rfl | hd
            · exact hc hdi
            · exact hi ⟨d, hd, hdi⟩
          rw [mergeInto_of_not_hasIndex hp hi', mergeInto_of_not_hasIndex hp hi, List.cons_append]
    rw [List.foldl_cons, List.foldl_cons, hstep]
    exact ih (fun q hq => h q (List.mem_cons_of_mem _ hq)) _

theorem merge_cons_of_none {c : ToolCall} (h : c.index = none) (pieces : List ToolCall) :
    merge (c :: pieces) = c :: merge pieces := by
  have hfresh : ∀ p ∈ pieces, ∀ i, p.index = some i → c.index ≠ some i := fun _ _ _ _ => by
    simp only [h, ne_eq, reduceCtorEq, not_false_eq_true]
  rw [merge, List.foldl_cons, mergeInto_of_none h, List.nil_append, foldl_mergeInto_cons hfresh,
    merge]

theorem index_foldl_continued (pieces : List ToolCall) (c : ToolCall) :
    (pieces.foldl continued c).index = c.index := by
  induction pieces generalizing c with
  | nil => rfl
  | cons p ps ih => rw [List.foldl_cons, ih, index_continued]

theorem foldl_continueAt_singleton {c : ToolCall} {i : Nat} (h : c.index = some i)
    (pieces : List ToolCall) :
    pieces.foldl (continueAt i) [c] = [pieces.foldl continued c] := by
  induction pieces generalizing c with
  | nil => rfl
  | cons p ps ih =>
    have hone : continueAt i [c] p = [c.continued p] := by
      simp only [continueAt, List.map_cons, List.map_nil, h, BEq.rfl, if_true]
    rw [List.foldl_cons, List.foldl_cons, hone, ih ((index_continued c p).trans h)]

/-- The first piece of an index takes in all later ones. -/
theorem merge_cons_of_some {c : ToolCall} {i : Nat} (h : c.index = some i)
    (pieces : List ToolCall) :
    merge (c :: pieces) =
      (pieces.filter fun p => p.index == some i).foldl continued c ::
        merge (pieces.filter fun p => p.index != some i) := by
  have hindex := index_foldl_continued (pieces.filter fun p => p.index == some i) c
  have hfold := foldl_continueAt_singleton h (pieces.filter fun p => p.index == some i)
  have hnil : ¬ HasIndex [] i := fun ⟨_, hd, _⟩ => List.not_mem_nil hd
  rw [merge, List.foldl_cons, mergeInto_of_not_hasIndex h hnil, List.nil_append,
    foldl_mergeInto_of_hasIndex _ (hasIndex_singleton.2 h), hfold, foldl_mergeInto_cons, merge]
  intro p hp j hj hij
  rw [hindex, h] at hij
  obtain rfl := Option.some.inj hij
  simp [hj] at hp

theorem mergeInto_foldl_continued {c : ToolCall} {i : Nat} (h : c.index = some i)
    (calls pieces : List ToolCall) :
    mergeInto calls (pieces.foldl continued c) =
      pieces.foldl (continueAt i) (mergeInto calls c) := by
  induction pieces generalizing c with
  | nil => rfl
  | cons p ps ih =>
    have hp : (c.continued p).index = some i := h
    have hstep : mergeInto calls (c.continued p) = continueAt i (mergeInto calls c) p := by
      by_cases hi : HasIndex calls i
      · rw [mergeInto_of_hasIndex hp hi, mergeInto_of_hasIndex h hi, continueAt_continued]
      · rw [mergeInto_of_not_hasIndex hp hi, mergeInto_of_not_hasIndex h hi, continueAt_append,
          continueAt_of_not_hasIndex hi]
        exact congrArg (calls ++ ·) (foldl_continueAt_singleton h [p]).symm
    rw [List.foldl_cons, List.foldl_cons, ih hp, hstep]

/-- Pieces may be merged among themselves before they come in. -/
theorem foldl_mergeInto_merge (calls : List ToolCall) : (pieces : List ToolCall) →
    (merge pieces).foldl mergeInto calls = pieces.foldl mergeInto calls
  | [] => rfl
  | c :: ps => by
    cases h : c.index with
    | none =>
      rw [merge_cons_of_none h, List.foldl_cons, List.foldl_cons, foldl_mergeInto_merge _ ps]
    | some i =>
      have hi : HasIndex (mergeInto calls c) i := hasIndex_mergeInto.2 (Or.inr h)
      -- All pieces of one index leave at once, so the recursion is on the number of pieces.
      rw [merge_cons_of_some h, List.foldl_cons, List.foldl_cons,
        foldl_mergeInto_merge _ (ps.filter fun p => p.index != some i),
        mergeInto_foldl_continued h, foldl_mergeInto_of_hasIndex ps hi]
  termination_by pieces => pieces.length
  decreasing_by
    · simp only [List.length_cons, Nat.lt_succ_self]
    · exact Nat.lt_succ_of_le (List.length_filter_le _ ps)

theorem merge_merge (pieces : List ToolCall) : merge (merge pieces) = merge pieces :=
  foldl_mergeInto_merge [] pieces

theorem merge_eq_of_pieces {calls pieces : List ToolCall} (hsome : ∀ c ∈ calls, c.index.isSome)
    (horder : (pieces.map (·.index)).eraseDups = calls.map (·.index))
    (hcut : ∀ c ∈ calls, ∃ first rest, pieces.filter (fun p => p.index == c.index) = first :: rest ∧
      rest.foldl continued first = c) :
    merge pieces = calls := by
  induction calls generalizing pieces with
  | nil =>
    cases pieces with
    | nil => rfl
    | cons p ps => simp [List.eraseDups_cons] at horder
  | cons c cs ih =>
    cases pieces with
    | nil => simp at horder
    | cons p ps =>
      obtain ⟨i, hi⟩ := Option.isSome_iff_exists.1 (hsome c (List.mem_cons_self ..))
      simp only [List.map_cons, List.eraseDups_cons, List.cons.injEq, List.filter_map] at horder
      obtain ⟨hpc, horder⟩ := horder
      have hp : p.index = some i := hpc.trans hi
      -- Every index appears first only once, so the other calls are the merge of the other pieces.
      have hother : ∀ d ∈ cs, d.index ≠ some i := by
        intro d hd hdi
        have hmem : d.index ∈ cs.map (·.index) := List.mem_map_of_mem hd
        rw [← horder, List.mem_eraseDups] at hmem
        obtain ⟨q, hq, hqd⟩ := List.mem_map.1 hmem
        simp [hqd, hdi, hp] at hq
      obtain ⟨first, rest, hfilter, hfold⟩ := hcut c (List.mem_cons_self ..)
      simp only [hi, List.filter_cons, hp, BEq.rfl, if_true, List.cons.injEq] at hfilter
      obtain ⟨rfl, rfl⟩ := hfilter
      rw [merge_cons_of_some hp, hfold]
      congr 1
      refine ih (fun d hd => hsome d (List.mem_cons_of_mem _ hd)) ?_ fun d hd => ?_
      · rw [← horder, hp]
        rfl
      · obtain ⟨first, rest, hfilter, hfold⟩ := hcut d (List.mem_cons_of_mem _ hd)
        refine ⟨first, rest, ?_, hfold⟩
        have hdi : (p.index == d.index) = false := by
          rw [hp, beq_eq_false_iff_ne]
          exact (hother d hd).symm
        simp only [← hfilter, List.filter_filter, List.filter_cons, hdi, Bool.false_eq_true, if_false]
        apply List.filter_congr
        intro q _
        by_cases hq : q.index = d.index
        · simp [hq, hother d hd]
        · simp [hq]

end ToolCall

end ChatRetrieval
