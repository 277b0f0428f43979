import ChatRetrieval.Proofs.Message.Join

/-!
Merged calls described by the pieces of each index. The description determines the merge, and a single
pass that keeps a table of the places of its calls comes to the same without ever looking outside them.
-/

namespace ChatRetrieval

def firstText (texts : List String) : String := (texts.find? (· ≠ "")).getD ""

theorem firstText_cons (a : String) (texts : List String) :
    firstText (a :: texts) = firstNonEmpty a (firstText texts) := by
  by_cases ha : a = "" <;> simp [firstText, firstNonEmpty, ha]

theorem foldl_firstNonEmpty (a : String) (texts : List String) :
    texts.foldl firstNonEmpty a = firstText (a :: texts) := by
  induction texts generalizing a with
  | nil => exact (firstNonEmpty_empty a).symm.trans (firstText_cons a []).symm
  | cons b texts ih =>
    rw [List.foldl_cons, ih, firstText_cons, firstNonEmpty_assoc, ← firstText_cons b,
      ← firstText_cons a]

namespace ToolCall

/-- The call that pieces of one index come to. -/
structure JoinOf (pieces : List ToolCall) (call : ToolCall) : Prop where
  arguments : call.arguments = String.join (pieces.map (·.arguments))
  id : call.id = firstText (pieces.map (·.id))
  kind : call.kind = firstText (pieces.map (·.kind))
  name : call.name = firstText (pieces.map (·.name))
  extra : ∀ key, call.extra.get? key = (pieces.filterMap (·.extra.get? key)).getLast?

theorem JoinOf.unique {pieces : List ToolCall} {a b : ToolCall} (ha : JoinOf pieces a)
    (hb : JoinOf pieces b) (hindex : a.index = b.index) : a = b := by
  have hextra : a.extra = b.extra := Dict.ext_get? fun key => (ha.extra key).trans (hb.extra key).symm
  cases a
  cases b
  rw [ToolCall.mk.injEq]
  exact ⟨hindex, ha.id.trans hb.id.symm, ha.kind.trans hb.kind.symm, ha.name.trans hb.name.symm,
    ha.arguments.trans hb.arguments.symm, hextra⟩

theorem arguments_foldl_continued (c : ToolCall) (pieces : List ToolCall) :
    (pieces.foldl continued c).arguments =
      c.arguments ++ String.join (pieces.map (·.arguments)) := by
  induction pieces generalizing c with
  | nil => simp
  | cons p ps ih =>
    rw [List.foldl_cons, ih, List.map_cons, String.join_cons, ← String.append_assoc]
    rfl

theorem extra_foldl_continued (c : ToolCall) (pieces : List ToolCall) (key : String) :
    (pieces.foldl continued c).extra.get? key =
      ((pieces.filterMap (·.extra.get? key)).getLast?).or (c.extra.get? key) := by
  induction pieces generalizing c with
  | nil => rfl
  | cons p ps ih => rw [List.foldl_cons, ih, getLast?_filterMap_cons, continued, Dict.get?_union]

theorem joinOf_foldl_continued (c : ToolCall) (pieces : List ToolCall) :
    JoinOf (c :: pieces) (pieces.foldl continued c) := by
  -- Id, kind and name are kept in the same way.
  have hfield {f : ToolCall → String} (h : ∀ a b, firstNonEmpty (f a) (f b) = f (continued a b)) :
      f (pieces.foldl continued c) = firstText ((c :: pieces).map f) := by
    rw [List.map_cons, ← foldl_firstNonEmpty, List.foldl_map]
    exact (List.foldl_hom f h).symm
  refine ⟨?_, hfield fun _ _ => rfl, hfield fun _ _ => rfl, hfield fun _ _ => rfl, fun key => ?_⟩
  · rw [arguments_foldl_continued, List.map_cons, String.join_cons]
  · rw [extra_foldl_continued, getLast?_filterMap_cons_eq]

/-- The calls are those that the pieces come to: for each index one, where the index first appears, and
in between, as they are, the pieces without index. -/
structure ByIndex (pieces calls : List ToolCall) : Prop where
  places : calls.map (·.index) =
    (pieces.map (·.index)).eraseDupsBy fun a b => a.isSome && a == b
  indexes : calls.filterMap (·.index) = (pieces.filterMap (·.index)).eraseDups
  alone : calls.filter (·.index.isNone) = pieces.filter (·.index.isNone)
  joined : ∀ c ∈ calls, ∀ i, c.index = some i → JoinOf (pieces.filter (·.index == some i)) c

namespace ByIndex

theorem nil : ByIndex [] [] := ⟨rfl, rfl, rfl, fun _ hc => absurd hc List.not_mem_nil⟩

theorem cons_of_none {c : ToolCall} (hc : c.index = none) {pieces calls : List ToolCall}
    (h : ByIndex pieces calls) : ByIndex (c :: pieces) (c :: calls) where
  places := by
    have hkeep : ((pieces.map (·.index)).filter fun b =>
        decide ((b.isSome && b == c.index) = false)) = pieces.map (·.index) := by
      rw [List.filter_eq_self, hc]
      rintro (_ | i) _ <;> rfl
    rw [List.map_cons, List.map_cons, List.eraseDupsBy_cons, hkeep, h.places]
  indexes := by rw [List.filterMap_cons_none hc, List.filterMap_cons_none hc, h.indexes]
  alone := by simp only [List.filter_cons, hc, Option.isNone_none, if_true, h.alone]
  joined := by
    intro d hd i hi
    have hne : (c.index == some i) = false := by rw [hc]; rfl
    rw [List.filter_cons, hne]
    rcases List.mem_cons.1 hd with rfl | hd
    · rw [hc] at hi
      cases hi
    · exact h.joined d hd i hi

theorem cons_of_some {c : ToolCall} {i : Nat} (hc : c.index = some i) {pieces calls : List ToolCall}
    (h : ByIndex (pieces.filter (·.index != some i)) calls) :
    ByIndex (c :: pieces)
      ((pieces.filter (·.index == some i)).foldl continued c :: calls) where
  places := by
    have hleave : ((pieces.map (·.index)).filter fun b =>
        decide ((b.isSome && b == c.index) = false)) =
        (pieces.filter (·.index != some i)).map (·.index) := by
      rw [List.filter_map, hc]
      congr 1
      apply List.filter_congr
      intro p _
      cases hp : p.index with
      | none => simp [hp]
      | some j => by_cases hj : j = i <;> simp [hp, hj]
    rw [List.map_cons, List.map_cons, List.eraseDupsBy_cons, hleave, index_foldl_continued, h.places]
  indexes := by
    have hleave : (pieces.filter (·.index != some i)).filterMap (·.index) =
        (pieces.filterMap (·.index)).filter (!· == i) := by
      rw [List.filter_filterMap, List.filterMap_filter]
      congr 1
      funext p
      cases hp : p.index with
      | none => simp
      | some j => by_cases hj : j = i <;> simp [hj, Option.filter_some]
    rw [List.filterMap_cons_some ((index_foldl_continued _ c).trans hc), List.filterMap_cons_some hc,
      List.eraseDups_cons, h.indexes, hleave]
  alone := by
    have hleave : (pieces.filter (·.index != some i)).filter (·.index.isNone) =
        pieces.filter (·.index.isNone) := by
      rw [List.filter_filter]
      apply List.filter_congr
      intro p _
      cases hp : p.index <;> simp
    simp only [List.filter_cons, index_foldl_continued, hc, h.alone, hleave, Option.isNone_some,
      Bool.false_eq_true, if_false]
  joined := by
    intro d hd j hj
    rcases List.mem_cons.1 hd with rfl | hd
    · rw [index_foldl_continued, hc, Option.some.injEq] at hj
      subst hj
      simp only [List.filter_cons, hc, BEq.rfl, if_true]
      exact joinOf_foldl_continued c _
    · have hother : j ≠ i := by
        rintro rfl
        have hmem : j ∈ calls.filterMap (·.index) := List.mem_filterMap.2 ⟨d, ‹d ∈ calls›, hj⟩
        rw [h.indexes, List.mem_eraseDups] at hmem
        obtain ⟨p, hp, hpj⟩ := List.mem_filterMap.1 hmem
        simp [hpj] at hp
      have hpieces := h.joined d hd j hj
      have hkeep : (pieces.filter (·.index != some i)).filter (·.index == some j) =
          (c :: pieces).filter (·.index == some j) := by
        rw [List.filter_filter, List.filter_cons, if_neg (by simp [hc, Ne.symm hother])]
        apply List.filter_congr
        intro p _
        by_cases hp : p.index = some j <;> simp [hp, hother]
      rwa [hkeep] at hpieces

theorem unique {pieces a b : List ToolCall} (ha : ByIndex pieces a) (hb : ByIndex pieces b) :
    a = b := by
  have hplaces := ha.places.trans hb.places.symm
  have halone := ha.alone.trans hb.alone.symm
  have hsame : ∀ c ∈ a, ∀ d ∈ b, c.index.isSome → c.index = d.index → c = d := by
    intro c hc d hd hsome hindex
    obtain ⟨i, hi⟩ := Option.isSome_iff_exists.1 hsome
    exact (ha.joined c hc i hi).unique (hb.joined d hd i (hindex ▸ hi)) hindex
  clear ha hb
  induction a generalizing b with
  | nil => exact (List.map_eq_nil_iff.1 hplaces.symm).symm
  | cons c a ih =>
    cases b with
    | nil => cases hplaces
    | cons d b =>
      obtain ⟨hindex, hplaces⟩ := List.cons.inj hplaces
      have hrest : ∀ c ∈ a, ∀ d ∈ b, c.index.isSome → c.index = d.index → c = d :=
        fun c hc d hd => hsame c (List.mem_cons_of_mem _ hc) d (List.mem_cons_of_mem _ hd)
      cases hc : c.index with
      | none =>
        simp only [List.filter_cons, ← hindex, hc, Option.isNone_none, if_true,
          List.cons.injEq] at halone
        rw [halone.1, ih hplaces halone.2 hrest]
      | some i =>
        simp only [List.filter_cons, ← hindex, hc, Option.isNone_some, Bool.false_eq_true,
          if_false] at halone
        rw [hsame c (List.mem_cons_self ..) d (List.mem_cons_self ..) (hc ▸ rfl) hindex,
          ih hplaces halone hrest]

end ByIndex

theorem byIndex_merge : (pieces : List ToolCall) → ByIndex pieces (merge pieces)
  | [] => .nil
  | c :: pieces => by
    cases h : c.index with
    | none =>
      rw [merge_cons_of_none h]
      exact (byIndex_merge pieces).cons_of_none h
    | some i =>
      rw [merge_cons_of_some h]
      exact (byIndex_merge (pieces.filter (·.index != some i))).cons_of_some h
  termination_by pieces => pieces.length
  decreasing_by
    · simp only [List.length_cons, Nat.lt_succ_self]
    · exact Nat.lt_succ_of_le (List.length_filter_le _ pieces)

theorem getElem?_concat_eq_some {α : Type} {l : List α} {a b : α} {n : Nat} :
    (l ++ [a])[n]? = some b ↔ l[n]? = some b ∨ n = l.length ∧ a = b := by
  grind

/-- Calls put together in one pass, with the places of those that have an index. -/
structure Table where
  calls : List ToolCall
  places : Dict Nat Nat

namespace Table

/-- Takes a piece in, if the place that the table gives for it is one of a call. -/
def add? (t : Table) (piece : ToolCall) : Option Table :=
  match piece.index with
  | none => some { t with calls := t.calls ++ [piece] }
  | some i =>
    match t.places.get? i with
    | none => some ⟨t.calls ++ [piece], t.places.insert i t.calls.length⟩
    | some place => t.calls[place]?.map fun call =>
      { t with calls := t.calls.set place (call.continued piece) }

/-- The calls that pieces come to, if no place is ever missed. -/
def merge? (pieces : List ToolCall) : Option (List ToolCall) :=
  (pieces.foldlM add? ⟨[], Dict.empty⟩).map (·.calls)

/-- The table has the place of every call with an index, and no other. -/
def InStep (t : Table) : Prop :=
  ∀ i place, t.places.get? i = some place ↔ (t.calls.map (·.index))[place]? = some (some i)

variable {t : Table} (h : t.InStep) {piece : ToolCall} {i place : Nat}
include h

theorem InStep.add?_of_none (hp : piece.index = none) :
    ∃ t', t.add? piece = some t' ∧ t'.InStep ∧ t'.calls = mergeInto t.calls piece := by
  refine ⟨{ t with calls := t.calls ++ [piece] }, by simp only [add?, hp], fun i place => ?_,
    (mergeInto_of_none hp t.calls).symm⟩
  rw [h i place, List.map_append, List.map_singleton, getElem?_concat_eq_some, hp]
  simp only [reduceCtorEq, and_false, or_false]

theorem InStep.add?_of_new (hp : piece.index = some i) (hi : t.places.get? i = none) :
    ∃ t', t.add? piece = some t' ∧ t'.InStep ∧ t'.calls = mergeInto t.calls piece := by
  have hnew : ¬ HasIndex t.calls i := by
    rintro ⟨c, hc, hci⟩
    obtain ⟨place, hplace⟩ := List.mem_iff_getElem?.1 (List.mem_map_of_mem (f := (·.index)) hc)
    rw [hci, ← h i place, hi] at hplace
    cases hplace
  refine ⟨⟨t.calls ++ [piece], t.places.insert i t.calls.length⟩, by simp only [add?, hp, hi],
    fun j place => ?_, (mergeInto_of_not_hasIndex hp hnew).symm⟩
  rw [List.map_append, List.map_singleton, getElem?_concat_eq_some, hp, List.length_map, ← h j place]
  by_cases hj : j = i
  · subst hj
    simp [hi, eq_comm]
  · simp [Dict.get?_insert_of_ne _ _ hj, Ne.symm hj]

theorem InStep.set_eq_continueAt (hplace : t.places.get? i = some place) {c : ToolCall}
    (hc : t.calls[place]? = some c) :
    t.calls.set place (c.continued piece) = continueAt i t.calls piece := by
  apply List.ext_getElem?
  intro n
  rw [List.getElem?_set, continueAt, List.getElem?_map]
  have hat := h i n
  rw [hplace, List.getElem?_map, Option.some.injEq] at hat
  by_cases hn : place = n
  · subst hn
    have hlt := (List.getElem?_eq_some_iff.1 hc).1
    have hci : c.index = some i := by simpa [hc] using hat
    simp only [if_true, hlt, hc, Option.map_some, hci, BEq.rfl]
  · rw [if_neg hn]
    cases hd : t.calls[n]? with
    | none => rfl
    | some d =>
      have hdi : d.index ≠ some i := fun hdi => hn (hat.2 (by rw [hd, Option.map_some, hdi]))
      simp only [Option.map_some, beq_iff_eq, if_neg hdi]

theorem InStep.add?_of_place (hp : piece.index = some i) (hi : t.places.get? i = some place) :
    ∃ t', t.add? piece = some t' ∧ t'.InStep ∧ t'.calls = mergeInto t.calls piece := by
  have hat := (h i place).1 hi
  rw [List.getElem?_map, Option.map_eq_some_iff] at hat
  obtain ⟨c, hc, hci⟩ := hat
  have hset : t.calls.set place (c.continued piece) = continueAt i t.calls piece :=
    h.set_eq_continueAt hi hc
  refine ⟨{ t with calls := t.calls.set place (c.continued piece) }, ?_, fun j n => ?_, ?_⟩
  · simp only [add?, hp, hi, hc, Option.map_some]
  · have hindexes : (continueAt i t.calls piece).map (·.index) = t.calls.map (·.index) := by
      rw [continueAt, List.map_map]
      apply List.map_congr_left
      intro d _
      simp only [Function.comp_apply]
      split <;> rfl
    rw [hset, hindexes]
    exact h j n
  · rw [mergeInto_of_hasIndex hp ⟨c, List.mem_of_getElem? hc, hci⟩]
    exact hset

theorem InStep.add? (piece : ToolCall) :
    ∃ t', t.add? piece = some t' ∧ t'.InStep ∧ t'.calls = mergeInto t.calls piece := by
  cases hp : piece.index with
  | none => exact h.add?_of_none hp
  | some i =>
    cases hi : t.places.get? i with
    | none => exact h.add?_of_new hp hi
    | some place => exact h.add?_of_place hp hi

theorem InStep.foldlM_add? (pieces : List ToolCall) :
    ∃ t', pieces.foldlM Table.add? t = some t' ∧ t'.calls = pieces.foldl mergeInto t.calls := by
  induction pieces generalizing t with
  | nil => exact ⟨t, rfl, rfl⟩
  | cons p ps ih =>
    obtain ⟨t', hadd, hstep, hcalls⟩ := h.add? p
    obtain ⟨t'', hrest, hall⟩ := ih hstep
    exact ⟨t'', by rw [List.foldlM_cons, hadd]; exact hrest, by rw [hall, hcalls, List.foldl_cons]⟩

omit h in
/-- The pass never misses a place and comes to the merged calls. -/
theorem merge?_eq (pieces : List ToolCall) : merge? pieces = some (merge pieces) := by
  have hstart : (⟨[], Dict.empty⟩ : Table).InStep := fun _ _ => by simp
  obtain ⟨t, hrun, hcalls⟩ := hstart.foldlM_add? pieces
  rw [merge?, hrun, Option.map_some, hcalls]
  rfl

end Table

/-- However a stream is cut into messages, its calls are those that the description of its pieces
determines, and the pass with a table of places comes to them without missing a place. -/
theorem concat_byIndex {r : Role} {chunks : List Message} (hne : chunks ≠ [])
    (hrole : ∀ m ∈ chunks, m.role = r) :
    ∃ m, Message.concat chunks = .ok m ∧
      (∀ calls, ByIndex (chunks.flatMap (·.toolCalls)) calls ↔ calls = m.toolCalls) ∧
      Table.merge? (chunks.flatMap (·.toolCalls)) = some m.toolCalls := by
  have hconcat := Message.concat_eq_foldl_join hne hrole
  rw [Message.foldl_join_blank] at hconcat
  have hmerge := byIndex_merge (chunks.flatMap (·.toolCalls))
  exact ⟨_, hconcat, fun calls => ⟨fun h => h.unique hmerge, fun h => h ▸ hmerge⟩,
    Table.merge?_eq _⟩

theorem concat_byIndex_interleaved :
    let chunks : List Message := [
      .assistant "" [⟨some 7, "", "function", "", "[", .ofList [("k", .int 1)]⟩,
        .function "u" "g" "\x7b\x7d"],
      .assistant "" [⟨some 2, "b", "function", "h", "0", .empty⟩,
        ⟨some 7, "a", "", "f", "1]", .ofList [("k", .int 2)]⟩]]
    chunks ≠ [] ∧ (∀ m ∈ chunks, m.role = .assistant) ∧
    ∃ m, Message.concat chunks = .ok m ∧
      ByIndex (chunks.flatMap (·.toolCalls)) m.toolCalls ∧
      m.toolCalls = [⟨some 7, "a", "function", "f", "[1]", .ofList [("k", .int 2)]⟩,
        .function "u" "g" "\x7b\x7d", ⟨some 2, "b", "function", "h", "0", .empty⟩] := by
  intro chunks
  have hne : chunks ≠ [] := List.cons_ne_nil _ _
  have hrole : ∀ m ∈ chunks, m.role = .assistant := by decide
  obtain ⟨m, hm, hiff, htable⟩ := concat_byIndex hne hrole
  exact ⟨hne, hrole, m, hm, (hiff m.toolCalls).2 rfl, Option.some.inj (htable.symm.trans (by decide))⟩

end ToolCall

end ChatRetrieval
