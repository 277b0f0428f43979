import ChatRetrieval.Dict

/-!
Maps are determined by their look-ups. Every operation is described by what it looks up, so the laws
of `union` are laws of `Option.or`.
-/

namespace ChatRetrieval.Dict

universe u v

variable {κ : Type u} {α : Type v} [Ord κ]

theorem findEntry_cons_self [Std.ReflOrd κ] (k : κ) (v : α) (r : List (κ × α)) :
    findEntry k ((k, v) :: r) = some v := by
  simp only [findEntry, Std.ReflCmp.compare_self, if_true]

@[simp] theorem get?_empty (k : κ) : (empty : Dict κ α).get? k = none := rfl

theorem nodup_keys [Std.ReflOrd κ] (d : Dict κ α) : (d.entries.map (·.1)).Nodup := by
  rw [List.Nodup, List.pairwise_map]
  refine d.sorted.imp fun {a b} hlt heq => ?_
  have hself : compare b.1 b.1 = .eq := Std.ReflCmp.compare_self
  rw [heq, hself] at hlt
  cases hlt

theorem findEntry_eq_none {k : κ} {l : List (κ × α)} (h : ∀ e ∈ l, compare k e.1 = .lt) :
    findEntry k l = none := by
  induction l with
  | nil => rfl
  | cons e r ih =>
    have he : compare k e.1 ≠ .eq := by simp [h e (List.mem_cons_self ..)]
    simp only [findEntry, if_neg he]
    exact ih fun e' he' => h e' (List.mem_cons_of_mem _ he')

variable [Std.TransOrd κ]

theorem findEntry_of_lt_head {k : κ} {e : κ × α} {r : List (κ × α)}
    (h : (e :: r).Pairwise fun a b => compare a.1 b.1 = .lt) (hk : compare k e.1 = .lt) :
    findEntry k (e :: r) = none := by
  apply findEntry_eq_none
  intro e' he'
  rcases List.mem_cons.1 he' with rfl | he'
  · exact hk
  · exact Std.TransCmp.lt_trans hk ((List.pairwise_cons.1 h).1 e' he')

variable [Std.LawfulEqOrd κ]

theorem findEntry_insertEntry (k k' : κ) (v : α) (l : List (κ × α)) :
    findEntry k' (insertEntry k v l) = if compare k' k = .eq then some v else findEntry k' l := by
  induction l with
  | nil => rfl
  | cons e r ih =>
    obtain ⟨k₁, v₁⟩ := e
    unfold insertEntry
    split
    · rfl
    · rename_i heq
      obtain rfl := Std.LawfulEqCmp.eq_of_compare heq
      simp only [findEntry]
      split <;> rfl
    · rename_i hgt
      simp only [findEntry, ih]
      by_cases h : compare k' k₁ = .eq
      · obtain rfl := Std.LawfulEqCmp.eq_of_compare h
        have hne : compare k' k ≠ .eq := by
          rw [Std.OrientedCmp.lt_of_gt hgt]
          decide
        simp only [h, if_true, if_neg hne]
      · simp only [if_neg h]

theorem eq_of_findEntry {l m : List (κ × α)} (hl : l.Pairwise fun a b => compare a.1 b.1 = .lt)
    (hm : m.Pairwise fun a b => compare a.1 b.1 = .lt)
    (h : ∀ k, findEntry k l = findEntry k m) : l = m := by
  induction l generalizing m with
  | nil =>
    cases m with
    | nil => rfl
    | cons b s => simpa [findEntry_cons_self, findEntry] using h b.1
  | cons a r ih =>
    obtain ⟨ka, va⟩ := a
    cases m with
    | nil => simpa [findEntry_cons_self, findEntry] using h ka
    | cons b s =>
      obtain ⟨kb, vb⟩ := b
      have hr := List.pairwise_cons.1 hl
      have hs := List.pairwise_cons.1 hm
      -- were the head keys different, the smaller one would be found on one side only
      have hkey : compare ka kb = .eq := by
        cases hc : compare ka kb with
        | eq => rfl
        | lt =>
          have hka := h ka
          rw [findEntry_of_lt_head hm hc, findEntry_cons_self] at hka
          cases hka
        | gt =>
          have hkb := h kb
          rw [findEntry_of_lt_head hl (Std.OrientedCmp.lt_of_gt hc), findEntry_cons_self] at hkb
          cases hkb
      obtain rfl := Std.LawfulEqCmp.eq_of_compare hkey
      have hv : va = vb := by
        have := h ka
        rwa [findEntry_cons_self, findEntry_cons_self, Option.some.injEq] at this
      subst hv
      have htail : r = s := ih hr.2 hs.2 fun k => by
        by_cases hk : compare k ka = .eq
        · obtain rfl := Std.LawfulEqCmp.eq_of_compare hk
          rw [findEntry_eq_none hr.1, findEntry_eq_none hs.1]
        · simpa only [findEntry, if_neg hk] using h k
      rw [htail]

theorem ext_get? {a b : Dict κ α} (h : ∀ k, a.get? k = b.get? k) : a = b := by
  have he : a.entries = b.entries := eq_of_findEntry a.sorted b.sorted h
  cases a
  cases b
  cases he
  rfl

theorem get?_insert (d : Dict κ α) (k k' : κ) (v : α) :
    (d.insert k v).get? k' = if compare k' k = .eq then some v else d.get? k' :=
  findEntry_insertEntry k k' v d.entries

@[simp] theorem get?_insert_self (d : Dict κ α) (k : κ) (v : α) :
    (d.insert k v).get? k = some v := by
  rw [get?_insert, if_pos Std.ReflCmp.compare_self]

theorem get?_insert_of_ne (d : Dict κ α) {k k' : κ} (v : α) (h : k' ≠ k) :
    (d.insert k v).get? k' = d.get? k' := by
  rw [get?_insert, if_neg fun hc => h (Std.LawfulEqCmp.eq_of_compare hc)]

theorem get?_erase (d : Dict κ α) (k k' : κ) :
    (d.erase k).get? k' = if compare k' k = .eq then none else d.get? k' := by
  simp only [get?, erase]
  induction d.entries with
  | nil => exact (ite_self _).symm
  | cons e r ih =>
    rw [List.filter_cons]
    by_cases he : compare k e.1 = .eq
    · obtain rfl := Std.LawfulEqCmp.eq_of_compare he
      simp only [he, bne_self_eq_false, Bool.false_eq_true, if_false, ih, findEntry]
      split <;> rfl
    · have hkeep : (compare k e.1 != .eq) = true := bne_iff_ne.2 he
      simp only [hkeep, if_true, findEntry, ih]
      by_cases hk : compare k' e.1 = .eq
      · have hne : compare k' k ≠ .eq := fun h =>
          he (Std.LawfulEqCmp.eq_of_compare hk ▸ Std.OrientedCmp.eq_symm h)
        rw [if_pos hk, if_neg hne, if_pos hk]
      · simp only [if_neg hk]

@[simp] theorem get?_erase_self (d : Dict κ α) (k : κ) : (d.erase k).get? k = none := by
  rw [get?_erase, if_pos Std.ReflCmp.compare_self]

theorem get?_erase_of_ne (d : Dict κ α) {k k' : κ} (h : k' ≠ k) :
    (d.erase k).get? k' = d.get? k' := by
  rw [get?_erase, if_neg fun hc => h (Std.LawfulEqCmp.eq_of_compare hc)]

theorem get?_insertMany (d : Dict κ α) {pairs : List (κ × α)}
    (h : pairs.Pairwise fun a b => compare a.1 b.1 = .lt) (k : κ) :
    (d.insertMany pairs).get? k = (findEntry k pairs).or (d.get? k) := by
  induction pairs generalizing d with
  | nil => rfl
  | cons e r ih =>
    obtain ⟨ke, ve⟩ := e
    have hr := List.pairwise_cons.1 h
    have hstep := ih (d.insert ke ve) hr.2
    rw [get?_insert] at hstep
    simp only [insertMany, List.foldl_cons, findEntry] at hstep ⊢
    rw [hstep]
    by_cases hk : compare k ke = .eq
    · obtain rfl := Std.LawfulEqCmp.eq_of_compare hk
      rw [findEntry_eq_none hr.1, if_pos hk, if_pos hk]
      rfl
    · rw [if_neg hk, if_neg hk]

theorem get?_union (d other : Dict κ α) (k : κ) :
    (d.union other).get? k = (other.get? k).or (d.get? k) :=
  get?_insertMany d other.sorted k

theorem union_assoc (a b c : Dict κ α) : (a.union b).union c = a.union (b.union c) :=
  ext_get? fun k => by simp only [get?_union, Option.or_assoc]

theorem union_insert (d other : Dict κ α) (k : κ) (v : α) :
    d.union (other.insert k v) = (d.union other).insert k v :=
  ext_get? fun k' => by
    rw [get?_union, get?_insert, get?_insert, get?_union]
    split <;> rfl

theorem insert_union {other : Dict κ α} {k : κ} (h : other.get? k = none) (d : Dict κ α) (v : α) :
    (d.insert k v).union other = (d.union other).insert k v :=
  ext_get? fun k' => by
    rw [get?_union, get?_insert, get?_insert, get?_union]
    split
    · rename_i hk
      rw [Std.LawfulEqCmp.eq_of_compare hk, h, Option.none_or]
    · rfl

@[simp] theorem union_empty (d : Dict κ α) : d.union empty = d := rfl

@[simp] theorem empty_union (d : Dict κ α) : empty.union d = d :=
  ext_get? fun k => by simp only [get?_union, get?_empty, Option.or_none]

omit [Std.TransOrd κ] [Std.LawfulEqOrd κ] in
theorem map_id (d : Dict κ α) : d.map id = d := by
  cases d
  simp [map]

theorem ofList_entries (d : Dict κ α) : ofList d.entries = d := empty_union d

theorem mem_insertMany {d : Dict κ α} {pairs : List (κ × α)} {e : κ × α}
    (h : e ∈ (d.insertMany pairs).entries) : e ∈ d.entries ∨ e ∈ pairs := by
  induction pairs generalizing d with
  | nil => exact Or.inl h
  | cons p rest ih =>
    rcases ih h with h | h
    · rcases mem_insertEntry h with rfl | h
      · exact Or.inr (List.mem_cons_self ..)
      · exact Or.inl h
    · exact Or.inr (List.mem_cons_of_mem _ h)

theorem mem_ofList {pairs : List (κ × α)} {e : κ × α} (h : e ∈ (ofList pairs).entries) :
    e ∈ pairs :=
  (mem_insertMany h).resolve_left List.not_mem_nil

omit [Std.TransOrd κ] in
theorem perm_insertEntry {k : κ} (v : α) {l : List (κ × α)} (h : k ∉ l.map (·.1)) :
    (insertEntry k v l).Perm ((k, v) :: l) := by
  induction l with
  | nil => exact .refl _
  | cons e r ih =>
    obtain ⟨k', v'⟩ := e
    rw [List.map_cons, List.mem_cons, not_or] at h
    unfold insertEntry
    split
    · exact .refl _
    · rename_i heq
      exact absurd (Std.LawfulEqCmp.eq_of_compare heq) h.1
    · exact ((ih h.2).cons _).trans (.swap ..)

theorem perm_insertMany (d : Dict κ α) {pairs : List (κ × α)}
    (h : ((pairs ++ d.entries).map (·.1)).Nodup) :
    (d.insertMany pairs).entries.Perm (pairs ++ d.entries) := by
  induction pairs generalizing d with
  | nil => exact .refl _
  | cons e r ih =>
    obtain ⟨k, v⟩ := e
    rw [List.cons_append, List.map_cons, List.nodup_cons] at h
    have hnew : k ∉ d.entries.map (·.1) := fun hk => h.1 (by
      rw [List.map_append]
      exact List.mem_append_right _ hk)
    have hinsert : (r ++ (d.insert k v).entries).Perm ((k, v) :: (r ++ d.entries)) :=
      ((perm_insertEntry v hnew).append_left r).trans List.perm_middle
    refine (ih (d.insert k v) ?_).trans hinsert
    rw [(hinsert.map _).nodup_iff]
    exact List.nodup_cons.2 h

theorem perm_ofList {pairs : List (κ × α)} (h : (pairs.map (·.1)).Nodup) :
    (ofList pairs).entries.Perm pairs := by
  have hnodup : ((pairs ++ (empty : Dict κ α).entries).map (·.1)).Nodup := by
    simpa [empty] using h
  have hperm := perm_insertMany empty hnodup
  simp only [empty, List.append_nil] at hperm
  exact hperm

theorem ofList_of_perm {pairs : List (κ × α)} {d : Dict κ α} (h : pairs.Perm d.entries) :
    ofList pairs = d := by
  have hnodup : (pairs.map (·.1)).Nodup := (h.map _).nodup_iff.2 d.nodup_keys
  have hentries : (ofList pairs).entries = d.entries := by
    refine ((perm_ofList hnodup).trans h).eq_of_pairwise ?_ (ofList pairs).sorted d.sorted
    intro a b _ _ hab hba
    exact absurd (Std.OrientedCmp.gt_of_lt hab) (by rw [hba]; decide)
  exact (ofList_entries _).symm.trans (hentries ▸ ofList_entries d)

end ChatRetrieval.Dict
