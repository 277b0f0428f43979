import ChatRetrieval.Json.Basic
import ChatRetrieval.Proofs.Dict

/-!
Lookups by name. Maps and objects are looked up like lists of pairs, where the last pair of a name counts.
-/

namespace ChatRetrieval

section

variable {α : Type} {l : List (String × α)} {k : String}

theorem lookup_cons_eq_ite (k' : String) (v : α) (r : List (String × α)) :
    ((k', v) :: r).lookup k = if k = k' then some v else r.lookup k := by
  rw [List.lookup_cons]
  by_cases hk : k = k'
  · rw [if_pos hk, beq_iff_eq.2 hk]
  · rw [if_neg hk, beq_eq_false_iff_ne.2 hk]

theorem lookup_eq_none_of_notMem (h : k ∉ l.map (·.1)) : l.lookup k = none := by
  rw [List.lookup_eq_none_iff]
  intro p hp
  have hne : k ≠ p.1 := fun hk => h (hk ▸ List.mem_map_of_mem hp)
  exact bne_iff_ne.2 hne

theorem lookup_mapKeyed {β : Type} (f : String → α → β) (k : String) (l : List (String × α)) :
    (l.map fun m => (m.1, f m.1 m.2)).lookup k = (l.lookup k).map (f k) := by
  induction l with
  | nil => rfl
  | cons m r ih =>
    obtain ⟨k', v⟩ := m
    rw [List.map_cons, lookup_cons_eq_ite, lookup_cons_eq_ite, ih]
    split
    · rename_i hk
      rw [hk]
      rfl
    · rfl

theorem lookup_map {β : Type} (f : α → β) (k : String) (l : List (String × α)) :
    (l.map fun m => (m.1, f m.2)).lookup k = (l.lookup k).map f :=
  lookup_mapKeyed (fun _ => f) k l

theorem mem_of_lookup_eq_some {v : α} (h : l.lookup k = some v) : (k, v) ∈ l := by
  obtain ⟨front, rest, rfl, -⟩ := List.lookup_eq_some_iff.1 h
  exact List.mem_append_right _ (List.mem_cons_self ..)

theorem lookup_eq_some_iff_mem (h : (l.map (·.1)).Nodup) {v : α} :
    l.lookup k = some v ↔ (k, v) ∈ l := by
  induction l with
  | nil => simp
  | cons e r ih =>
    obtain ⟨k', v'⟩ := e
    rw [List.map_cons, List.nodup_cons] at h
    rw [lookup_cons_eq_ite, List.mem_cons, Prod.mk.injEq]
    by_cases hk : k = k'
    · have hr : (k, v) ∉ r := fun hm => h.1 (List.mem_map.2 ⟨_, hm, hk⟩)
      simp only [hk, if_true, Option.some.injEq, true_and, hk ▸ hr, or_false, eq_comm]
    · simp only [hk, if_false, false_and, false_or, ih h.2]

theorem lookup_perm {l' : List (String × α)} (hperm : l.Perm l') (h : (l.map (·.1)).Nodup) :
    l.lookup k = l'.lookup k := by
  have h' : (l'.map (·.1)).Nodup := (hperm.map (·.1)).nodup_iff.1 h
  refine Option.ext fun v => ?_
  rw [lookup_eq_some_iff_mem h, lookup_eq_some_iff_mem h', hperm.mem_iff]

theorem lookup_reverse (h : (l.map (·.1)).Nodup) : l.reverse.lookup k = l.lookup k :=
  (lookup_perm (List.reverse_perm l).symm h).symm

theorem lookup_filter {p : String → Bool} (hk : p k = true) (l : List (String × α)) :
    (l.filter fun m => p m.1).lookup k = l.lookup k := by
  induction l with
  | nil => rfl
  | cons m r ih =>
    obtain ⟨k', v⟩ := m
    rw [List.filter_cons, lookup_cons_eq_ite]
    by_cases hkk : k = k'
    · rw [if_pos hkk, ← hkk, if_pos hk, List.lookup_cons_self]
    · rw [if_neg hkk, ← ih]
      split
      · rw [lookup_cons_eq_ite, if_neg hkk]
      · rfl

namespace Dict

theorem findEntry_eq_lookup (k : String) (l : List (String × α)) : findEntry k l = l.lookup k := by
  induction l with
  | nil => rfl
  | cons e r ih =>
    obtain ⟨k', v⟩ := e
    rw [findEntry, lookup_cons_eq_ite, ih]
    simp only [Std.compare_eq_iff_eq]

theorem get?_eq_some_iff {d : Dict String α} {k : String} {v : α} :
    d.get? k = some v ↔ (k, v) ∈ d.entries := by
  rw [get?, findEntry_eq_lookup, lookup_eq_some_iff_mem d.nodup_keys]

theorem mem_keys_iff {d : Dict String α} {k : String} :
    k ∈ d.keys ↔ ∃ v, d.get? k = some v := by
  rw [keys, List.mem_map]
  constructor
  · rintro ⟨⟨_, v⟩, he, rfl⟩
    exact ⟨v, get?_eq_some_iff.2 he⟩
  · rintro ⟨v, hv⟩
    exact ⟨(k, v), get?_eq_some_iff.1 hv, rfl⟩

theorem mem_keys_union {d e : Dict String α} {k : String} :
    k ∈ (d.union e).keys ↔ k ∈ d.keys ∨ k ∈ e.keys := by
  simp only [mem_keys_iff, get?_union]
  cases e.get? k <;> simp

theorem get?_insertMany_eq (d : Dict String α) (l : List (String × α)) (k : String) :
    (d.insertMany l).get? k = (l.reverse.lookup k).or (d.get? k) := by
  induction l generalizing d with
  | nil => rfl
  | cons e r ih =>
    obtain ⟨k', v⟩ := e
    have hstep := ih (d.insert k' v)
    rw [get?_insert] at hstep
    rw [List.reverse_cons, List.lookup_append, lookup_cons_eq_ite, List.lookup_nil]
    refine hstep.trans ?_
    by_cases hk : k = k'
    · simp [hk]
    · simp [hk]

theorem get?_map {β : Type} (f : α → β) (d : Dict String α) (k : String) :
    (d.map f).get? k = (d.get? k).map f := by
  simp only [get?, findEntry_eq_lookup, map, lookup_map]

theorem get?_ofList (l : List (String × α)) (k : String) :
    (Dict.ofList l).get? k = l.reverse.lookup k := by
  rw [ofList, get?_insertMany_eq, get?_empty, Option.or_none]

end Dict

end

namespace Json

theorem get?_ofMembers (l : List (String × Json)) (k : String) :
    (ofMembers l).get? k = l.reverse.lookup k := by
  have hlookup := Dict.get?_ofList l k
  rw [Dict.get?, Dict.findEntry_eq_lookup] at hlookup
  rw [ofMembers, get?, lookup_reverse (Dict.nodup_keys _), hlookup]

theorem get?_ofDict (d : Dict String Json) (k : String) : (ofDict d).get? k = d.get? k := by
  rw [ofDict, get?, lookup_reverse d.nodup_keys, Dict.get?, Dict.findEntry_eq_lookup]

theorem get?_ofMembers_append {l : List (String × Json)} (h : (l.map (·.1)).Nodup)
    (extra : Dict String Json) (k : String) :
    (ofMembers (l ++ extra.entries)).get? k = (extra.get? k).or (l.lookup k) := by
  rw [get?_ofMembers, List.reverse_append, List.lookup_append, lookup_reverse extra.nodup_keys,
    lookup_reverse h, Dict.get?, Dict.findEntry_eq_lookup]

theorem get?_ofMembers_append_of_notMem {extra : List (String × Json)} {k : String}
    (h : k ∉ extra.map (·.1)) (l : List (String × Json)) :
    (ofMembers (l ++ extra)).get? k = (ofMembers l).get? k := by
  have hextra : extra.reverse.lookup k = none := lookup_eq_none_of_notMem (by simpa using h)
  rw [get?_ofMembers, get?_ofMembers, List.reverse_append, List.lookup_append, hextra, Option.none_or]

theorem get?_ofMembers_concat (ms : List (String × Json)) (name : String) (v : Json) (k : String) :
    (ofMembers (ms ++ [(name, v)])).get? k = if k = name then some v else (obj ms).get? k := by
  rw [get?_ofMembers, List.reverse_append, List.lookup_append]
  have hlast : [(name, v)].reverse.lookup k = if k = name then some v else none :=
    lookup_cons_eq_ite ..
  rw [hlast]
  split
  · rfl
  · exact Option.none_or

end Json

end ChatRetrieval
