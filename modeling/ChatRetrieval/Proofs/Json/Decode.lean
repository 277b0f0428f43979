import ChatRetrieval.Json.Decode
import ChatRetrieval.Proofs.Json.Lookup
import ChatRetrieval.Proofs.Json.RoundTrip
import ChatRetrieval.Proofs.Number.Exact
import Mathlib.Data.List.Forall2
import Mathlib.Data.List.Perm.Basic

/-!
Decoders. What is written as a value is read from it, and what is read tells the shape of the value.
-/

namespace ChatRetrieval.Decode

theorem natural_ofNat {bits n : Nat} (h : n < 2 ^ bits) : natural bits (.ofNat n) = some n := by
  have hrange : (0 : Int) ≤ n ∧ (n : Int) ≤ (Nat.pow 2 bits : Int) - 1 := by
    rw [Nat.pow_eq]
    omega
  simp only [natural, Json.ofNat, whole, if_pos hrange, Option.map_some, Int.toNat_natCast]

theorem lt_of_natural {bits n : Nat} {j : Json} (h : natural bits j = some n) : n < 2 ^ bits := by
  obtain ⟨i, hi, rfl⟩ := Option.map_eq_some_iff.1 h
  unfold whole at hi
  split at hi
  · split at hi
    · rename_i hrange
      cases hi
      rw [Nat.pow_eq] at hrange
      omega
    · cases hi
  · cases hi

def InInt64 (n : Int) : Prop := -2 ^ 63 ≤ n ∧ n < 2 ^ 63

instance (n : Int) : Decidable (InInt64 n) := inferInstanceAs (Decidable (_ ∧ _))

theorem int64_int {n : Int} (h : InInt64 n) : int64 (.int n) = some n := by
  have hrange : -(Nat.pow 2 63 : Int) ≤ n ∧ n ≤ (Nat.pow 2 63 : Int) - 1 := by
    rw [Nat.pow_eq]
    unfold InInt64 at h
    omega
  exact if_pos hrange

theorem int64Key_signedDecimal {n : Int} (h : InInt64 n) :
    int64Key (Text.signedDecimal n) = some n := by
  have htext : (Text.signedDecimal n).toList = Json.intText n := by
    unfold Text.signedDecimal Json.intText Text.decimal
    split <;> simp
  have hwhole : Json.Number.StaysWhole n := by
    unfold Json.Number.StaysWhole Json.Number.maxSignificand
    unfold InInt64 at h
    split <;> simp only [Nat.pow_eq] <;> omega
  rw [int64Key, htext, Json.Number.read_intText hwhole]
  exact int64_int h

theorem double_ofDouble {d : Double} (h : d.isFinite = true) : double (.ofDouble d) = some d := by
  rw [Json.ofDouble, if_pos h]
  rfl

theorem single_ofSingle {s : Single} (h : s.isFinite = true) : single (.ofSingle s) = some s := by
  rw [Json.ofSingle, Json.ofDouble, if_pos (Single.isFinite_toDouble h)]
  exact congrArg some (Single.toSingle_toDouble h)

theorem isLegible_of_single {j : Json} {s : Single} (h : single j = some s) : j.isLegible = true := by
  cases j with
  | int | float => rfl
  | _ => cases h

theorem any_of_canonical {j : Json} (h : j.canonical = j) : any j = some j :=
  Json.legible?_of_canonical h

theorem any_eq_some {j v : Json} (h : any j = some v) : j.canonical = v :=
  (Json.legible?_eq_some h).2

theorem canonical_of_any {j v : Json} (h : any j = some v) : v.canonical = v :=
  any_eq_some h ▸ j.canonical_canonical

theorem buffered_eq_some {α : Type} {d : Decoder α} {j : Json} {a : α}
    (h : buffered d j = some a) : d j = some a := by
  unfold buffered at h
  split at h
  · exact h
  · cases h

theorem buffered_of_isLegible {α : Type} {d : Decoder α} {j : Json} (h : j.isLegible = true) :
    buffered d j = d j := if_pos h

theorem members_any_eq_some {ms ns : List (String × Json)} (h : members any ms = some ns) :
    ms.map (fun m => (m.1, m.2.canonical)) = ns := by
  induction ms generalizing ns with
  | nil =>
    cases h
    rfl
  | cons m r ih =>
    obtain ⟨k, x⟩ := m
    obtain ⟨y, hy, h⟩ := Option.bind_eq_some_iff.1 h
    obtain ⟨rest, hrest, h⟩ := Option.bind_eq_some_iff.1 h
    cases h
    rw [List.map_cons, ih hrest, any_eq_some hy]

theorem members_any_of_canonical {ms : List (String × Json)} (h : ∀ m ∈ ms, m.2.canonical = m.2) :
    members any ms = some ms := by
  induction ms with
  | nil => rfl
  | cons m r ih =>
    obtain ⟨k, x⟩ := m
    rw [members, any_of_canonical (h _ (List.mem_cons_self ..)),
      ih fun n hn => h n (List.mem_cons_of_mem _ hn)]
    rfl

section

variable {α : Type} {d : Decoder α} {encode : α → Json}

theorem option_of_ne_null {j : Json} (h : j ≠ .null) : option d j = (d j).map some := by
  cases j with
  | null => exact absurd rfl h
  | _ => rfl

theorem option_eq_some {j : Json} {a : Option α} (h : option d j = some a) :
    (j = .null ∧ a = none) ∨ ∃ b, a = some b ∧ d j = some b := by
  by_cases hnull : j = .null
  · subst hnull
    cases h
    exact Or.inl ⟨rfl, rfl⟩
  · rw [option_of_ne_null hnull] at h
    obtain ⟨b, hb, rfl⟩ := Option.map_eq_some_iff.1 h
    exact Or.inr ⟨b, rfl, hb⟩

theorem oneOf_obj_eq_none (names : List (String × α)) {ms : List (String × Json)}
    (h : ms.length ≠ 1) : oneOf names (.obj ms) = none := by
  unfold oneOf
  split
  · rename_i heq
    cases heq
  · rename_i heq
    cases heq
    exact absurd rfl h
  · rfl

theorem list_eq_some {j : Json} {l : List α} (h : list d j = some l) :
    ∃ xs, j = .arr xs ∧ items d xs = some l := by
  cases j with
  | arr xs => exact ⟨xs, rfl, h⟩
  | _ => cases h

theorem oneOrMany_eq_some {j : Json} {l : List α} (h : oneOrMany d j = some l) :
    (∃ xs, j = .arr xs ∧ items d xs = some l) ∨ ∃ a, l = [a] ∧ d j = some a := by
  replace h := buffered_eq_some h
  split at h
  · rename_i hlist
    cases h
    exact Or.inl (list_eq_some hlist)
  · obtain ⟨a, ha, rfl⟩ := Option.map_eq_some_iff.1 h
    exact Or.inr ⟨a, rfl, ha⟩

theorem items_map {l : List α} (h : ∀ a ∈ l, d (encode a) = some a) :
    items d (l.map encode) = some l := by
  induction l with
  | nil => rfl
  | cons a r ih =>
    rw [List.map_cons, items, h a (List.mem_cons_self ..),
      ih fun b hb => h b (List.mem_cons_of_mem _ hb)]
    rfl

theorem members_map_eq {β : Type} {d : Decoder β} {g : α → β} {ms : List (String × α)}
    (h : ∀ m ∈ ms, d (encode m.2) = some (g m.2)) :
    members d (ms.map fun m => (m.1, encode m.2)) = some (ms.map fun m => (m.1, g m.2)) := by
  induction ms with
  | nil => rfl
  | cons m r ih =>
    rw [List.map_cons, members, h m (List.mem_cons_self ..),
      ih fun n hn => h n (List.mem_cons_of_mem _ hn)]
    rfl

theorem dict_ofDict_eq {β : Type} {d : Decoder β} (g : α → β) {m : Dict String α}
    (h : ∀ e ∈ m.entries, d (encode e.2) = some (g e.2)) :
    dict d (.ofDict (m.map encode)) = some (m.map g) := by
  rw [Json.ofDict, dict, Dict.map, members_map_eq h, Option.map_some]
  exact congrArg some (Dict.ofList_entries (m.map g))

theorem dict_ofDict {m : Dict String α} (h : ∀ e ∈ m.entries, d (encode e.2) = some e.2) :
    dict d (.ofDict (m.map encode)) = some m :=
  (dict_ofDict_eq id h).trans (congrArg some m.map_id)

theorem intMembers_of_forall₂ {ms : List (String × Json)} {ns : List (Int × α)}
    (h : List.Forall₂ (fun m n => int64Key m.1 = some n.1 ∧ d m.2 = some n.2) ms ns) :
    intMembers d ms = some ns := by
  induction h with
  | nil => rfl
  | @cons m n ms ns hmn _ ih =>
    rw [intMembers, hmn.1, hmn.2, ih]
    rfl

theorem intDict_ofMembers {m : Dict Int α} (hkeys : ∀ e ∈ m.entries, InInt64 e.1)
    (h : ∀ e ∈ m.entries, d (encode e.2) = some e.2) :
    intDict d (.ofMembers (m.entries.map fun e => (Text.signedDecimal e.1, encode e.2))) = some m := by
  have hread : List.Forall₂ (fun x n => int64Key x.1 = some n.1 ∧ d x.2 = some n.2)
      (m.entries.map fun e => (Text.signedDecimal e.1, encode e.2)) m.entries := by
    rw [List.forall₂_map_left_iff, List.forall₂_same]
    exact fun e he => ⟨int64Key_signedDecimal (hkeys e he), h e he⟩
  have hnodup : ((m.entries.map fun e => (Text.signedDecimal e.1, encode e.2)).map (·.1)).Nodup := by
    have hne : m.entries.Pairwise fun a b => a.1 ≠ b.1 := List.pairwise_map.1 m.nodup_keys
    rw [List.map_map, List.Nodup, List.pairwise_map]
    refine hne.imp_of_mem fun {a b} ha hb hab heq => hab ?_
    have hkey := congrArg int64Key heq
    rw [Function.comp, Function.comp, int64Key_signedDecimal (hkeys a ha),
      int64Key_signedDecimal (hkeys b hb)] at hkey
    exact Option.some.inj hkey
  obtain ⟨ns, hns, hperm⟩ := List.perm_comp_forall₂ (Dict.perm_ofList hnodup) hread
  rw [Json.ofMembers, intDict, intMembers_of_forall₂ hns, Option.map_some, Dict.ofList_of_perm hperm]

theorem items_eq_some {xs : List Json} {ys : List α} (h : items d xs = some ys) :
    List.Forall₂ (fun x y => d x = some y) xs ys := by
  induction xs generalizing ys with
  | nil =>
    cases h
    exact .nil
  | cons x r ih =>
    obtain ⟨y, hy, h⟩ := Option.bind_eq_some_iff.1 h
    obtain ⟨rest, hrest, h⟩ := Option.bind_eq_some_iff.1 h
    cases h
    exact .cons hy (ih hrest)

theorem exists_of_mem_items {xs : List Json} {l : List α} (h : items d xs = some l) {a : α}
    (ha : a ∈ l) : ∃ x ∈ xs, d x = some a := by
  have hall := items_eq_some h
  clear h
  induction hall with
  | nil => cases ha
  | @cons x b xs l hx _ ih =>
    rcases List.mem_cons.1 ha with rfl | ha
    · exact ⟨x, List.mem_cons_self .., hx⟩
    · obtain ⟨y, hy, hya⟩ := ih ha
      exact ⟨y, List.mem_cons_of_mem _ hy, hya⟩

theorem members_eq_some {ms : List (String × Json)} {ns : List (String × α)}
    (h : members d ms = some ns) :
    List.Forall₂ (fun m n => m.1 = n.1 ∧ d m.2 = some n.2) ms ns := by
  induction ms generalizing ns with
  | nil =>
    cases h
    exact .nil
  | cons m r ih =>
    obtain ⟨k, x⟩ := m
    obtain ⟨y, hy, h⟩ := Option.bind_eq_some_iff.1 h
    obtain ⟨rest, hrest, h⟩ := Option.bind_eq_some_iff.1 h
    cases h
    exact .cons ⟨rfl, hy⟩ (ih hrest)

theorem lookup_members {ms : List (String × Json)} {ns : List (String × α)}
    (h : List.Forall₂ (fun m n => m.1 = n.1 ∧ d m.2 = some n.2) ms ns) {k : String} {v : Json}
    (hv : ms.lookup k = some v) : ∃ a, ns.lookup k = some a ∧ d v = some a := by
  induction h with
  | nil => cases hv
  | @cons m n ms ns hmn _ ih =>
    obtain ⟨k₁, x⟩ := m
    obtain ⟨k₂, y⟩ := n
    obtain ⟨rfl, hxy⟩ := hmn
    rw [lookup_cons_eq_ite] at hv ⊢
    split at hv
    · rename_i hk
      cases hv
      exact ⟨y, if_pos hk, hxy⟩
    · rename_i hk
      rw [if_neg hk]
      exact ih hv

theorem dict_eq_some {j : Json} {m : Dict String α} (h : dict d j = some m) :
    j.isObject = true ∧ ∀ k v, j.get? k = some v → ∃ a, m.get? k = some a ∧ d v = some a := by
  unfold dict at h
  split at h
  · rename_i ms
    obtain ⟨ns, hns, rfl⟩ := Option.map_eq_some_iff.1 h
    refine ⟨rfl, fun k v hv => ?_⟩
    rw [Dict.get?_ofList]
    exact lookup_members (List.forall₂_reverse_iff.2 (members_eq_some hns)) hv
  · cases h

theorem object_eq_some {j : Json} {m : Dict String Json} (h : object j = some m) :
    j.canonical = .ofDict m ∧ (m.isEmpty = true → j = .obj []) := by
  obtain ⟨hobject, hfound⟩ := dict_eq_some h
  cases j with
  | obj ms =>
    obtain ⟨ns, hns, rfl⟩ := Option.map_eq_some_iff.1 h
    have hmembers := members_any_eq_some hns
    refine ⟨by rw [Json.canonical, Json.canonicalMembers_eq_map, hmembers]; rfl, fun hempty => ?_⟩
    cases ms with
    | nil => rfl
    | cons m r =>
      obtain ⟨k, v⟩ := m
      have hsome : ((Json.obj ((k, v) :: r)).get? k).isSome := by
        rw [Json.get?, List.lookup_isSome_iff]
        exact ⟨(k, v), List.mem_reverse.2 (List.mem_cons_self ..), beq_self_eq_true k⟩
      obtain ⟨x, hx⟩ := Option.isSome_iff_exists.1 hsome
      obtain ⟨a, ha, -⟩ := hfound k x hx
      rw [Dict.get?, List.isEmpty_iff.1 hempty] at ha
      cases ha
  | _ => cases hobject

theorem object_ofDict {m : Dict String Json} (h : ∀ e ∈ m.entries, e.2.canonical = e.2) :
    object (.ofDict m) = some m := by
  rw [Json.ofDict, object, dict, members_any_of_canonical h, Option.map_some, Dict.ofList_entries]

end

end ChatRetrieval.Decode
