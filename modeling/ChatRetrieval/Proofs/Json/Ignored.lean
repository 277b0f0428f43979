import ChatRetrieval.Proofs.Json.Decode

/-!
What is passed over. Text that is read as a value is skipped to the same place, and a record is read
from the members that it asks for, whatever the others hold.
-/

namespace ChatRetrieval

namespace Json.Reader

theorem length_of_hexQuad {cs r : List Char} {n : Nat} (h : hexQuad cs = some (n, r)) :
    cs.length = r.length + 4 := by
  unfold hexQuad at h
  split at h
  · simp only [Option.bind_eq_bind, Option.bind_eq_some_iff] at h
    obtain ⟨_, -, _, -, _, -, _, -, heq⟩ := h
    cases heq
    rfl
  · cases h

/-- The second half of a pair is an escape of its own to who skips it. -/
theorem skipEscape_of_escape {cs r : List Char} {c : Char} (h : escape cs = some (c, r)) :
    (skipEscape cs = some r ∧ r.length < cs.length) ∨
      ∃ low, skipEscape cs = some ('\\' :: low) ∧ skipEscape low = some r ∧
        r.length < low.length ∧ low.length < cs.length := by
  unfold escape at h
  split at h
  case h_9 t =>
    obtain ⟨⟨unit, s⟩, hunit, h⟩ := Option.bind_eq_some_iff.1 h
    have hlength := length_of_hexQuad hunit
    have hskip : skipEscape ('u' :: t) = some s := by rw [skipEscape, hunit, Option.map_some]
    dsimp only at h
    split at h
    · cases h
    split at h
    · split at h
      · rename_i m
        obtain ⟨⟨low, w⟩, hlow, h⟩ := Option.bind_eq_some_iff.1 h
        have hlength' := length_of_hexQuad hlow
        simp only [Option.pure_def, Option.ite_none_right_eq_some, Option.some.injEq,
          Prod.mk.injEq] at h
        obtain ⟨-, -, rfl⟩ := h
        refine Or.inr ⟨'u' :: m, hskip, by rw [skipEscape, hlow, Option.map_some], ?_, ?_⟩
        · simp only [List.length_cons]
          omega
        · simp only [List.length_cons] at hlength ⊢
          omega
      · cases h
    · cases h
      refine Or.inl ⟨hskip, ?_⟩
      simp only [List.length_cons]
      omega
  case h_10 => cases h
  all_goals
    cases h
    exact Or.inl ⟨rfl, Nat.lt_succ_self _⟩

theorem skipString_of_stringBody {fuel fuel' : Nat} {acc cs r : List Char} {s : String}
    (h : stringBody fuel acc cs = some (s, r)) (hfuel : cs.length < fuel') :
    skipString fuel' cs = some r := by
  induction fuel generalizing acc cs fuel' with
  | zero => cases h
  | succ fuel ih =>
    obtain _ | fuel' := fuel'
    · cases hfuel
    cases cs with
    | nil => cases h
    | cons c t =>
      have ht : t.length < fuel' := Nat.lt_of_succ_lt_succ hfuel
      rw [stringBody] at h
      rw [skipString]
      split at h
      · rename_i hquote
        cases h
        exact if_pos hquote
      rename_i hquote
      rw [if_neg hquote]
      split at h
      · rename_i hslash
        rw [if_pos hslash]
        split at h
        · rename_i e w hescape
          rcases skipEscape_of_escape hescape with ⟨hskip, hw⟩ | ⟨low, hskip, hlow, hw, hlength⟩
          · rw [hskip, Option.bind_some]
            exact ih h (hw.trans ht)
          · obtain _ | fuel' := fuel'
            · cases ht
            rw [hskip, Option.bind_some, skipString, if_neg (show '\\' ≠ '"' by decide), if_pos rfl,
              hlow, Option.bind_some]
            exact ih h (by omega)
        · cases h
      rename_i hslash
      rw [if_neg hslash]
      split at h
      · cases h
      rename_i hcontrol
      rw [if_neg hcontrol]
      exact ih h ht

/-- With so much fuel the skipping readers end where the reading ones do. -/
structure SkipsAt (fuel : Nat) : Prop where
  value : ∀ {depth cs v r}, Reader.value fuel depth cs = some (v, r) → skip fuel cs = some r
  items : ∀ {depth acc cs xs r}, Reader.items fuel depth acc cs = some (xs, r) →
    skipItems fuel cs = some r
  members : ∀ {depth acc cs ms r}, Reader.members fuel depth acc cs = some (ms, r) →
    skipMembers fuel cs = some r

section

variable {fuel depth : Nat} {cs r : List Char} (h : SkipsAt fuel)
include h

theorem SkipsAt.value_succ {v : Json} (hv : Reader.value (fuel + 1) depth cs = some (v, r)) :
    skip (fuel + 1) cs = some r := by
  rw [Reader.value] at hv
  rw [skip]
  split at hv
  case h_1 => cases hv
  case h_2 =>
    obtain ⟨⟨s, r'⟩, hs, heq⟩ := Option.map_eq_some_iff.1 hv
    cases heq
    exact skipString_of_stringBody hs (Nat.lt_succ_self _)
  case h_3 =>
    split at hv
    · cases hv
    split at hv
    · cases hv
      rfl
    · obtain ⟨⟨xs, r'⟩, hxs, heq⟩ := Option.map_eq_some_iff.1 hv
      cases heq
      exact h.items hxs
  case h_4 =>
    split at hv
    · cases hv
    split at hv
    · cases hv
      rfl
    · obtain ⟨⟨ms, r'⟩, hms, heq⟩ := Option.map_eq_some_iff.1 hv
      cases heq
      exact h.members hms
  case h_8 =>
    obtain ⟨⟨l, r'⟩, hl, hvalue⟩ := Option.bind_eq_some_iff.1 hv
    obtain ⟨w, -, heq⟩ := Option.bind_eq_some_iff.1 hvalue
    cases heq
    rw [hl, Option.map_some]
  all_goals
    -- the three words
    obtain ⟨_, hword, heq⟩ := Option.map_eq_some_iff.1 hv
    cases heq
    exact hword

theorem SkipsAt.orIllegible {v : Json}
    (hv : Reader.orIllegible fuel cs (Reader.value fuel depth cs) = some (v, r)) :
    skip fuel cs = some r := by
  rcases orIllegible_eq_some hv with hread | ⟨-, hskip⟩
  · exact h.value hread
  · exact hskip

theorem SkipsAt.items_succ {acc xs : List Json}
    (hxs : Reader.items (fuel + 1) depth acc cs = some (xs, r)) :
    skipItems (fuel + 1) cs = some r := by
  rw [Reader.items] at hxs
  rw [skipItems]
  split at hxs
  · cases hxs
  rename_i x r' hx
  simp only [h.orIllegible hx]
  split at hxs
  · exact h.items hxs
  · cases hxs
    rfl
  · cases hxs

theorem SkipsAt.members_succ {acc ms : List (String × Json)}
    (hms : Reader.members (fuel + 1) depth acc cs = some (ms, r)) :
    skipMembers (fuel + 1) cs = some r := by
  rw [Reader.members] at hms
  rw [skipMembers]
  split at hms
  case h_2 => cases hms
  split at hms
  · cases hms
  rename_i k _ hk
  simp only [skipString_of_stringBody hk (Nat.lt_succ_self _)]
  split at hms
  case h_2 => cases hms
  split at hms
  · cases hms
  rename_i x r' hx
  simp only [h.orIllegible hx]
  split at hms
  · exact h.members hms
  · cases hms
    rfl
  · cases hms

end

theorem skipsAt (fuel : Nat) : SkipsAt fuel := by
  induction fuel with
  | zero => exact ⟨nofun, nofun, nofun⟩
  | succ fuel ih => exact ⟨ih.value_succ, ih.items_succ, ih.members_succ⟩

/-- Skipping refuses no text that is read, and goes no further than reading it does. -/
theorem skip_of_value {fuel depth : Nat} {cs r : List Char} {v : Json}
    (h : value fuel depth cs = some (v, r)) : skip fuel cs = some r :=
  (skipsAt fuel).value h

/-- Half a surrogate pair is no character, yet what holds it may be passed over. -/
example : value 1 0 ['"', '\\', 'u', 'd', '8', '0', '0', '"'] = none ∧
    skip 1 ['"', '\\', 'u', 'd', '8', '0', '0', '"'] = some [] := by decide

end Json.Reader

namespace Decode

theorem occurrences_filter {names : List String} {name : String} (h : name ∈ names)
    (ms : List (String × Json)) :
    occurrences name (ms.filter fun m => names.contains m.1) = occurrences name ms := by
  rw [occurrences, occurrences, List.filter_filter]
  refine congrArg List.length (List.filter_congr fun m _ => ?_)
  by_cases hm : m.1 = name
  · simp [hm, h]
  · simp [hm]

/-- Members that no field asks for have no say in the record, whatever they hold. -/
theorem record_congr {names : List String} {ms ns : List (String × Json)}
    (h : (ms.filter fun m => names.contains m.1) = ns.filter fun n => names.contains n.1) :
    record names (.obj ms) = record names (.obj ns) := by
  have hoccurrences : ∀ k ∈ names, occurrences k ms = occurrences k ns := fun k hk => by
    rw [← occurrences_filter hk ms, h, occurrences_filter hk ns]
  have hrepeated : (names.any fun k => 1 < occurrences k ms) =
      names.any fun k => 1 < occurrences k ns := by
    rw [Bool.eq_iff_iff, List.any_eq_true, List.any_eq_true]
    exact exists_congr fun k => and_congr_right fun hk => by rw [hoccurrences k hk]
  rw [record, record, hrepeated, h]

end Decode

end ChatRetrieval
