import ChatRetrieval.Message.Turn
import Mathlib.Data.List.Chain
import Mathlib.Data.List.Induction

/-!
Conversations as turns. The turns of what is said alternate, each has something in it, and they keep
who said what, in order.
-/

namespace ChatRetrieval.Turn

variable {ρ β : Type}

/-- What the turns say, each block with the side that says it. -/
def tagged (turns : List (Turn ρ β)) : List (ρ × β) :=
  turns.flatMap fun t => t.blocks.map fun b => (t.role, b)

/-- Turns of alternating sides, none of them empty. -/
structure IsNormal (turns : List (Turn ρ β)) : Prop where
  nonempty : ∀ t ∈ turns, t.blocks ≠ []
  alternate : turns.IsChain fun a b => a.role ≠ b.role

variable [DecidableEq ρ]

theorem extend_nil (turns : List (Turn ρ β)) (role : ρ) : extend turns role [] = turns := rfl

theorem extend_of_ne_nil (role : ρ) {blocks : List β} (h : blocks ≠ []) :
    extend [] role blocks = [⟨role, blocks⟩] := by
  have hblocks : blocks.isEmpty = false := by rwa [← Bool.not_eq_true, List.isEmpty_iff]
  simp only [extend, hblocks, Bool.false_eq_true, if_false, List.getLast?_nil]

theorem extend_concat (earlier : List (Turn ρ β)) (t : Turn ρ β) (role : ρ) {blocks : List β}
    (h : blocks ≠ []) : extend (earlier ++ [t]) role blocks =
      if t.role = role then earlier ++ [⟨role, t.blocks ++ blocks⟩]
      else earlier ++ [t] ++ [⟨role, blocks⟩] := by
  have hblocks : blocks.isEmpty = false := by rwa [← Bool.not_eq_true, List.isEmpty_iff]
  simp only [extend, hblocks, Bool.false_eq_true, if_false, List.getLast?_concat, List.dropLast_concat]

theorem ofMessages_concat (said : List (ρ × List β)) (s : ρ × List β) :
    ofMessages (said ++ [s]) = extend (ofMessages said) s.1 s.2 := by
  rw [ofMessages, List.foldl_append, List.foldl_cons, List.foldl_nil]
  rfl

theorem ofMessages_singleton (role : ρ) {blocks : List β} (h : blocks ≠ []) :
    ofMessages [(role, blocks)] = [⟨role, blocks⟩] := extend_of_ne_nil role h

theorem tagged_extend (turns : List (Turn ρ β)) (role : ρ) (blocks : List β) :
    tagged (extend turns role blocks) = tagged turns ++ blocks.map fun b => (role, b) := by
  rcases eq_or_ne blocks [] with rfl | hblocks
  · rw [extend_nil, List.map_nil, List.append_nil]
  rcases List.eq_nil_or_concat' turns with rfl | ⟨earlier, t, rfl⟩
  · simp [extend_of_ne_nil role hblocks, tagged]
  · rw [extend_concat earlier t role hblocks]
    split
    · rename_i hrole
      simp [tagged, hrole]
    · simp [tagged]

theorem tagged_ofMessages (said : List (ρ × List β)) :
    tagged (ofMessages said) = said.flatMap fun s => s.2.map fun b => (s.1, b) := by
  induction said using List.reverseRecOn with
  | nil => rfl
  | append_singleton said s ih =>
    rw [ofMessages_concat, tagged_extend, ih, List.flatMap_append, List.flatMap_singleton]

theorem blocks_ofMessages (said : List (ρ × List β)) :
    (ofMessages said).flatMap (·.blocks) = said.flatMap (·.2) := by
  have hblocks := congrArg (List.map Prod.snd) (tagged_ofMessages said)
  simpa [tagged, List.map_flatMap, Function.comp_def] using hblocks

omit [DecidableEq ρ] in
theorem isNormal_concat {earlier : List (Turn ρ β)} {t : Turn ρ β} :
    IsNormal (earlier ++ [t]) ↔
      IsNormal earlier ∧ t.blocks ≠ [] ∧ ∀ last ∈ earlier.getLast?, last.role ≠ t.role := by
  constructor
  · rintro ⟨hnonempty, halternate⟩
    obtain ⟨hearlier, -, hlast⟩ := List.isChain_append.1 halternate
    rw [List.forall_mem_append, List.forall_mem_singleton] at hnonempty
    exact ⟨⟨hnonempty.1, hearlier⟩, hnonempty.2, fun last h => hlast last h t rfl⟩
  · rintro ⟨⟨hnonempty, halternate⟩, hblocks, hlast⟩
    refine ⟨?_, halternate.append (List.isChain_singleton t) ?_⟩
    · rw [List.forall_mem_append, List.forall_mem_singleton]
      exact ⟨hnonempty, hblocks⟩
    · rintro last h _ ⟨⟩
      exact hlast last h

theorem IsNormal.extend {turns : List (Turn ρ β)} (h : IsNormal turns) (role : ρ) (blocks : List β) :
    IsNormal (extend turns role blocks) := by
  rcases eq_or_ne blocks [] with rfl | hblocks
  · exact h
  rcases List.eq_nil_or_concat' turns with rfl | ⟨earlier, t, rfl⟩
  · rw [extend_of_ne_nil role hblocks, ← List.nil_append [_]]
    exact isNormal_concat.2 ⟨h, hblocks, nofun⟩
  · rw [extend_concat earlier t role hblocks]
    obtain ⟨hearlier, -, hlast⟩ := isNormal_concat.1 h
    split
    -- The last turn grows and stays one of its side.
    · rename_i hrole
      refine isNormal_concat.2 ⟨hearlier, List.append_ne_nil_of_right_ne_nil _ hblocks, ?_⟩
      rwa [hrole] at hlast
    · rename_i hrole
      refine isNormal_concat.2 ⟨h, hblocks, ?_⟩
      rw [List.getLast?_concat]
      rintro _ ⟨⟩
      exact hrole

theorem isNormal_ofMessages (said : List (ρ × List β)) : IsNormal (ofMessages said) := by
  induction said using List.reverseRecOn with
  | nil => exact ⟨nofun, List.isChain_nil⟩
  | append_singleton said s ih =>
    rw [ofMessages_concat]
    exact ih.extend s.1 s.2

end ChatRetrieval.Turn
