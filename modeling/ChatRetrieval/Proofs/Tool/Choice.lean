import ChatRetrieval.Proofs.Result
import ChatRetrieval.Tool

/-!
The choice among tools. A choice that was resolved can be followed with the tools there are: a function it
names is one of them, and it leaves the model a choice only where there are several.
-/

namespace ChatRetrieval

namespace ToolChoice

/-- What a choice comes to for these tools, when a forced one is narrowed by the allowed names. -/
inductive ComesTo (allowedNames toolNames : List String) : Option ToolChoice → Option ResolvedChoice → Prop
  | unset : ComesTo allowedNames toolNames none none
  | forbidden : ComesTo allowedNames toolNames (some .forbidden) (some .none)
  | allowed (all : allowedNames = []) : ComesTo allowedNames toolNames (some .allowed) (some .auto)
  | lone {name : String} (all : allowedNames = []) (only : toolNames = [name]) :
      ComesTo allowedNames toolNames (some .forced) (some (.function name))
  | any (all : allowedNames = []) (several : 2 ≤ toolNames.length) :
      ComesTo allowedNames toolNames (some .forced) (some .required)
  | narrowed {name : String} (one : allowedNames = [name]) (known : name ∈ toolNames) :
      ComesTo allowedNames toolNames (some .forced) (some (.function name))

/-- A choice that no tool can satisfy: a call is forced where there is no tool, among several names or by a
name that is no tool's. -/
inductive Unsatisfiable (allowedNames toolNames : List String) : Option ToolChoice → Prop
  | noTools (h : toolNames = []) : Unsatisfiable allowedNames toolNames (some .forced)
  | several (h : 1 < allowedNames.length) : Unsatisfiable allowedNames toolNames (some .forced)
  | unknown {name : String} (allowed : name ∈ allowedNames) (unknown : name ∉ toolNames) :
      Unsatisfiable allowedNames toolNames (some .forced)

variable {allowedNames toolNames : List String} {choice : Option ToolChoice}
  {resolved : Option ResolvedChoice}

theorem resolveForced_eq_ok_iff {r : ResolvedChoice} : resolveForced allowedNames toolNames = .ok r ↔
    ComesTo allowedNames toolNames (some .forced) (some r) := by
  constructor
  · intro h
    unfold resolveForced at h
    split at h
    · cases h
    · cases h
      exact .lone rfl rfl
    · rename_i hnil hlone
      cases h
      refine .any rfl ?_
      match toolNames, hnil, hlone with
      | [], hnil, _ => exact (hnil rfl).elim
      | [tool], _, hlone => exact (hlone tool rfl).elim
      | _ :: _ :: _, _, _ => exact Nat.le_add_left _ _
    · split at h
      · rename_i hknown
        cases h
        exact .narrowed rfl (List.contains_iff_mem.1 hknown)
      · cases h
    · cases h
  · intro h
    cases h with
    | lone all only =>
      rw [all, only]
      rfl
    | any all several =>
      obtain ⟨a, b, rest, rfl⟩ : ∃ a b rest, toolNames = a :: b :: rest := by
        match toolNames, several with
        | a :: b :: rest, _ => exact ⟨a, b, rest, rfl⟩
      rw [all]
      rfl
    | narrowed one known =>
      rw [one]
      match toolNames, known with
      | [a], known =>
        rw [resolveForced, if_pos (List.contains_iff_mem.2 known)]
        all_goals nofun
      | a :: b :: rest, known =>
        rw [resolveForced, if_pos (List.contains_iff_mem.2 known)]
        all_goals nofun

theorem resolve_eq_ok_iff : resolve choice allowedNames toolNames = .ok resolved ↔
    ComesTo allowedNames toolNames choice resolved := by
  match choice with
  | none =>
    constructor
    · rintro ⟨⟩
      exact .unset
    · rintro ⟨⟩
      rfl
  | some .forbidden =>
    constructor
    · rintro ⟨⟩
      exact .forbidden
    · rintro ⟨⟩
      rfl
  | some .allowed =>
    rw [resolve]
    split
    · rename_i hall
      constructor
      · rintro ⟨⟩
        exact .allowed (List.isEmpty_iff.1 hall)
      · rintro ⟨⟩
        rfl
    · rename_i hall
      refine iff_of_false nofun fun h => ?_
      cases h with
      | allowed all => exact hall (List.isEmpty_iff.2 all)
  | some .forced =>
    rw [resolve]
    constructor
    · intro h
      obtain ⟨r, hr, rfl⟩ := Result.map_eq_ok h
      exact resolveForced_eq_ok_iff.1 hr
    · intro h
      cases h with
      | lone all only => rw [resolveForced_eq_ok_iff.2 (.lone all only), Except.map]
      | any all several => rw [resolveForced_eq_ok_iff.2 (.any all several), Except.map]
      | narrowed one known => rw [resolveForced_eq_ok_iff.2 (.narrowed one known), Except.map]

theorem ComesTo.not_unsatisfiable (h : ComesTo allowedNames toolNames choice resolved) :
    ¬Unsatisfiable allowedNames toolNames choice := by
  rintro (hnone | hseveral | ⟨hallowed, hunknown⟩)
  · cases h with
    | lone all only => exact List.cons_ne_nil _ _ (only.symm.trans hnone)
    | any all several =>
      rw [hnone] at several
      cases several
    | narrowed one known =>
      rw [hnone] at known
      cases known
  · cases h with
    | lone all only => simp [all] at hseveral
    | any all several => simp [all] at hseveral
    | narrowed one known => simp [one] at hseveral
  · cases h with
    | lone all only => simp [all] at hallowed
    | any all several => simp [all] at hallowed
    | narrowed one known =>
      rw [one, List.mem_singleton] at hallowed
      exact hunknown (hallowed ▸ known)

end ToolChoice

/-- The functions a model is offered and how it may call them. -/
structure Offer where
  functions : List String
  choice : Option ResolvedChoice

/-- These tools are offered and the choice is one among them. A call is forced just if it was to be. -/
structure Offer.IsSound (toolNames : List String) (choice : Option ToolChoice) (o : Offer) : Prop where
  functions : o.functions = toolNames
  named : ∀ name, o.choice = some (.function name) → name ∈ o.functions
  several : o.choice = some .required → 2 ≤ o.functions.length
  forced : choice = some .forced ↔ o.choice = some .required ∨ ∃ name, o.choice = some (.function name)

theorem ToolChoice.ComesTo.isSound {allowedNames toolNames : List String} {choice : Option ToolChoice}
    {resolved : Option ResolvedChoice} (h : ComesTo allowedNames toolNames choice resolved) :
    Offer.IsSound toolNames choice ⟨toolNames, resolved⟩ := by
  refine ⟨rfl, ?_, ?_, ?_⟩
  · rintro name ⟨⟩
    cases h with
    | lone all only => exact List.mem_of_mem_head? (by rw [only]; rfl)
    | narrowed one known => exact known
  · rintro ⟨⟩
    cases h with
    | any all several => exact several
  · cases h <;> simp

end ChatRetrieval
