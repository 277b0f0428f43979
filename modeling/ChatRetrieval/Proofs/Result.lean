import ChatRetrieval.Failure
import Mathlib.Data.List.Forall2

/-!
Steps that may fail, taken along a list.
-/

namespace ChatRetrieval.Result

theorem eq_ok_of_toOption {α : Type} {r : Result α} {a : α} (h : r.toOption = some a) :
    r = .ok a := by
  cases r with
  | error e => cases h
  | ok b => exact congrArg _ (Option.some.inj h)

theorem exists_ok_of_isOk {α : Type} {r : Result α} (h : r.isOk = true) : ∃ a, r = .ok a := by
  cases r with
  | error e => cases h
  | ok a => exact ⟨a, rfl⟩

theorem bind_eq_ok {α β : Type} {r : Result α} {f : α → Result β} {b : β}
    (h : r >>= f = .ok b) : ∃ a, r = .ok a ∧ f a = .ok b := by
  cases r with
  | error e => cases h
  | ok a => exact ⟨a, rfl, h⟩

theorem bind_eq_error {α β : Type} {r : Result α} {f : α → Result β} {e : Failure}
    (h : r >>= f = .error e) : r = .error e ∨ ∃ a, r = .ok a ∧ f a = .error e := by
  cases r with
  | error e' =>
    cases h
    exact .inl rfl
  | ok a => exact .inr ⟨a, rfl, h⟩

theorem map_eq_ok {α β : Type} {r : Result α} {f : α → β} {b : β}
    (h : r.map f = .ok b) : ∃ a, r = .ok a ∧ f a = b := by
  cases r with
  | error e => cases h
  | ok a => exact ⟨a, rfl, Except.ok.inj h⟩

theorem map_eq_error_iff {α β : Type} {r : Result α} {f : α → β} {e : Failure} :
    r.map f = .error e ↔ r = .error e := by
  cases r with
  | error e' => exact ⟨fun h => by cases h; rfl, fun h => by cases h; rfl⟩
  | ok a => exact iff_of_false nofun nofun

theorem ok_bind {α β : Type} (a : α) (f : α → Result β) : (.ok a : Result α) >>= f = f a := rfl

theorem toOption_bind {α β : Type} (r : Result α) (f : α → Result β) :
    (r >>= f).toOption = r.toOption.bind fun a => (f a).toOption := by
  cases r <;> rfl

theorem toOption_map {α β : Type} (r : Result α) (f : α → β) :
    (r.map f).toOption = r.toOption.map f := by
  cases r <;> rfl

theorem toOption_within {α : Type} (context : String) (r : Result α) :
    (r.within context).toOption = r.toOption := by
  cases r <;> rfl

theorem toOption_ofOption {α : Type} (cause : Cause) (o : Option α) :
    (ofOption cause o).toOption = o := by
  cases o <;> rfl

theorem within_eq_ok_iff {α : Type} {context : String} {r : Result α} {a : α} :
    r.within context = .ok a ↔ r = .ok a := by
  cases r with
  | error e => exact iff_of_false nofun nofun
  | ok b => exact Iff.rfl

theorem isOk_eq_isSome_toOption {α : Type} (r : Result α) : r.isOk = r.toOption.isSome := by
  cases r <;> rfl

theorem isOk_map {α β : Type} (r : Result α) (f : α → β) : (r.map f).isOk = r.isOk := by
  cases r <;> rfl

theorem mapM_map {α β γ : Type} (f : α → Result β) (g : β → γ) (l : List α) :
    (l.mapM fun a => (f a).map g) = (l.mapM f).map (List.map g) := by
  induction l with
  | nil => rfl
  | cons a r ih =>
    rw [List.mapM_cons, List.mapM_cons, ih]
    cases f a with
    | error e => rfl
    | ok b => cases r.mapM f <;> rfl

theorem mapM_eq_ok {α β : Type} {f : α → Result β} {g : α → β} {l : List α}
    (h : ∀ a ∈ l, f a = .ok (g a)) : l.mapM f = .ok (l.map g) := by
  induction l with
  | nil => rfl
  | cons a r ih =>
    rw [List.mapM_cons, h a (List.mem_cons_self ..), ih fun b hb => h b (List.mem_cons_of_mem _ hb)]
    rfl

theorem mapM_eq_ok_iff {α β : Type} {f : α → Result β} {l : List α} {bs : List β} :
    l.mapM f = .ok bs ↔ List.Forall₂ (fun a b => f a = .ok b) l bs := by
  induction l generalizing bs with
  | nil =>
    rw [List.forall₂_nil_left_iff]
    exact ⟨fun h => (Except.ok.inj h).symm, fun h => h ▸ rfl⟩
  | cons a r ih =>
    rw [List.mapM_cons, List.forall₂_cons_left_iff]
    constructor
    · intro h
      obtain ⟨b, hb, h⟩ := bind_eq_ok h
      obtain ⟨cs, hcs, h⟩ := bind_eq_ok h
      exact ⟨b, cs, hb, ih.1 hcs, (Except.ok.inj h).symm⟩
    · rintro ⟨b, cs, hb, hcs, rfl⟩
      rw [hb, ih.2 hcs]
      rfl

theorem mapM_eq_error_iff {α β : Type} {f : α → Result β} {l : List α} {e : Failure} :
    l.mapM f = .error e ↔ ∃ earlier a later, l = earlier ++ a :: later ∧
      (∀ b ∈ earlier, (f b).isOk = true) ∧ f a = .error e := by
  induction l with
  | nil =>
    refine iff_of_false nofun ?_
    rintro ⟨earlier, a, later, hl, -⟩
    exact List.append_ne_nil_of_right_ne_nil earlier (List.cons_ne_nil a later) hl.symm
  | cons a r ih =>
    rw [List.mapM_cons]
    constructor
    · intro h
      rcases bind_eq_error h with ha | ⟨b, hb, h⟩
      · exact ⟨[], a, r, rfl, nofun, ha⟩
      · rcases bind_eq_error h with hr | ⟨bs, -, h⟩
        · obtain ⟨earlier, c, later, rfl, hearlier, hc⟩ := ih.1 hr
          refine ⟨a :: earlier, c, later, rfl, ?_, hc⟩
          rw [List.forall_mem_cons, hb]
          exact ⟨rfl, hearlier⟩
        · cases h
    · rintro ⟨_ | ⟨d, earlier⟩, c, later, hl, hearlier, hc⟩
      · cases hl
        rw [hc]
        rfl
      · cases hl
        rw [List.forall_mem_cons] at hearlier
        obtain ⟨b, hb⟩ := exists_ok_of_isOk hearlier.1
        rw [hb, ok_bind, ih.2 ⟨earlier, c, later, rfl, hearlier.2, hc⟩]
        rfl

theorem isOk_mapM_iff {α β : Type} {f : α → Result β} {l : List α} :
    (l.mapM f).isOk = true ↔ ∀ a ∈ l, (f a).isOk = true := by
  induction l with
  | nil => exact iff_of_true rfl (List.forall_mem_nil _)
  | cons a r ih =>
    rw [List.mapM_cons, List.forall_mem_cons, ← ih]
    cases f a with
    | error e => exact iff_of_false nofun fun h => nomatch h.1
    | ok b => cases r.mapM f <;> exact ⟨fun h => ⟨rfl, h⟩, And.right⟩

theorem mapM_map_mk {α β κ : Type} (k : α → κ) (f : α → Result β) (l : List α) :
    (l.mapM fun a => (f a).map (Prod.mk (k a))) = (l.mapM f).map ((l.map k).zip ·) := by
  induction l with
  | nil => rfl
  | cons a r ih =>
    rw [List.mapM_cons, List.mapM_cons, ih]
    cases f a with
    | error e => rfl
    | ok b => cases r.mapM f <;> rfl

theorem mapM_filterMap {α β γ δ : Type} {pick : α → Option β} {f : β → Result γ} {look : γ → δ}
    {known : α → Option δ} {l : List α}
    (h : ∀ a ∈ l, (pick a = none ∧ known a = none) ∨
      ∃ b c, pick a = some b ∧ f b = .ok c ∧ known a = some (look c)) :
    ∃ cs, (l.filterMap pick).mapM f = .ok cs ∧ cs.map look = l.filterMap known := by
  induction l with
  | nil => exact ⟨[], rfl, rfl⟩
  | cons a r ih =>
    obtain ⟨cs, hcs, hlook⟩ := ih fun b hb => h b (List.mem_cons_of_mem _ hb)
    rcases h a (List.mem_cons_self ..) with ⟨hpick, hknown⟩ | ⟨b, c, hpick, hb, hknown⟩
    · exact ⟨cs, by rw [List.filterMap_cons_none hpick, hcs],
        by rw [List.filterMap_cons_none hknown, hlook]⟩
    · refine ⟨c :: cs, ?_, by rw [List.filterMap_cons_some hknown, List.map_cons, hlook]⟩
      rw [List.filterMap_cons_some hpick, List.mapM_cons, hb, hcs]
      rfl

theorem mapM_filterMap_id_iff {α β : Type} {f : α → Result (Option β)} {p : α → Bool}
    {R : α → β → Prop} {l : List α} (hnone : ∀ a ∈ l, ¬p a = true → f a = .ok none)
    (hsome : ∀ a ∈ l, p a = true → ∀ o, f a = .ok o ↔ ∃ b, o = some b ∧ R a b) {bs : List β} :
    (∃ os, l.mapM f = .ok os ∧ os.filterMap id = bs) ↔ List.Forall₂ R (l.filter p) bs := by
  induction l generalizing bs with
  | nil =>
    rw [List.filter_nil, List.forall₂_nil_left_iff]
    constructor
    · rintro ⟨os, hos, rfl⟩
      cases hos
      rfl
    · rintro rfl
      exact ⟨[], rfl, rfl⟩
  | cons a r ih =>
    rw [List.forall_mem_cons] at hnone hsome
    have hrest {cs : List β} : (∃ os, r.mapM f = .ok os ∧ os.filterMap id = cs) ↔
      List.Forall₂ R (r.filter p) cs := ih hnone.2 hsome.2
    by_cases ha : p a = true
    · have hstep := hsome.1 ha
      rw [List.filter_cons_of_pos ha, List.forall₂_cons_left_iff]
      constructor
      · rintro ⟨os, hos, rfl⟩
        rw [List.mapM_cons] at hos
        obtain ⟨o, ho, hos⟩ := bind_eq_ok hos
        obtain ⟨more, hmore, hos⟩ := bind_eq_ok hos
        cases hos
        obtain ⟨b, rfl, hb⟩ := (hstep o).1 ho
        exact ⟨b, _, hb, hrest.1 ⟨more, hmore, rfl⟩, rfl⟩
      · rintro ⟨b, bs, hb, hbs, rfl⟩
        obtain ⟨more, hmore, rfl⟩ := hrest.2 hbs
        refine ⟨some b :: more, ?_, rfl⟩
        rw [List.mapM_cons, (hstep _).2 ⟨b, rfl, hb⟩, hmore]
        rfl
    · rw [List.filter_cons_of_neg ha, ← hrest, List.mapM_cons, hnone.1 ha, ok_bind]
      constructor
      · rintro ⟨os, hos, rfl⟩
        obtain ⟨more, hmore, hos⟩ := bind_eq_ok hos
        cases hos
        exact ⟨more, hmore, rfl⟩
      · rintro ⟨more, hmore, rfl⟩
        refine ⟨none :: more, ?_, rfl⟩
        rw [hmore]
        rfl

theorem exists_of_mem_forall₂ {α β : Type} {R : α → β → Prop} {l : List α} {l' : List β}
    (h : List.Forall₂ R l l') {a : α} (ha : a ∈ l) : ∃ b ∈ l', R a b := by
  induction h with
  | nil => cases ha
  | @cons c d l l' hcd _ ih =>
    rcases List.mem_cons.1 ha with rfl | ha
    · exact ⟨d, List.mem_cons_self .., hcd⟩
    · obtain ⟨b, hb, hab⟩ := ih ha
      exact ⟨b, List.mem_cons_of_mem _ hb, hab⟩

theorem exists_of_mem_mapM {α β : Type} {f : α → Result β} {l : List α} {bs : List β}
    (hl : l.mapM f = .ok bs) {b : β} (hb : b ∈ bs) : ∃ a ∈ l, f a = .ok b :=
  exists_of_mem_forall₂ (mapM_eq_ok_iff.1 hl).flip hb

theorem flatMap_of_mapM {α β γ : Type} {f : α → Result β} {look : β → List γ} {known : α → List γ}
    {l : List α} {bs : List β} (hl : l.mapM f = .ok bs)
    (h : ∀ a b, f a = .ok b → look b = known a) : bs.flatMap look = l.flatMap known := by
  have hsteps := mapM_eq_ok_iff.1 hl
  clear hl
  induction hsteps with
  | nil => rfl
  | cons hstep _ ih => rw [List.flatMap_cons, List.flatMap_cons, h _ _ hstep, ih]

end ChatRetrieval.Result
