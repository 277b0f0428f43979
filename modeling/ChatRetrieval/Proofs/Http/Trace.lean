import ChatRetrieval.Proofs.Http.Session

/-!
What an action says on the wire, as a postcondition on its exchanges and its outcome together. Every
way of building actions has a rule, so the traffic of a procedure follows its text.
-/

namespace ChatRetrieval

theorem Session.makes_repeated (s : Session) (request : Request) (count : Nat) :
    s.Makes ((List.range count).map fun i => ⟨request, s.replyTo i⟩) (s.asked request count) where
  sent := by
    have hrequests : (List.range count).map (fun _ => request) = List.replicate count request := by
      rw [List.map_const', List.length_range]
    rw [List.map_map]
    exact congrArg (s.sent ++ ·) hrequests.symm
  replies := by rw [List.length_map, List.length_range]; rfl
  answered := by rw [List.map_map, List.length_map, List.length_range]; rfl

namespace Action

variable {α β : Type}

/-- In every session the exchanges that the action makes and its outcome are as `P` says. -/
def Ensures (a : Action α) (P : List Exchange → Result α → Prop) : Prop :=
  ∀ s, ∃ exchanges, s.Makes exchanges (a s).2 ∧ P exchanges (a s).1

namespace Ensures

variable {a : Action α} {P P' : List Exchange → Result α → Prop}
  {Q : List Exchange → Result β → Prop}

theorem mono (h : a.Ensures P) (hP : ∀ {exchanges r}, P exchanges r → P' exchanges r) :
    a.Ensures P' := by
  intro s
  obtain ⟨exchanges, hmakes, hr⟩ := h s
  exact ⟨exchanges, hmakes, hP hr⟩

theorem fail {f : Failure} (h : P [] (.error f)) : (Action.fail f : Action α).Ensures P :=
  fun s => ⟨[], .refl s, h⟩

theorem pure {x : α} (h : P [] (.ok x)) : (Pure.pure x : Action α).Ensures P :=
  fun s => ⟨[], .refl s, h⟩

theorem bind {f : α → Action β} (h : a.Ensures P)
    (hfail : ∀ {exchanges e}, P exchanges (.error e) → Q exchanges (.error e))
    (hrest : ∀ {exchanges x}, P exchanges (.ok x) →
      (f x).Ensures fun later r => Q (exchanges ++ later) r) : (a >>= f).Ensures Q := by
  intro s
  obtain ⟨exchanges, hmakes, hr⟩ := h s
  rcases hrun : a s with ⟨e | x, t⟩
  · rw [hrun] at hmakes hr
    rw [bind_of_error hrun]
    exact ⟨exchanges, hmakes, hfail hr⟩
  · rw [hrun] at hmakes hr
    rw [bind_of_ok hrun]
    obtain ⟨later, hlater, hQ⟩ := hrest hr t
    exact ⟨exchanges ++ later, hmakes.trans hlater, hQ⟩

theorem within {context : String} (h : a.Ensures fun exchanges r => P exchanges (r.within context)) :
    (a.within context).Ensures P := by
  intro s
  obtain ⟨exchanges, hmakes, hr⟩ := h s
  rw [within_run (Prod.eta (a s)).symm]
  exact ⟨exchanges, hmakes, hr⟩

end Ensures

/-- The action makes no request and does not fail. -/
def IsQuiet (a : Action α) : Prop :=
  a.Ensures fun exchanges r => exchanges = [] ∧ ∃ x, r = .ok x

theorem isQuiet_elapsed : elapsed.IsQuiet := fun s => ⟨[], .refl s, rfl, s.elapsed, rfl⟩

theorem isQuiet_repliesLeft : repliesLeft.IsQuiet :=
  fun s => ⟨[], .refl s, rfl, s.replies.length, rfl⟩

theorem isQuiet_sleep (milliseconds : Nat) : (sleep milliseconds).IsQuiet :=
  fun _ => ⟨[], .none rfl rfl, rfl, (), rfl⟩

theorem IsQuiet.bind {a : Action α} (h : a.IsQuiet) {f : α → Action β}
    {Q : List Exchange → Result β → Prop} (hf : ∀ x, (f x).Ensures Q) : (a >>= f).Ensures Q := by
  refine Ensures.bind h (fun ⟨_, _, hok⟩ => nomatch hok) fun {exchanges x} hquiet => ?_
  rw [hquiet.1]
  exact hf x

/-- The action leaves the monotonic clock as it is. -/
def KeepsClock (a : Action α) : Prop := ∀ s, (a s).2.elapsed = s.elapsed

namespace KeepsClock

theorem lift (r : Result α) : (Action.lift r).KeepsClock := fun _ => rfl

theorem fail (f : Failure) : (Action.fail f : Action α).KeepsClock := fun _ => rfl

theorem pure (x : α) : (Pure.pure x : Action α).KeepsClock := fun _ => rfl

theorem send (request : Request) : (Http.send request).KeepsClock := by
  intro s
  rw [Http.send_eq]
  rfl

theorem bind {a : Action α} {f : α → Action β} (h : a.KeepsClock) (hf : ∀ x, (f x).KeepsClock) :
    (a >>= f).KeepsClock := by
  intro s
  have hfirst := h s
  rcases hrun : a s with ⟨e | x, t⟩
  · rw [hrun] at hfirst
    rwa [bind_of_error hrun]
  · rw [hrun] at hfirst
    rw [bind_of_ok hrun]
    exact (hf x t).trans hfirst

theorem within {a : Action α} (h : a.KeepsClock) (context : String) :
    (a.within context).KeepsClock := by
  intro s
  rw [within_run (Prod.eta (a s)).symm]
  exact h s

theorem attempt {a : Action α} (h : a.KeepsClock) : a.attempt.KeepsClock := by
  intro s
  rw [attempt_run (Prod.eta (a s)).symm]
  exact h s

end KeepsClock

/-- The action makes no request but such. -/
def AsksOnly (a : Action α) (P : Request → Prop) : Prop :=
  a.Ensures fun exchanges _ => ∀ x ∈ exchanges, P x.request

namespace AsksOnly

variable {a : Action α} {P : Request → Prop}

theorem of_repeated (h : ∀ s, (a s).2 = s ∨
    ∃ request count, P request ∧ (a s).2 = s.asked request count) : a.AsksOnly P := by
  intro s
  obtain hsame | ⟨request, count, hrequest, hasked⟩ := h s
  · rw [hsame]
    exact ⟨[], .refl s, fun _ hx => nomatch hx⟩
  · rw [hasked]
    refine ⟨_, s.makes_repeated request count, fun x hx => ?_⟩
    obtain ⟨i, -, rfl⟩ := List.mem_map.1 hx
    exact hrequest

theorem of_silent (h : ∀ s, (a s).2 = s) : a.AsksOnly P := of_repeated fun s => .inl (h s)

theorem lift (r : Result α) : (Action.lift r).AsksOnly P := of_silent fun _ => rfl

theorem pure (x : α) : (Pure.pure x : Action α).AsksOnly P := of_silent fun _ => rfl

theorem unixTime : Action.unixTime.AsksOnly P := of_silent fun _ => rfl

theorem bind {f : α → Action β} (h : a.AsksOnly P) (hf : ∀ x, (f x).AsksOnly P) :
    (a >>= f).AsksOnly P :=
  Ensures.bind h id fun hx => (hf _).mono fun hlater _ hmem =>
    (List.mem_append.1 hmem).elim (hx _) (hlater _)

theorem fail (f : Failure) : (Action.fail f : Action α).AsksOnly P := of_silent fun _ => rfl

theorem within (h : a.AsksOnly P) (context : String) : (a.within context).AsksOnly P :=
  Ensures.within h

end AsksOnly

/-- The action makes no request but such, and it makes one if it succeeds. -/
def Asks (a : Action α) (P : Request → Prop) : Prop :=
  a.Ensures fun exchanges r => (∀ x ∈ exchanges, P x.request) ∧ (r.isOk = true → exchanges ≠ [])

namespace Asks

variable {a : Action α} {P : Request → Prop}

theorem of_repeated (h : ∀ s, ∃ request count, P request ∧ (a s).2 = s.asked request (count + 1)) :
    a.Asks P := by
  intro s
  obtain ⟨request, count, hrequest, hasked⟩ := h s
  rw [hasked]
  refine ⟨_, s.makes_repeated request (count + 1), fun x hx => ?_, fun _ hnil => ?_⟩
  · obtain ⟨i, -, rfl⟩ := List.mem_map.1 hx
    exact hrequest
  · have hlength := congrArg List.length hnil
    rw [List.length_map, List.length_range] at hlength
    cases hlength

theorem fail (f : Failure) : (Action.fail f : Action α).Asks P := Ensures.fail ⟨nofun, nofun⟩

theorem asksOnly (h : a.Asks P) : a.AsksOnly P := Ensures.mono h And.left

theorem mono {P' : Request → Prop} (h : a.Asks P) (hP : ∀ {request}, P request → P' request) :
    a.Asks P' :=
  Ensures.mono h fun hx => ⟨fun x hmem => hP (hx.1 x hmem), hx.2⟩

theorem within (h : a.Asks P) (context : String) : (a.within context).Asks P := by
  refine Ensures.within (Ensures.mono h fun {exchanges r} hx => ⟨hx.1, fun hok => hx.2 ?_⟩)
  cases r with
  | error f => cases hok
  | ok x => rfl

theorem bind {f : α → Action β} (h : a.Asks P) (hf : ∀ x, (f x).AsksOnly P) : (a >>= f).Asks P := by
  refine Ensures.bind h (fun hx => ⟨hx.1, nofun⟩) fun {exchanges x} hx =>
    Ensures.mono (hf x) fun hlater => ?_
  refine ⟨fun y hmem => (List.mem_append.1 hmem).elim (hx.1 y) (hlater y), fun _ hnil => ?_⟩
  exact hx.2 rfl (List.append_eq_nil_iff.1 hnil).1

theorem after {f : α → Action β} (h : a.AsksOnly P) (hf : ∀ x, (f x).Asks P) : (a >>= f).Asks P := by
  refine Ensures.bind h (fun hx => ⟨hx, nofun⟩) fun {exchanges x} hx =>
    Ensures.mono (hf x) fun hlater => ?_
  refine ⟨fun y hmem => (List.mem_append.1 hmem).elim (hx y) (hlater.1 y), fun hok hnil => ?_⟩
  exact hlater.2 hok (List.append_eq_nil_iff.1 hnil).2

theorem lift_bind {r : Result α} {f : α → Action β} (h : ∀ x, r = .ok x → (f x).Asks P) :
    (Action.lift r >>= f).Asks P := by
  cases r with
  | error e => exact fun s => ⟨[], .refl s, nofun, nofun⟩
  | ok x => exact h x rfl

end Asks

end Action

theorem Embedder.asksOnly_embed (e : Embedder) (texts : List String) (P : Request → Prop) :
    (e.embed texts).AsksOnly P :=
  fun _ => ⟨[], .none rfl rfl, nofun⟩

end ChatRetrieval
