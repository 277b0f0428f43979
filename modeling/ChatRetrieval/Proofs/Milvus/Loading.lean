import ChatRetrieval.Proofs.Milvus.Preparation
import ChatRetrieval.Proofs.Number.Pieces

/-!
Waiting for a collection. The looks at its state are counted before the first of them is taken, and the
first one that does not leave the wait open decides it; only if there is none does the wait end for being
too long.
-/

namespace ChatRetrieval.Milvus

open Preparation (Call stateIn)

/-- A look after which the wait goes on: the store answers, and the collection is not loaded. -/
def IsPending (found : Result LoadState) : Prop := ∃ state, found = .ok state ∧ state ≠ .loaded

/-- How many looks a wait takes and what it ends in, where look number `i` finds `found i` and at most
so many may be taken. -/
inductive Ends (found : Nat → Result LoadState) (late : Failure) (most : Nat) :
    Nat → Result Unit → Prop
  | loaded {i : Nat} (hi : i < most) (hearlier : ∀ j < i, IsPending (found j))
      (h : found i = .ok .loaded) : Ends found late most (i + 1) (.ok ())
  | failed {i : Nat} {f : Failure} (hi : i < most) (hearlier : ∀ j < i, IsPending (found j))
      (h : found i = .error f) : Ends found late most (i + 1) (.error f)
  | timedOut (hall : ∀ i < most, IsPending (found i)) : Ends found late most most (.error late)

section

variable {found : Nat → Result LoadState} {late : Failure} {most looks : Nat} {r : Result Unit}

theorem IsPending.isOk {x : Result LoadState} (h : IsPending x) : x.isOk = true := by
  obtain ⟨state, rfl, -⟩ := h
  rfl

theorem not_isPending_loaded : ¬IsPending (.ok .loaded) := by
  rintro ⟨state, hstate, hne⟩
  exact hne (Except.ok.inj hstate).symm

theorem not_isPending_error (f : Failure) : ¬IsPending (.error f) := by
  rintro ⟨state, ⟨⟩, -⟩

theorem decisive_unique {i k : Nat} (hi : ∀ j < i, IsPending (found j)) (hdecides : ¬IsPending (found i))
    (hk : ∀ j < k, IsPending (found j)) (hdecides' : ¬IsPending (found k)) : i = k := by
  rcases Nat.lt_trichotomy i k with hlt | heq | hlt
  · exact absurd (hk i hlt) hdecides
  · exact heq
  · exact absurd (hi k hlt) hdecides'

namespace Ends

theorem le_most (h : Ends found late most looks r) : looks ≤ most := by
  cases h with
  | loaded hi => exact hi
  | failed hi => exact hi
  | timedOut => exact Nat.le_refl _

theorem pos (h : Ends found late (most + 1) looks r) : 1 ≤ looks := by
  cases h with
  | loaded => exact Nat.succ_pos _
  | failed => exact Nat.succ_pos _
  | timedOut => exact Nat.succ_pos _

theorem cons (hfirst : IsPending (found 0)) (h : Ends (fun i => found (i + 1)) late most looks r) :
    Ends found late (most + 1) (looks + 1) r := by
  have hearlier {k : Nat} (hk : ∀ j < k, IsPending (found (j + 1))) :
      ∀ j < k + 1, IsPending (found j) := by
    intro j hj
    cases j with
    | zero => exact hfirst
    | succ j => exact hk j (Nat.lt_of_succ_lt_succ hj)
  cases h with
  | loaded hi hrest hfound => exact .loaded (Nat.succ_lt_succ hi) (hearlier hrest) hfound
  | failed hi hrest hfound => exact .failed (Nat.succ_lt_succ hi) (hearlier hrest) hfound
  | timedOut hall => exact .timedOut (hearlier hall)

theorem ok_iff (h : Ends found late most looks r) : r = .ok () ↔
    ∃ i < most, found i = .ok .loaded ∧ ∀ j < i, (found j).isOk = true := by
  constructor
  · intro hr
    cases h with
    | loaded hi hearlier hfound => exact ⟨_, hi, hfound, fun j hj => (hearlier j hj).isOk⟩
    | failed => cases hr
    | timedOut => cases hr
  · rintro ⟨i, hi, hfound, hok⟩
    cases h with
    | loaded => rfl
    | @failed k f _ hearlier hfailed =>
      -- The failure can neither be in front of the look that finds the collection loaded nor behind it.
      rcases Nat.lt_trichotomy i k with hlt | rfl | hlt
      · have hpending := hearlier i hlt
        rw [hfound] at hpending
        exact absurd hpending not_isPending_loaded
      · rw [hfound] at hfailed
        cases hfailed
      · have hanswered := hok k hlt
        rw [hfailed] at hanswered
        cases hanswered
    | timedOut hall =>
      have hpending := hall i hi
      rw [hfound] at hpending
      exact absurd hpending not_isPending_loaded

theorem of_error (h : Ends found late most looks r) {i : Nat} {f : Failure} (hi : i < most)
    (hfound : found i = .error f) (hearlier : ∀ j < i, IsPending (found j)) :
    looks = i + 1 ∧ r = .error f := by
  have hdecides : ¬IsPending (found i) := hfound ▸ not_isPending_error f
  cases h with
  | @loaded k _ hrest hloaded =>
    obtain rfl := decisive_unique hearlier hdecides hrest (hloaded ▸ not_isPending_loaded)
    rw [hfound] at hloaded
    cases hloaded
  | @failed k g _ hrest hfailed =>
    obtain rfl := decisive_unique hearlier hdecides hrest (hfailed ▸ not_isPending_error g)
    rw [hfound] at hfailed
    cases hfailed
    exact ⟨rfl, rfl⟩
  | timedOut hall => exact absurd (hall i hi) hdecides

theorem of_pending (h : Ends found late most looks r) (hall : ∀ i < most, IsPending (found i)) :
    looks = most ∧ r = .error late := by
  cases h with
  | loaded hi _ hfound => exact absurd (hall _ hi) (hfound ▸ not_isPending_loaded)
  | failed hi _ hfound => exact absurd (hall _ hi) (hfound ▸ not_isPending_error _)
  | timedOut => exact ⟨rfl, rfl⟩

end Ends

end

def lookOf (url : String) (reply : ChatRetrieval.Reply) : Result LoadState :=
  (answerOf Call.poll.path url reply).map stateIn

theorem replies_ne_nil_of_lookOf {url : String} {s : Session} {state : LoadState}
    (h : lookOf url (s.replyTo 0) = .ok state) : s.replies ≠ [] := by
  intro hnone
  rw [Session.replyTo, hnone] at h
  cases h

namespace ClientConfig

/-- The session once so many looks were taken, with a pause between one and the next. -/
def looked (c : ClientConfig) (request : Request) (s : Session) (looks : Nat) : Session :=
  { s.asked request looks with elapsed := s.elapsed + (looks - 1) * c.pollInterval }

theorem looked_zero (c : ClientConfig) (request : Request) (s : Session) :
    c.looked request s 0 = s := by
  simp only [looked, Session.asked_zero, Nat.zero_sub, Nat.zero_mul, Nat.add_zero]

theorem looked_one (c : ClientConfig) (request : Request) (s : Session) :
    c.looked request s 1 = s.asked request 1 := by
  simp only [looked, Nat.sub_self, Nat.zero_mul, Nat.add_zero]
  rfl

def paused (c : ClientConfig) (request : Request) (s : Session) : Session :=
  { s.asked request 1 with elapsed := s.elapsed + c.pollInterval }

section

variable (c : ClientConfig) (request : Request) (s : Session)

theorem elapsed_paused : (c.paused request s).elapsed = s.elapsed + c.pollInterval := rfl

theorem replies_paused : (c.paused request s).replies = s.replies.drop 1 := rfl

theorem replyTo_paused (i : Nat) : (c.paused request s).replyTo i = s.replyTo (i + 1) := by
  rw [Nat.add_comm i]
  exact s.replyTo_asked request 1 i

theorem looked_paused {looks : Nat} (hlooks : 1 ≤ looks) :
    c.looked request (c.paused request s) looks = c.looked request s (looks + 1) := by
  obtain ⟨looks, rfl⟩ := Nat.exists_eq_add_of_le' hlooks
  have hclock : s.elapsed + c.pollInterval + looks * c.pollInterval =
      s.elapsed + (looks + 1) * c.pollInterval := by
    rw [Nat.succ_mul]
    omega
  have hasked := s.asked_asked request 1 (looks + 1)
  rw [Nat.add_comm 1] at hasked
  simp only [looked, Nat.add_sub_cancel, ← hasked, ← hclock]
  rfl

end

variable {c : ClientConfig} {collection : String} {target : String × Headers}

section

variable (h : c.endpoint Call.poll.path = .ok target)
include h

theorem loadState_eq (collection : String) (s : Session) : c.loadState collection s =
    (lookOf target.1 (s.replyTo 0), s.asked (c.request (ofCollection collection) target) 1) :=
  Action.bind_pure_run (call_eq (ofCollection collection) s h) stateIn

theorem awaitLoaded_succ (deadline polls : Nat) (s : Session) :
    let after := s.asked (c.request (ofCollection collection) target) 1
    c.awaitLoaded collection deadline (polls + 1) s =
      match lookOf target.1 (s.replyTo 0) with
      | .error f => (.error f, after)
      | .ok state =>
        if state = .loaded then (.ok (), after)
        else if deadline ≤ s.elapsed then (.error (loadTimedOut collection), after)
        else c.awaitLoaded collection deadline polls
          (c.paused (c.request (ofCollection collection) target) s) := by
  intro after
  have hlook := loadState_eq h collection s
  rw [awaitLoaded]
  cases hfound : lookOf target.1 (s.replyTo 0) with
  | error f =>
    rw [hfound] at hlook
    exact Action.bind_of_error hlook _
  | ok state =>
    rw [hfound] at hlook
    rw [Action.bind_of_ok hlook]
    dsimp only
    split
    · rfl
    · have hclock : Action.elapsed after = (.ok s.elapsed, after) := rfl
      refine (Action.bind_of_ok hclock _).trans ?_
      split
      · rfl
      · rfl

/-- A wait takes looks until one decides, at most as many as there are pauses until the deadline and one
more. -/
theorem awaitLoaded_ends (hinterval : 1 ≤ c.pollInterval) (collection : String) (deadline : Nat)
    {polls : Nat} {s : Session} (hpolls : s.replies.length < polls) :
    ∃ looks r, Ends (fun i => lookOf target.1 (s.replyTo i)) (loadTimedOut collection)
        (pieces c.pollInterval (deadline - s.elapsed) + 1) looks r ∧
      c.awaitLoaded collection deadline polls s =
        (r, c.looked (c.request (ofCollection collection) target) s looks) := by
  generalize hrequest : c.request (ofCollection collection) target = request
  induction polls generalizing s with
  | zero => exact absurd hpolls (Nat.not_lt_zero _)
  | succ polls ih =>
    rw [awaitLoaded_succ h, hrequest]
    cases hfound : lookOf target.1 (s.replyTo 0) with
    | error f =>
      refine ⟨1, .error f, .failed (Nat.succ_pos _) (fun j hj => absurd hj j.not_lt_zero) hfound, ?_⟩
      rw [looked_one]
    | ok state =>
      by_cases hstate : state = .loaded
      · subst hstate
        refine ⟨1, .ok (), .loaded (Nat.succ_pos _) (fun j hj => absurd hj j.not_lt_zero) hfound, ?_⟩
        rw [looked_one]
        rfl
      have hpending : IsPending (lookOf target.1 (s.replyTo 0)) := ⟨state, hfound, hstate⟩
      by_cases hlate : deadline ≤ s.elapsed
      · have hlast : pieces c.pollInterval (deadline - s.elapsed) = 0 := by
          rw [Nat.sub_eq_zero_of_le hlate, pieces_zero hinterval]
        refine ⟨1, .error (loadTimedOut collection), ?_, ?_⟩
        · rw [hlast]
          exact .timedOut (by simpa using hpending)
        · rw [looked_one]
          simp only [if_neg hstate, if_pos hlate]
      · have hopen : 0 < deadline - s.elapsed := Nat.sub_pos_of_lt (Nat.not_le.1 hlate)
        have hreplies := List.length_pos_of_ne_nil (replies_ne_nil_of_lookOf hfound)
        have hrest : (c.paused request s).replies.length < polls := by
          rw [replies_paused, List.length_drop]
          omega
        obtain ⟨looks, r, hends, hrun⟩ := ih hrest
        simp only [elapsed_paused, replyTo_paused, ← Nat.sub_sub] at hends
        refine ⟨looks + 1, r, ?_, ?_⟩
        · rw [← pieces_sub hinterval hopen]
          exact .cons hpending hends
        · simp only [if_neg hstate, if_neg hlate, hrun]
          rw [looked_paused _ _ _ hends.pos]

end

theorem load_of_error {f : Failure} (h : c.endpoint Call.load.path = .error f) (s : Session) :
    c.load collection s = (.error f, s) :=
  Action.bind_of_error (call_of_error h) _

theorem load_of_ok {data : Json} {s after : Session}
    (h : c.call Call.load.path (ofCollection collection) s = (.ok data, after))
    (hreaches : after.Reaches c.loadTimeout) :
    c.load collection s = c.awaitLoaded collection (after.elapsed + c.loadTimeout * 1000)
      (after.replies.length + 1) after := by
  have hleft : Action.repliesLeft after = (.ok after.replies.length, after) := rfl
  rw [load]
  refine (Action.bind_of_ok h _).trans ?_
  refine (Action.bind_of_ok (Action.deadline_of_reaches hreaches) _).trans ?_
  exact Action.bind_of_ok hleft _

/-- Without a deadline that the clock can read no look is taken, whatever it would find. -/
theorem load_of_not_reaches {data : Json} {s after : Session}
    (h : c.call Call.load.path (ofCollection collection) s = (.ok data, after))
    (hreaches : ¬after.Reaches c.loadTimeout) :
    c.load collection s = (.error Action.beyondClock, after) := by
  rw [load]
  refine (Action.bind_of_ok h _).trans ?_
  exact Action.bind_of_error (Action.deadline_of_not_reaches hreaches) _

theorem load_ends (hinterval : 1 ≤ c.pollInterval) {loading : String × Headers}
    (hload : c.endpoint Call.load.path = .ok loading) (hpoll : c.endpoint Call.poll.path = .ok target)
    (collection : String) (s : Session) (hreaches : s.Reaches c.loadTimeout) {data : Json}
    (hdata : answerOf Call.load.path loading.1 (s.replyTo 0) = .ok data) :
    ∃ looks r, Ends (fun i => lookOf target.1 (s.replyTo (i + 1))) (loadTimedOut collection)
        (pieces c.pollInterval (c.loadTimeout * 1000) + 1) looks r ∧
      c.load collection s = (r, c.looked (c.request (ofCollection collection) target)
        (s.asked (c.request (ofCollection collection) loading) 1) looks) := by
  have hcall := call_eq (ofCollection collection) s hload
  rw [hdata] at hcall
  -- A request leaves the clock alone.
  replace hreaches : (s.asked (c.request (ofCollection collection) loading) 1).Reaches c.loadTimeout :=
    hreaches
  generalize hafter : s.asked (c.request (ofCollection collection) loading) 1 = after
    at hcall hreaches ⊢
  have hreply (i : Nat) : after.replyTo i = s.replyTo (i + 1) := by
    rw [← hafter, Session.replyTo_asked, Nat.add_comm]
  have hwait := awaitLoaded_ends hpoll hinterval collection (after.elapsed + c.loadTimeout * 1000)
    (Nat.lt_succ_self after.replies.length)
  simp only [hreply, Nat.add_sub_cancel_left] at hwait
  obtain ⟨looks, r, hends, hrun⟩ := hwait
  exact ⟨looks, r, hends, (load_of_ok hcall hreaches).trans hrun⟩

/-- Loading a collection asks for it once and then looks at its state, at most once at the start and once
after each pause that begins before the timeout, which must end at a time that the clock can read. It
succeeds just if one of these looks finds the
collection loaded and no call in front of that failed. Otherwise the first failure of a call is the
outcome, and the wait is over for being too long if there is none. -/
theorem load_waits (c : ClientConfig) (collection : String) (s : Session)
    (hinterval : 0 < c.pollInterval) (hreaches : s.Reaches c.loadTimeout) :
    (∃ f, c.endpoint Call.load.path = .error f ∧ c.load collection s = (.error f, s)) ∨
      ∃ (loading target : String × Headers) (looks : Nat) (r : Result Unit),
        c.endpoint Call.load.path = .ok loading ∧ c.endpoint Call.poll.path = .ok target ∧
        c.load collection s = (r, c.looked (c.request (ofCollection collection) target)
          (s.asked (c.request (ofCollection collection) loading) 1) looks) ∧
        let answer := answerOf Call.load.path loading.1 (s.replyTo 0)
        let found := fun i => lookOf target.1 (s.replyTo (i + 1))
        let most := (c.loadTimeout * 1000 + c.pollInterval - 1) / c.pollInterval + 1
        looks ≤ most ∧
        (r = .ok () ↔ answer.isOk = true ∧
          ∃ i < most, found i = .ok .loaded ∧ ∀ j < i, (found j).isOk = true) ∧
        (∀ f, answer = .error f → looks = 0 ∧ r = .error f) ∧
        (answer.isOk = true → ∀ i < most, ∀ f, found i = .error f →
          (∀ j < i, IsPending (found j)) → looks = i + 1 ∧ r = .error f) ∧
        (answer.isOk = true → (∀ i < most, IsPending (found i)) →
          looks = most ∧ r = .error (loadTimedOut collection)) := by
  cases hload : c.endpoint Call.load.path with
  | error f => exact .inl ⟨f, rfl, load_of_error hload s⟩
  | ok loading =>
    obtain ⟨target, hpoll⟩ := Preparation.endpoint_of_call hload .poll
    refine .inr ⟨loading, target, ?_⟩
    cases hanswer : answerOf Call.load.path loading.1 (s.replyTo 0) with
    | error f =>
      have hcall := call_eq (ofCollection collection) s hload
      rw [hanswer] at hcall
      refine ⟨0, .error f, rfl, hpoll, ?_, Nat.zero_le _, ?_, ?_, nofun, nofun⟩
      · rw [looked_zero]
        exact Action.bind_of_error hcall _
      · exact iff_of_false nofun fun h => nomatch h.1
      · rintro g ⟨⟩
        exact ⟨rfl, rfl⟩
    | ok data =>
      obtain ⟨looks, r, hends, hrun⟩ :=
        load_ends hinterval hload hpoll collection s hreaches hanswer
      refine ⟨looks, r, rfl, hpoll, hrun, hends.le_most, ?_, nofun, ?_, ?_⟩
      · rw [hends.ok_iff]
        exact (and_iff_right rfl).symm
      · exact fun _ i hi f hfound hearlier => hends.of_error hi hfound hearlier
      · exact fun _ hall => hends.of_pending hall

def impatient : ClientConfig :=
  { ofAddress "http://milvus:19530" with pollInterval := 400, loadTimeout := 1 }

def slowStore : Session where
  replies := answering .null :: ["Loading", "Loading", "Loading", "Loaded"].map fun state =>
    answering (.obj [("loadState", .str ("LoadState" ++ state))])
  sent := []
  embedded := []
  unixTime := 0
  elapsed := 0

theorem load_waits_lastLook :
    0 < impatient.pollInterval ∧ slowStore.Reaches impatient.loadTimeout ∧ ∃ (loading target : String × Headers),
      impatient.load "docs" slowStore = (.ok (),
        impatient.looked (impatient.request (ofCollection "docs") target)
          (slowStore.asked (impatient.request (ofCollection "docs") loading) 1) 4) ∧
      (impatient.loadTimeout * 1000 + impatient.pollInterval - 1) / impatient.pollInterval + 1 = 4 ∧
      ∃ i < 4, lookOf target.1 (slowStore.replyTo (i + 1)) = .ok .loaded ∧
        ∀ j < i, (lookOf target.1 (slowStore.replyTo (j + 1))).isOk = true := by
  have hinterval : 0 < impatient.pollInterval := by decide
  have hreaches : slowStore.Reaches impatient.loadTimeout := by decide
  have hran : (impatient.load "docs" slowStore).1.isOk = true ∧
      (impatient.load "docs" slowStore).2.sent.length = 5 := by decide +kernel
  obtain ⟨hok, hsent⟩ := hran
  obtain ⟨f, -, hfailed⟩ | ⟨loading, target, looks, r, -, -, hrun, -, hloaded, -⟩ :=
    load_waits impatient "docs" slowStore hinterval hreaches
  · rw [hfailed] at hok
    cases hok
  · rw [hrun] at hok hsent
    obtain ⟨⟨⟩, rfl⟩ := Result.exists_ok_of_isOk hok
    have hlooks : looks = 4 := by
      simp only [looked, Session.asked, List.length_append, List.length_replicate] at hsent
      exact Nat.add_left_cancel hsent
    subst hlooks
    exact ⟨hinterval, hreaches, loading, target, hrun, rfl, (hloaded.1 rfl).2⟩

def boundless : ClientConfig := { impatient with loadTimeout := UInt64.size - 1 }

def quickStore : Session := { slowStore with
  replies := [answering .null, answering (.obj [("loadState", .str "LoadStateLoaded")])] }

/-- The clock cannot read when the longest timeout ends: the program breaks off behind the call, though
the first look would find the collection loaded. -/
theorem load_boundless_breaks_off :
    0 < boundless.pollInterval ∧ ∃ (loading target : String × Headers),
      boundless.endpoint Call.load.path = .ok loading ∧ boundless.endpoint Call.poll.path = .ok target ∧
      (answerOf Call.load.path loading.1 (quickStore.replyTo 0)).isOk = true ∧
      lookOf target.1 (quickStore.replyTo 1) = .ok .loaded ∧
      boundless.load "docs" quickStore = (.error Action.beyondClock,
        quickStore.asked (boundless.request (ofCollection "docs") loading) 1) := by
  have hends : (boundless.endpoint Call.load.path).isOk = true ∧
      (boundless.endpoint Call.poll.path).isOk = true := by decide +kernel
  obtain ⟨loading, hloading⟩ := Result.exists_ok_of_isOk hends.1
  obtain ⟨target, htarget⟩ := Result.exists_ok_of_isOk hends.2
  have hbeyond : ¬quickStore.Reaches boundless.loadTimeout := by decide
  have hdata : dataOf (quickStore.replyTo 0) = some .null ∧ dataOf (quickStore.replyTo 1) =
      some (.obj [("loadState", .str "LoadStateLoaded")]) := by decide +kernel
  have hanswer : answerOf Call.load.path loading.1 (quickStore.replyTo 0) = .ok .null :=
    Result.eq_ok_of_toOption ((toOption_answerOf ..).trans hdata.1)
  have hlook : answerOf Call.poll.path target.1 (quickStore.replyTo 1) = .ok _ :=
    Result.eq_ok_of_toOption ((toOption_answerOf ..).trans hdata.2)
  have hcall := call_eq (ofCollection "docs") quickStore hloading
  rw [hanswer] at hcall
  refine ⟨by decide, loading, target, hloading, htarget, ?_, ?_, ?_⟩
  · rw [hanswer]
    rfl
  · rw [lookOf, hlook]
    rfl
  · exact load_of_not_reaches hcall hbeyond

end ClientConfig

end ChatRetrieval.Milvus
