import ChatRetrieval.Proofs.Milvus.Request
import ChatRetrieval.Proofs.Milvus.Rest

/-!
Walks through the hits of a search. A call for the next batch asks for one page, from where the calls
before it have come to, and what it gives is up to the reply; a page that is not full is the last one.
-/

namespace ChatRetrieval.Milvus

namespace IteratorRequest

variable (r : IteratorRequest)

def sizeAt (hits : Nat) : Nat := min r.batchSize (r.total - hits)

def pageAt (hits : Nat) : Json := r.page ⟨0, hits, false⟩

def after (p : Progress) (rows : List Json) : Progress :=
  ⟨if rows.length = 0 then p.batches else p.batches + 1, p.hits + rows.length,
    decide (rows.length < r.nextSize p)⟩

theorem total_pos : 0 < r.total := by
  unfold total window
  split <;> omega

variable {r}

theorem sizeAt_pos (hsize : 1 ≤ r.batchSize) {hits : Nat} (hroom : hits < r.total) :
    0 < r.sizeAt hits :=
  Nat.lt_min.2 ⟨hsize, Nat.sub_pos_of_lt hroom⟩

theorem get?_pageAt (hits : Nat) :
    (r.pageAt hits).get? "limit" = some (.ofNat (r.sizeAt hits)) ∧
      (r.pageAt hits).get? "offset" = some (.ofNat hits) :=
  (r.reads_page ⟨0, hits, false⟩).2.2.2

end IteratorRequest

/-- What a call for the next batch ends in: a batch, or none at the end. -/
abbrev Outcome := Result (Option ResultSet)

def batchOf (rows : List Json) : Option ResultSet :=
  if rows.length = 0 then none else some (.ofRows true rows)

namespace ClientConfig

section

variable {c : ClientConfig} {r : IteratorRequest} {p : Progress} {s : Session}

theorem nextBatch_of_exhausted (h : p.isFinished = true ∨ r.total ≤ p.hits) :
    c.nextBatch r p s = (.ok (none, p), s) := by
  have hstop : (p.isFinished || decide (r.nextSize p = 0)) = true := by
    rw [Bool.or_eq_true, decide_eq_true_eq]
    refine h.imp_right fun hhits => ?_
    rw [IteratorRequest.nextSize, Nat.sub_eq_zero_of_le hhits, Nat.min_zero]
  unfold nextBatch
  simp only [hstop, if_true]
  rfl

variable (hsize : 1 ≤ r.batchSize) (hopen : p.isFinished = false) (hroom : p.hits < r.total)
include hsize hopen hroom

theorem nextBatch_eq_bind :
    c.nextBatch r p s = (c.searchRows (r.pageAt p.hits) >>= fun result =>
      pure (if result.size = 0 then none else some result,
        (⟨if result.size = 0 then p.batches else p.batches + 1, p.hits + result.size,
          decide (result.size < r.nextSize p)⟩ : Progress))) s := by
  have hgo : (p.isFinished || decide (r.nextSize p = 0)) = false := by
    rw [hopen, Bool.false_or, decide_eq_false_iff_not]
    exact Nat.ne_of_gt (IteratorRequest.sizeAt_pos hsize hroom)
  unfold nextBatch
  simp only [hgo, Bool.false_eq_true, if_false]
  refine congrArg (fun f => (c.searchRows (r.pageAt p.hits) >>= f) s) (funext fun result => ?_)
  by_cases hempty : result.size = 0
  · simp only [hempty, if_true, Nat.add_zero]
  · simp only [hempty, if_false]

theorem nextBatch_of_error {f : Failure} (h : c.searchEndpoint = .error f) :
    c.nextBatch r p s = (.error f, s) := by
  rw [nextBatch_eq_bind hsize hopen hroom]
  exact Action.bind_of_error (searchRows_of_error h) _

theorem nextBatch_of_endpoint {target : String × Headers}
    (h : c.searchEndpoint = .ok target) :
    (c.nextBatch r p s).2 = s.asked (c.request (r.pageAt p.hits) target) 1 ∧
      (c.nextBatch r p s).1.toOption =
        (rowsOf (s.replyTo 0)).map fun rows => (batchOf rows, r.after p rows) := by
  obtain ⟨hafter, hrows⟩ := searchRows_of_endpoint (r.pageAt p.hits) s h
  rcases hrun : c.searchRows (r.pageAt p.hits) s with ⟨result, after⟩
  rw [hrun] at hafter hrows
  rw [nextBatch_eq_bind hsize hopen hroom, Action.bind_pure_run hrun]
  refine ⟨hafter, ?_⟩
  have hresult : result.toOption = (rowsOf (s.replyTo 0)).map (.ofRows true) := hrows
  rw [Result.toOption_map, hresult, Option.map_map]
  rfl

end

/-- So many calls for the next batch. A call that fails leaves the walk where it is. -/
def nexts (c : ClientConfig) (r : IteratorRequest) :
    Nat → Progress → Session → List Outcome × Session
  | 0, _, s => ([], s)
  | count + 1, p, s =>
    match c.nextBatch r p s with
    | (.ok (batch, p), s) => (.ok batch :: (nexts c r count p s).1, (nexts c r count p s).2)
    | (.error f, s) => (.error f :: (nexts c r count p s).1, (nexts c r count p s).2)

/-- The request for the page after so many hits. -/
def AsksFrom (c : ClientConfig) (r : IteratorRequest) (hits : Nat) (request : Request) : Prop :=
  ∃ target, c.searchEndpoint = .ok target ∧
    request = c.request (r.pageAt hits) target

end ClientConfig

/-- Whether the reply, unless it is a failure, holds the rows that were asked for. -/
def serves (ranked : List Json) (x : Exchange) : Bool :=
  match x.request.payload with
  | .json body =>
    match body.get? "offset", body.get? "limit" with
    | some (.int offset), some (.int limit) => (rowsOf x.reply).all fun rows =>
        rows = (ranked.drop offset.toNat).take limit.toNat
    | _, _ => true
  | _ => true

/-- The outcomes of the calls that are made after so many hits and the exchanges in which they are
answered. -/
inductive Walk (c : ClientConfig) (r : IteratorRequest) (ranked : List Json) :
    Nat → List Outcome → List Exchange → Prop
  | stop {hits : Nat} : Walk c r ranked hits [] []
  | unreachable {hits : Nat} {outcomes : List Outcome}
      (h : ∀ target, c.searchEndpoint ≠ .ok target)
      (hfailed : ∀ o ∈ outcomes, ∃ f, o = .error f) : Walk c r ranked hits outcomes []
  | exhausted {hits : Nat} {outcomes : List Outcome} (h : r.total ≤ hits)
      (hnone : ∀ o ∈ outcomes, o = .ok none) : Walk c r ranked hits outcomes []
  /-- A page that failed is asked for again. -/
  | failed {hits : Nat} {f : Failure} {x : Exchange}
      {outcomes : List Outcome} {exchanges : List Exchange}
      (hroom : hits < r.total) (hasks : c.AsksFrom r hits x.request) (hreply : rowsOf x.reply = none)
      (h : Walk c r ranked hits outcomes exchanges) :
      Walk c r ranked hits (.error f :: outcomes) (x :: exchanges)
  | full {hits : Nat} {rows : List Json} {x : Exchange}
      {outcomes : List Outcome} {exchanges : List Exchange}
      (hroom : hits < r.total) (hasks : c.AsksFrom r hits x.request)
      (hreply : rowsOf x.reply = some rows) (hrows : rows = (ranked.drop hits).take (r.sizeAt hits))
      (hfull : rows.length = r.sizeAt hits)
      (h : Walk c r ranked (hits + rows.length) outcomes exchanges) :
      Walk c r ranked hits (.ok (batchOf rows) :: outcomes) (x :: exchanges)
  /-- A page that is not full is the last one. -/
  | short {hits : Nat} {rows : List Json} {x : Exchange}
      {outcomes : List Outcome}
      (hroom : hits < r.total) (hasks : c.AsksFrom r hits x.request)
      (hreply : rowsOf x.reply = some rows) (hrows : rows = (ranked.drop hits).take (r.sizeAt hits))
      (hshort : rows.length < r.sizeAt hits) (hnone : ∀ o ∈ outcomes, o = .ok none) :
      Walk c r ranked hits (.ok (batchOf rows) :: outcomes) [x]

namespace ClientConfig

variable {c : ClientConfig} {r : IteratorRequest}

theorem AsksFrom.body {hits : Nat} {request : Request} (h : c.AsksFrom r hits request) :
    ∃ target body, c.searchEndpoint = .ok target ∧
      request = ⟨.post, target.1, target.2, .json body⟩ ∧
      body.get? "offset" = some (.ofNat hits) ∧
      body.get? "limit" = some (.ofNat (r.sizeAt hits)) := by
  obtain ⟨target, htarget, rfl⟩ := h
  obtain ⟨hlimit, hoffset⟩ := IteratorRequest.get?_pageAt (r := r) hits
  refine ⟨target, _, htarget, rfl, ?_, ?_⟩
  · rw [get?_withDatabase (by decide), hoffset]
  · rw [get?_withDatabase (by decide), hlimit]

theorem AsksFrom.rows_eq {hits : Nat} {x : Exchange} (h : c.AsksFrom r hits x.request)
    {ranked rows : List Json} (hserves : serves ranked x = true)
    (hreply : rowsOf x.reply = some rows) : rows = (ranked.drop hits).take (r.sizeAt hits) := by
  obtain ⟨target, body, -, hrequest, hoffset, hlimit⟩ := h.body
  simp only [serves, hrequest, hoffset, hlimit, Json.ofNat, hreply, Option.all_some,
    Int.toNat_natCast, decide_eq_true_eq] at hserves
  exact hserves

theorem nexts_of_exhausted {p : Progress} (h : p.isFinished = true ∨ r.total ≤ p.hits) (count : Nat)
    (s : Session) : c.nexts r count p s = (List.replicate count (.ok none), s) := by
  induction count with
  | zero => rfl
  | succ count ih =>
    rw [nexts, nextBatch_of_exhausted h]
    simp only [ih, List.replicate_succ]

theorem nexts_of_error (hsize : 1 ≤ r.batchSize) {p : Progress} (hopen : p.isFinished = false)
    (hroom : p.hits < r.total) {f : Failure}
    (h : c.searchEndpoint = .error f) (count : Nat) (s : Session) :
    c.nexts r count p s = (List.replicate count (.error f), s) := by
  induction count with
  | zero => rfl
  | succ count ih =>
    rw [nexts, nextBatch_of_error hsize hopen hroom h]
    simp only [ih, List.replicate_succ]

theorem nexts_walk_of_endpoint (hsize : 1 ≤ r.batchSize) (ranked : List Json)
    {target : String × Headers} (h : c.searchEndpoint = .ok target)
    (count : Nat) {p : Progress} (hopen : p.isFinished = false) (s : Session) :
    ∃ exchanges, s.Makes exchanges (c.nexts r count p s).2 ∧
      ((∀ x ∈ exchanges, serves ranked x = true) →
        Walk c r ranked p.hits (c.nexts r count p s).1 exchanges) := by
  induction count generalizing p s with
  | zero => exact ⟨[], .refl s, fun _ => .stop⟩
  | succ count ih =>
    by_cases hroom : p.hits < r.total
    · obtain ⟨hafter, hresult⟩ := nextBatch_of_endpoint (s := s) hsize hopen hroom h
      have hmakes := Session.makes_asked s (c.request (r.pageAt p.hits) target)
      have hasks : c.AsksFrom r p.hits (c.request (r.pageAt p.hits) target) := ⟨target, h, rfl⟩
      rw [nexts]
      rcases hrun : c.nextBatch r p s with ⟨f | ⟨batch, q⟩, t⟩
      · rw [hrun] at hafter hresult
        obtain rfl : t = _ := hafter
        have hreply : rowsOf (s.replyTo 0) = none := Option.map_eq_none_iff.1 hresult.symm
        obtain ⟨exchanges, hrest, hwalk⟩ := ih hopen _
        exact ⟨_ :: exchanges, hmakes.trans hrest, fun hserves =>
          .failed hroom hasks hreply (hwalk fun x hx => hserves x (List.mem_cons_of_mem _ hx))⟩
      · rw [hrun] at hafter hresult
        obtain rfl : t = _ := hafter
        obtain ⟨rows, hreply, hbatch⟩ := Option.map_eq_some_iff.1 hresult.symm
        cases hbatch
        by_cases hshort : rows.length < r.sizeAt p.hits
        · have hfinished : (r.after p rows).isFinished = true := decide_eq_true hshort
          simp only [nexts_of_exhausted (.inl hfinished)]
          refine ⟨_, hmakes, fun hserves => .short hroom hasks hreply ?_ hshort
            fun o ho => List.eq_of_mem_replicate ho⟩
          exact hasks.rows_eq (hserves _ (List.mem_singleton_self _)) hreply
        · -- The page is full, so the walk is still open and the next call starts behind it.
          have hstill : (r.after p rows).isFinished = false := decide_eq_false hshort
          obtain ⟨exchanges, hrest, hwalk⟩ := ih hstill _
          refine ⟨_ :: exchanges, hmakes.trans hrest, fun hserves => ?_⟩
          have hrows := hasks.rows_eq (hserves _ (List.mem_cons_self ..)) hreply
          have hle : rows.length ≤ r.sizeAt p.hits := by
            rw [hrows]
            exact List.length_take_le ..
          exact .full hroom hasks hreply hrows (Nat.le_antisymm hle (Nat.not_lt.1 hshort))
            (hwalk fun x hx => hserves x (List.mem_cons_of_mem _ hx))
    · rw [nexts_of_exhausted (.inr (Nat.not_lt.1 hroom))]
      exact ⟨[], .refl s, fun _ => .exhausted (Nat.not_lt.1 hroom)
        fun o ho => List.eq_of_mem_replicate ho⟩

theorem nexts_walk (hsize : 1 ≤ r.batchSize) (ranked : List Json) (count : Nat) (s : Session) :
    ∃ exchanges, s.Makes exchanges (c.nexts r count .start s).2 ∧
      ((∀ x ∈ exchanges, serves ranked x = true) →
        Walk c r ranked 0 (c.nexts r count .start s).1 exchanges) := by
  cases h : c.searchEndpoint with
  | error f =>
    rw [nexts_of_error hsize rfl r.total_pos h]
    refine ⟨[], .refl s, fun _ => .unreachable ?_ fun o ho => ⟨f, List.eq_of_mem_replicate ho⟩⟩
    intro target htarget
    rw [h] at htarget
    cases htarget
  | ok target => exact nexts_walk_of_endpoint hsize ranked h count rfl s

end ClientConfig

end ChatRetrieval.Milvus
