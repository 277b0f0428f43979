import ChatRetrieval.Proofs.Milvus.Paging
import ChatRetrieval.Proofs.Milvus.Searching
import Mathlib.Algebra.Order.BigOperators.Group.List

/-!
Retrieving in batches. The documents are those of the batches of one walk up to its end, so there are no
more than the walk may give hits: as many as the call asks for, or the store's whole window if the call
asks for none.
-/

namespace ChatRetrieval.Milvus

/-- Whether the reply, unless it is a failure, has no more rows than were asked for. -/
def keepsLimit (x : Exchange) : Bool :=
  match x.request.payload with
  | .json body =>
    match body.get? "limit" with
    | some (.int limit) => (rowsOf x.reply).all fun rows => rows.length ≤ limit.toNat
    | _ => true
  | _ => true

namespace ClientConfig

variable {c : ClientConfig} {r : IteratorRequest} {p : Progress} {s : Session}

theorem AsksFrom.length_le {hits : Nat} {x : Exchange} (h : c.AsksFrom r hits x.request)
    (hkeeps : keepsLimit x = true) {rows : List Json} (hreply : rowsOf x.reply = some rows) :
    rows.length ≤ r.sizeAt hits := by
  obtain ⟨target, body, -, hrequest, -, hlimit⟩ := h.body
  simp only [keepsLimit, hrequest, hlimit, Json.ofNat, hreply, Option.all_some, Int.toNat_natCast,
    decide_eq_true_eq] at hkeeps
  exact hkeeps

/-- A call for the next batch that does not fail gives the rows of the page after the hits so far, or it
gives nothing, and then no page has rows. -/
theorem nextBatch_eq_ok (hsize : 1 ≤ r.batchSize) {batch : Option ResultSet} {q : Progress} {t : Session}
    (h : c.nextBatch r p s = (.ok (batch, q), t)) :
    (batch = none ∧ ∃ exchanges, s.Makes exchanges t ∧ ∀ x ∈ exchanges, rowsOf x.reply = some []) ∨
      ∃ x rows, s.Makes [x] t ∧ p.hits < r.total ∧ c.AsksFrom r p.hits x.request ∧
        rowsOf x.reply = some rows ∧ 0 < rows.length ∧ batch = some (.ofRows true rows) ∧
        q = r.after p rows := by
  by_cases hgo : p.isFinished = false ∧ p.hits < r.total
  · obtain ⟨hopen, hroom⟩ := hgo
    cases hend : c.searchEndpoint with
    | error f =>
      rw [nextBatch_of_error hsize hopen hroom hend] at h
      cases h
    | ok target =>
      obtain ⟨hafter, hresult⟩ := nextBatch_of_endpoint (s := s) hsize hopen hroom hend
      rw [h] at hafter hresult
      obtain rfl : t = _ := hafter
      obtain ⟨rows, hreply, hbatch⟩ := Option.map_eq_some_iff.1 hresult.symm
      cases hbatch
      have hmakes := s.makes_asked (c.request (r.pageAt p.hits) target)
      by_cases hempty : rows.length = 0
      · refine .inl ⟨if_pos hempty, _, hmakes, List.forall_mem_singleton.2 ?_⟩
        rw [hreply, List.length_eq_zero_iff.1 hempty]
      · exact .inr ⟨_, rows, hmakes, hroom, ⟨target, hend, rfl⟩, hreply,
          Nat.pos_of_ne_zero hempty, if_neg hempty, rfl⟩
  · have hexhausted : p.isFinished = true ∨ r.total ≤ p.hits := by
      rw [Classical.not_and_iff_not_or_not] at hgo
      exact hgo.imp (fun h => by simpa using h) Nat.not_lt.1
    rw [nextBatch_of_exhausted hexhausted] at h
    cases h
    exact .inl ⟨rfl, [], .refl s, nofun⟩

end ClientConfig

namespace Retriever

section walk

variable {c : ClientConfig} {r : Retriever} {request : IteratorRequest} {p q : Progress}
  {s t : Session}

theorem walk_of_error {f : Failure} (h : r.service.nextBatch request p s = (.error f, t))
    (batches : Nat) :
    r.walk request (batches + 1) p s = (.error (f.within "iterator next failed"), t) :=
  Action.bind_of_error (Action.within_run h _) _

theorem walk_of_end (h : r.service.nextBatch request p s = (.ok (none, q), t)) (batches : Nat) :
    r.walk request (batches + 1) p s = (.ok [], t) :=
  Action.bind_of_ok (Action.within_run h _) _

theorem walk_of_batch {batch : ResultSet}
    (h : r.service.nextBatch request p s = (.ok (some batch, q), t)) (hsize : batch.size ≠ 0)
    (batches : Nat) :
    r.walk request (batches + 1) p s =
      (Action.lift (Result.within "failed to convert batch results" (r.config.convert batch)) >>=
        fun docs => r.walk request batches q >>= fun more => pure (docs ++ more)) t := by
  rw [walk, Action.bind_of_ok (Action.within_run h _)]
  simp only [hsize, if_false]

variable (hservice : r.service = c.service) (hsize : 1 ≤ request.batchSize)
include hservice hsize

/-- The documents of a walk that comes to its end are those of the pages with rows, one after another. -/
theorem walk_eq_ok {batches : Nat} {docs : List Document}
    (h : r.walk request batches p s = (.ok docs, t)) :
    ∃ (exchanges : List Exchange) (found : List (ResultSet × List Document)),
      s.Makes exchanges t ∧ found.map (·.1) = (pages exchanges).filterMap batchOf ∧
      (∀ y ∈ found, r.config.convert y.1 = .ok y.2) ∧ docs = found.flatMap (·.2) ∧
      ((∀ x ∈ exchanges, keepsLimit x = true) → p.hits ≤ request.total →
        p.hits + (found.map (·.1.size)).sum ≤ request.total) := by
  induction batches generalizing p s docs with
  | zero =>
    obtain ⟨rfl, rfl⟩ := Action.pure_eq_ok h
    exact ⟨[], [], .refl _, rfl, nofun, rfl, fun _ hle => hle⟩
  | succ batches ih =>
    rcases hrun : r.service.nextBatch request p s with ⟨f | ⟨_ | batch, q⟩, u⟩
    · rw [walk_of_error hrun] at h
      cases h
    · rw [walk_of_end hrun] at h
      cases h
      rw [hservice] at hrun
      obtain ⟨-, exchanges, hmakes, hempty⟩ | ⟨_, _, -, -, -, -, -, ⟨⟩, -⟩ :=
        c.nextBatch_eq_ok hsize hrun
      refine ⟨exchanges, [], hmakes, ?_, nofun, rfl, fun _ hle => hle⟩
      refine (List.filterMap_eq_nil_iff.2 fun rows hrows => ?_).symm
      obtain ⟨x, hx, hreply⟩ := List.mem_filterMap.1 hrows
      cases (hempty x hx).symm.trans hreply
      rfl
    · have hbatch := hrun
      rw [hservice] at hbatch
      obtain ⟨⟨⟩, -⟩ | ⟨x, rows, hmakes, hroom, hasks, hreply, hpos, ⟨⟩, rfl⟩ :=
        c.nextBatch_eq_ok hsize hbatch
      rw [walk_of_batch hrun (Nat.ne_of_gt hpos)] at h
      obtain ⟨first, _, hlift, hmore⟩ := Action.bind_eq_ok h
      obtain ⟨hconvert, rfl⟩ := Action.lift_eq_ok hlift
      obtain ⟨more, _, hrest, hdocs⟩ := Action.bind_eq_ok hmore
      obtain ⟨rfl, rfl⟩ := Action.pure_eq_ok hdocs
      obtain ⟨exchanges, found, hmakes', hpages, hall, rfl, hwithin⟩ := ih hrest
      refine ⟨x :: exchanges, (.ofRows true rows, first) :: found, hmakes.trans hmakes', ?_, ?_, rfl, ?_⟩
      · rw [pages_cons_of_some hreply, List.filterMap_cons_some (batchOf_of_pos hpos), ← hpages,
          List.map_cons]
      · exact List.forall_mem_cons.2 ⟨Result.within_eq_ok_iff.1 hconvert, hall⟩
      · intro hkeeps _
        -- The page is no longer than the room that was left, so the walk stays within the total.
        have hlength := hasks.length_le (hkeeps x (List.mem_cons_self ..)) hreply
        have hsizeAt : request.sizeAt p.hits ≤ request.total - p.hits := Nat.min_le_right _ _
        have hhits : (request.after p rows).hits = p.hits + rows.length := rfl
        have hrows : (ResultSet.ofRows true rows).size = rows.length := rfl
        have hsum := hwithin (fun y hy => hkeeps y (List.mem_cons_of_mem _ hy)) (by omega)
        rw [List.map_cons, List.sum_cons, hrows]
        omega

end walk

variable {r : Retriever}

theorem queryVector_eq_ok {mode query : String} {o : RetrieveOptions} {vector : List Single}
    {s t : Session} (h : r.queryVector mode query o s = (.ok vector, t)) : s.Makes [] t := by
  obtain ⟨exchanges, hmakes, hnone⟩ := asksOnly_queryVector mode (fun _ => False) s
  obtain rfl : exchanges = [] := List.eq_nil_iff_forall_not_mem.2 hnone
  rw [h] at hmakes
  exact hmakes

theorem length_documents (result : ResultSet) : result.documents.length = result.size := by
  rw [ResultSet.documents, List.length_map, List.length_range]

theorem retrieve_eq_ok {c : ClientConfig} {r : Retriever} (hservice : r.service = c.service)
    {metric : Metric} {batchSize : Nat} {params : Dict String String}
    (hmode : r.mode = .iterator metric batchSize params) {query : String} {o : RetrieveOptions}
    {s : Session} {docs : List Document} (hdocs : (r.retrieve query o s).1 = .ok docs) :
    ∃ (vector : List Single) (exchanges : List Exchange) (found : List (ResultSet × List Document)),
      s.Makes exchanges (r.retrieve query o s).2 ∧
      found.map (·.1) = (pages exchanges).filterMap batchOf ∧
      (∀ y ∈ found, r.config.convert y.1 = .ok y.2) ∧ docs = found.flatMap (·.2) ∧
      ((∀ x ∈ exchanges, keepsLimit x = true) → (found.map (·.1.size)).sum ≤
        (r.iteratorRequest metric batchSize params vector o).total) := by
  rcases hrun : r.retrieve query o s with ⟨result, t⟩
  rw [hrun] at hdocs
  obtain rfl : result = .ok docs := hdocs
  simp only [retrieve, hmode] at hrun
  obtain ⟨vector, _, hvector, hsearch⟩ := Action.bind_eq_ok hrun
  obtain ⟨_, _, hlift, hwalk⟩ := Action.bind_eq_ok hsearch
  obtain ⟨hcheck, rfl⟩ := Action.lift_eq_ok hlift
  have hsize : 1 ≤ batchSize := by
    by_contra hzero
    obtain rfl : batchSize = 0 := by omega
    cases hcheck
  obtain ⟨exchanges, found, hmakes, hpages, hconvert, hdocs, hwithin⟩ :=
    walk_eq_ok hservice hsize hwalk
  refine ⟨vector, exchanges, found, (queryVector_eq_ok hvector).trans hmakes, hpages, hconvert, hdocs,
    fun hkeeps => ?_⟩
  rw [← Nat.zero_add (found.map (·.1.size)).sum]
  exact hwithin hkeeps (Nat.zero_le _)

/-- The documents that are found in batches are those of the pages with rows, converted page by page. If
no page has more rows than were asked for, they come from no more rows than the limit, that of the call
or else the configured one; but a limit of zero is none, and only the window bounds them then. -/
theorem retrieve_within (c : ClientConfig) (r : Retriever) (hservice : r.service = c.service)
    (metric : Metric) (batchSize : Nat) (params : Dict String String)
    (hmode : r.mode = .iterator metric batchSize params) (query : String) (o : RetrieveOptions)
    (s : Session) (docs : List Document) (hdocs : (r.retrieve query o s).1 = .ok docs) :
    let limit := o.topK.getD r.config.topK
    let most := if limit = 0 then 16384 else min limit 16384
    ∃ (exchanges : List Exchange) (found : List (ResultSet × List Document)),
      s.Makes exchanges (r.retrieve query o s).2 ∧
      found.map (·.1) = (pages exchanges).filterMap batchOf ∧
      (∀ y ∈ found, r.config.convert y.1 = .ok y.2) ∧ docs = found.flatMap (·.2) ∧
      ((∀ x ∈ exchanges, keepsLimit x = true) →
        (found.map (·.1.size)).sum ≤ most ∧
        (r.config.converter = none ∨ (∀ y ∈ found, y.2.length ≤ y.1.size) → docs.length ≤ most)) := by
  intro limit most
  obtain ⟨_, exchanges, found, hmakes, hpages, hconvert, rfl, hwithin⟩ :=
    retrieve_eq_ok hservice hmode hdocs
  refine ⟨exchanges, found, hmakes, hpages, hconvert, rfl, fun hkeeps => ?_⟩
  have hmost : (found.map (·.1.size)).sum ≤ most := hwithin hkeeps
  refine ⟨hmost, fun hfew => ?_⟩
  have hone : ∀ y ∈ found, y.2.length ≤ y.1.size := by
    rcases hfew with hconverter | hfew
    · intro y hy
      have hdefault := hconvert y hy
      rw [RetrieverConfig.convert, hconverter] at hdefault
      rw [← Except.ok.inj hdefault]
      exact Nat.le_of_eq (length_documents y.1)
    · exact hfew
  rw [List.length_flatMap]
  exact Nat.le_trans (List.sum_le_sum hone) hmost

def reader (batchSize : Nat) : Retriever where
  service := (ClientConfig.ofAddress "http://milvus:19530").service
  config := RetrieverConfig.default
  mode := .iterator .l2 batchSize .empty

def asking (topK : Nat) : RetrieveOptions where
  topK := some topK
  embedder := some ⟨fun texts => .ok (texts.map fun _ => [Double.ofNat 1])⟩
  filter := none
  grouping := none

def answeringPages (rows : List (List Json)) : Session :=
  ⟨rows.map fun page => answering (.arr page), [], [], 0, 0⟩

theorem retrieve_within_threeRows :
    let s := answeringPages [threeRows.take 2, threeRows.drop 2]
    ∃ docs, ((reader 2).retrieve "q" (asking 3) s).1 = .ok docs ∧ docs.map (·.id) = ["a", "b", "c"] ∧
      docs.length ≤ 3 := by
  intro s
  have hids : ((reader 2).retrieve "q" (asking 3) s).1.toOption.map (·.map (·.id)) =
      some ["a", "b", "c"] := by decide +kernel
  obtain ⟨docs, hdocs, hids⟩ := Option.map_eq_some_iff.1 hids
  have hok := Result.eq_ok_of_toOption hdocs
  obtain ⟨exchanges, found, hmakes, -, -, -, hwithin⟩ := retrieve_within
    (.ofAddress "http://milvus:19530") (reader 2) rfl .l2 2 .empty rfl "q" (asking 3) s docs hok
  have hkeeps : ∀ x ∈ exchanges, keepsLimit x = true := by
    rw [← List.all_eq_true, hmakes.eq_zipWith]
    decide +kernel
  exact ⟨docs, hok, hids, (hwithin hkeeps).2 (.inl rfl)⟩

/-- A call for no hits gets three, though the page has no more rows than were asked for. -/
theorem retrieve_zero :
    let s := answeringPages [threeRows]
    let run := (reader 10).retrieve "q" (asking 0) s
    ∃ docs exchanges, run.1 = .ok docs ∧ s.Makes exchanges run.2 ∧
      (∀ x ∈ exchanges, keepsLimit x = true) ∧ docs.length = 3 := by
  intro s run
  have hlength : run.1.toOption.map List.length = some 3 := by decide +kernel
  obtain ⟨docs, hdocs, hlength⟩ := Option.map_eq_some_iff.1 hlength
  have hok := Result.eq_ok_of_toOption hdocs
  obtain ⟨_, exchanges, _, hmakes, -⟩ := retrieve_eq_ok (c := .ofAddress "http://milvus:19530")
    (r := reader 10) rfl rfl hok
  refine ⟨docs, exchanges, hok, hmakes, ?_, hlength⟩
  rw [← List.all_eq_true, hmakes.eq_zipWith]
  decide +kernel

end Retriever

end ChatRetrieval.Milvus
