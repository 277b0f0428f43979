import ChatRetrieval.Milvus.Retriever
import ChatRetrieval.Proofs.Http.Trace
import ChatRetrieval.Proofs.Milvus.Iterator

/-!
What retrieving sends. A mode sends requests of one kind, all of them made from the configuration, the
mode and the call; where documents are found at least one was sent.
-/

namespace ChatRetrieval.Milvus

open ChatRetrieval.Action (AsksOnly Asks)

namespace ClientConfig

variable {c : ClientConfig}

/-- The request is a call with such a body. -/
def Bears (c : ClientConfig) (P : Json → Prop) (request : Request) : Prop :=
  ∃ target body, P body ∧ request = c.request body target

theorem asks_call {P : Json → Prop} {body : Json} (h : P body) (path : String) :
    (c.call path body).Asks (c.Bears P) := by
  intro s
  cases hend : c.endpoint path with
  | error f =>
    rw [call_of_error hend]
    exact ⟨[], .refl s, nofun, nofun⟩
  | ok target =>
    rw [call_eq body s hend]
    refine ⟨_, s.makes_asked _, fun x hx => ?_, fun _ => List.cons_ne_nil _ _⟩
    rw [List.mem_singleton.1 hx]
    exact ⟨target, body, h, rfl⟩

theorem asks_searchRows {P : Json → Prop} {body : Json} (h : P body) :
    (c.searchRows body).Asks (c.Bears P) :=
  (asks_call h _).bind fun _ => .lift _

section batches

variable {P : Json → Prop} {r : IteratorRequest} (h : ∀ p, P (r.page p))
include h

theorem asks_nextBatch {p : Progress} (hgo : (p.isFinished || decide (r.nextSize p = 0)) = false) :
    (c.nextBatch r p).Asks (c.Bears P) := by
  unfold nextBatch
  simp only [hgo, Bool.false_eq_true, if_false]
  refine (asks_searchRows (h p)).bind fun result => ?_
  split <;> exact .pure _

theorem asksOnly_nextBatch (p : Progress) : (c.nextBatch r p).AsksOnly (c.Bears P) := by
  cases hgo : p.isFinished || decide (r.nextSize p = 0) with
  | false => exact (asks_nextBatch h hgo).asksOnly
  | true =>
    unfold nextBatch
    simp only [hgo, if_true]
    exact .pure _

end batches

end ClientConfig

open ClientConfig

namespace Retriever

variable {r : Retriever} {query : String} {o : RetrieveOptions}

/-- The bodies of requests that retrieving sends. -/
inductive Sends (r : Retriever) (query : String) (o : RetrieveOptions) : Json → Prop
  | approximate {metric : Metric} (h : r.mode = .approximate metric) (vector : List Single) :
      Sends r query o (r.searchRequest r.config.vectorField (.vector vector)
        [(metricKey, metric.name)] o).toJson
  | sparse {metric : Metric} (h : r.mode = .sparse metric) :
      Sends r query o (r.searchRequest r.config.sparseField (.text query)
        [(metricKey, metric.name)] o).toJson
  | scalar (h : r.mode = .scalar) : Sends r query o (r.queryRequest query o).toJson
  | range {metric : Metric} {radius : Double} {inner : Option Double}
      (h : r.mode = .range metric radius inner) (vector : List Single) :
      Sends r query o (r.searchRequest r.config.vectorField (.vector vector)
        (rangeParams metric radius inner) o).toJson
  | page {metric : Metric} {batchSize : Nat} {params : Dict String String}
      (h : r.mode = .iterator metric batchSize params) (vector : List Single) (p : Progress) :
      Sends r query o ((r.iteratorRequest metric batchSize params vector o).page p)
  | hybrid {legs : List SubRequest} {reranker : Reranker} {topK : Nat}
      (h : r.mode = .hybrid legs reranker topK) (vector : List Single) {request : HybridRequest}
      (hrequest : r.hybridRequest legs reranker topK query vector o = .ok request) :
      Sends r query o request.toJson

theorem reads_searchRequest (r : Retriever) (field : String) (data : QueryData)
    (params : List (String × String)) (o : RetrieveOptions) :
    Carries r.config.collection r.config.outputFields r.config.partitions
      r.config.consistency.requested (r.searchRequest field data params o).toJson ∧
    Restricts o.filterText o.grouping (r.searchRequest field data params o).toJson ∧
    (r.searchRequest field data params o).toJson.get? "searchParams" =
      some (paramsToJson (Dict.ofList params)) :=
  (r.searchRequest field data params o).reads_toJson

theorem leg_eq_ok {s : SubRequest} {vector : List Single} {l : Leg}
    (h : r.leg query vector o s = .ok l) :
    l.params = s.params.insertMany (s.metric.map fun m => (metricKey, m.name)).toList ∧
      l.filter = o.filterText ∧ l.grouping = o.grouping := by
  obtain ⟨data, -, h⟩ := Result.bind_eq_ok h
  cases h
  exact ⟨rfl, rfl, rfl⟩

theorem hybridRequest_eq_ok {legs : List SubRequest} {reranker : Reranker} {topK : Nat}
    {vector : List Single} {request : HybridRequest}
    (h : r.hybridRequest legs reranker topK query vector o = .ok request) :
    request.collection = r.config.collection ∧ request.outputFields = r.config.outputFields ∧
      request.partitions = r.config.partitions ∧
      request.consistency = r.config.consistency.requested ∧
      List.Forall₂ (fun s l => r.leg query vector o s = .ok l) legs request.legs := by
  unfold hybridRequest at h
  split at h
  · cases h
  · obtain ⟨searches, hlegs, h⟩ := Result.bind_eq_ok h
    cases h
    exact ⟨rfl, rfl, rfl, rfl, Result.mapM_eq_ok_iff.1 hlegs⟩

theorem asksOnly_queryVector (mode : String) (P : ChatRetrieval.Request → Prop) :
    (r.queryVector mode query o).AsksOnly P := by
  unfold queryVector
  split
  · exact .fail _
  · refine ((Embedder.asksOnly_embed _ _ P).within _).bind fun vectors => ?_
    split
    · exact .pure _
    · exact .fail _

section http

variable {c : ClientConfig} (hservice : r.service = c.service)
include hservice

theorem asks_searchDocuments {P : Json → Prop} {request : SearchRequest} (h : P request.toJson) :
    (r.searchDocuments request).Asks (c.Bears P) := by
  have hsearch : (c.search request).Asks (c.Bears P) := (asks_searchRows h).bind fun _ => .pure _
  rw [searchDocuments, hservice]
  exact (hsearch.within _).bind fun _ => .lift _

theorem asksOnly_walk {P : Json → Prop} {request : IteratorRequest} (h : ∀ p, P (request.page p))
    (batches : Nat) (p : Progress) : (r.walk request batches p).AsksOnly (c.Bears P) := by
  induction batches generalizing p with
  | zero => exact .pure _
  | succ batches ih =>
    rw [walk, hservice]
    refine ((asksOnly_nextBatch h p).within _).bind fun next => ?_
    split
    · exact .pure _
    · split
      · exact .pure _
      · exact (AsksOnly.lift _).bind fun _ => (ih _).bind fun _ => .pure _

theorem asks_walk {P : Json → Prop} {request : IteratorRequest} (h : ∀ p, P (request.page p))
    (hsize : request.batchSize ≠ 0) (batches : Nat) :
    (r.walk request (batches + 1) .start).Asks (c.Bears P) := by
  have hgo : (Progress.start.isFinished || decide (request.nextSize .start = 0)) = false := by
    have htotal := request.total_pos
    have hsize : request.nextSize .start ≠ 0 := by
      simp only [IteratorRequest.nextSize, Progress.start]
      omega
    rw [decide_eq_false hsize]
    rfl
  rw [walk, hservice]
  refine ((asks_nextBatch h hgo).within _).bind fun next => ?_
  split
  · exact .pure _
  · split
    · exact .pure _
    · exact (AsksOnly.lift _).bind fun _ => (asksOnly_walk hservice h _ _).bind fun _ => .pure _

/-- All requests bear bodies that the mode makes of the configuration and the call, and there is one
where documents are given. -/
theorem asks_retrieve : (r.retrieve query o).Asks (c.Bears (r.Sends query o)) := by
  unfold retrieve
  split
  case h_1 metric hmode =>
    exact .after (asksOnly_queryVector _ _) fun vector =>
      asks_searchDocuments hservice (.approximate hmode vector)
  case h_2 metric hmode => exact asks_searchDocuments hservice (.sparse hmode)
  case h_3 hmode =>
    rw [hservice]
    exact (((asks_call (.scalar hmode) _).bind fun _ => .lift _).within _).bind fun _ => .lift _
  case h_4 metric radius inner hmode =>
    exact .after (asksOnly_queryVector _ _) fun vector =>
      asks_searchDocuments hservice (.range hmode vector)
  case h_5 metric batchSize params hmode =>
    refine .after (asksOnly_queryVector _ _) fun vector => .lift_bind fun _ hcheck => ?_
    have hsize : batchSize ≠ 0 := by
      rintro rfl
      cases hcheck
    exact asks_walk hservice (.page hmode vector) hsize _
  case h_6 legs reranker topK hmode =>
    refine .after (asksOnly_queryVector _ _) fun vector => .lift_bind fun request hwithin => ?_
    have hrequest := Result.within_eq_ok_iff.1 hwithin
    rw [hservice]
    exact (((asks_call (.hybrid hmode vector hrequest) _).bind fun _ =>
      (AsksOnly.lift _).bind fun _ => .pure _).within _).bind fun _ => .lift _

end http

theorem asks_retrieve_body (c : ClientConfig) (config : RetrieverConfig) (mode : SearchMode)
    {P : Json → Prop}
    (h : ∀ body, Sends ⟨c.service, config, mode⟩ query o body → P (c.withDatabase body)) :
    (retrieve ⟨c.service, config, mode⟩ query o).Asks fun request =>
      ∃ body, request.payload = .json body ∧ P body := by
  let r : Retriever := ⟨c.service, config, mode⟩
  have hasks : (r.retrieve query o).Asks (c.Bears (r.Sends query o)) := asks_retrieve rfl
  refine hasks.mono ?_
  rintro request ⟨target, body, hsends, rfl⟩
  exact ⟨c.withDatabase body, rfl, h body hsends⟩

end Retriever

end ChatRetrieval.Milvus
