import ChatRetrieval.Proofs.Milvus.Draining
import ChatRetrieval.Proofs.Milvus.Settings

/-!
Metrics and parameters of searches. A mode puts its metric into the map of its parameters, and the body
takes them apart again, so the two can meet under one key: there the order of writing decides.
-/

namespace ChatRetrieval.Milvus

open Json (map_snd_field? reads_of_fields)

def metricSent (search : Json) : Option Json :=
  (search.get? "searchParams").bind (·.get? "metricType")

def paramSent (search : Json) (key : String) : Option Json :=
  ((search.get? "searchParams").bind (·.get? "params")).bind (·.get? key)

/-- A search is made with this metric and with the parameters under their own names. -/
structure SearchesBy (metric : Option String) (params : Dict String String) (search : Json) : Prop where
  metric : metricSent search = metric.map .str
  params : ∀ key, key ≠ metricKey → paramSent search key = (params.get? key).map Param.toJson

section params

variable {params : Dict String String} {search : Json}

theorem bind_fieldDict (name : String) (d : Dict String Json) (key : String) :
    ((Json.fieldDict name d).map (·.2)).bind (·.get? key) = d.get? key := by
  unfold Json.fieldDict
  split
  case isTrue hempty =>
    rw [Dict.get?, List.isEmpty_iff.1 hempty]
    rfl
  case isFalse =>
    exact Json.get?_ofDict d key

theorem searchesBy_of_get? {metric : Option String} {all : Dict String String}
    (hmetric : all.get? metricKey = metric)
    (hparams : ∀ key, key ≠ metricKey → all.get? key = params.get? key)
    (h : search.get? "searchParams" = some (paramsToJson all)) : SearchesBy metric params search := by
  have hreads := @reads_of_fields ["metricType", "params"] _ (paramsToJson all) rfl (by simp) (by decide)
  simp only [List.forall₂_cons, map_snd_field?] at hreads
  obtain ⟨hsent, hothers, -⟩ := hreads
  constructor
  · rw [metricSent, h, Option.bind_some, hsent, hmetric]
  · intro key hkey
    rw [paramSent, h, Option.bind_some, hothers, bind_fieldDict, Dict.get?_map,
      Dict.get?_erase_of_ne _ hkey, hparams key hkey]

theorem SearchesBy.withDatabase {metric : Option String} (h : SearchesBy metric params search)
    (c : ClientConfig) : SearchesBy metric params (c.withDatabase search) := by
  have hsame : (c.withDatabase search).get? "searchParams" = search.get? "searchParams" :=
    ClientConfig.get?_withDatabase (by decide)
  constructor
  · rw [metricSent, hsame]
    exact h.metric
  · intro key hkey
    rw [paramSent, hsame]
    exact h.params key hkey

end params

/-- What the mode searches by. In a leg the metric goes before a parameter of that name, in a walk in
batches it goes behind one. -/
def SearchMode.SearchesWith (mode : SearchMode) (body : Json) : Prop :=
  match mode with
  | .approximate metric | .sparse metric => SearchesBy (some metric.name) .empty body
  | .range metric radius inner =>
    SearchesBy (some metric.name) (Dict.ofList (Retriever.rangeParams metric radius inner)) body
  | .iterator metric _ params =>
    SearchesBy (some ((params.get? metricKey).getD metric.name)) params body
  | .hybrid legs _ _ => ∃ searches, body.get? "search" = some (.arr searches) ∧
      List.Forall₂ (fun leg search =>
        SearchesBy ((leg.metric.map (·.name)).or (leg.params.get? metricKey)) leg.params search)
        legs searches
  | .scalar => body.get? "searchParams" = none

theorem SearchMode.SearchesWith.withDatabase {mode : SearchMode} {body : Json}
    (h : mode.SearchesWith body) (c : ClientConfig) : mode.SearchesWith (c.withDatabase body) := by
  cases mode with
  | approximate _ => exact SearchesBy.withDatabase h c
  | sparse _ => exact SearchesBy.withDatabase h c
  | range _ _ _ => exact SearchesBy.withDatabase h c
  | iterator _ _ _ => exact SearchesBy.withDatabase h c
  | hybrid _ _ _ =>
    obtain ⟨searches, hsearches, hlegs⟩ := h
    exact ⟨searches, (ClientConfig.get?_withDatabase (by decide)).trans hsearches, hlegs⟩
  | scalar => exact (ClientConfig.get?_withDatabase (by decide)).trans h

namespace Retriever

variable {r : Retriever} {query : String} {o : RetrieveOptions} {body : Json}

theorem get?_metric (metric : Metric) (key : String) :
    (Dict.ofList [(metricKey, metric.name)]).get? key =
      if key = metricKey then some metric.name else none := by
  rw [Dict.get?_ofList]
  exact lookup_cons_eq_ite ..

theorem get?_rangeParams (metric : Metric) (radius : Double) (inner : Option Double) :
    (Dict.ofList (rangeParams metric radius inner)).get? metricKey = some metric.name := by
  rw [Dict.get?_ofList]
  cases inner <;> rfl

theorem get?_legParams (metric : Option Metric) (params : Dict String String) (key : String) :
    (params.insertMany (metric.map fun m => (metricKey, m.name)).toList).get? key =
      (if key = metricKey then metric.map (·.name) else none).or (params.get? key) := by
  rw [Dict.get?_insertMany_eq]
  cases metric with
  | none => exact congrArg (Option.or · _) (ite_self none).symm
  | some metric => exact congrArg (Option.or · _) (lookup_cons_eq_ite ..)

theorem searchesBy_of_leg_eq_ok {s : SubRequest} {vector : List Single} {l : Leg}
    (h : r.leg query vector o s = .ok l) :
    SearchesBy ((s.metric.map (·.name)).or (s.params.get? metricKey)) s.params l.toJson := by
  obtain ⟨hparams, -, -⟩ := leg_eq_ok h
  refine searchesBy_of_get? ?_ (fun key hkey => ?_) l.reads_toJson.2
  · rw [hparams, get?_legParams, if_pos rfl]
  · rw [hparams, get?_legParams, if_neg hkey, Option.none_or]

theorem searchesBy_searchRequest (field : String) (data : QueryData) (metric : Metric)
    (o : RetrieveOptions) : SearchesBy (some metric.name) .empty
      (r.searchRequest field data [(metricKey, metric.name)] o).toJson :=
  searchesBy_of_get? ((get?_metric metric _).trans (if_pos rfl))
    (fun key hkey => (get?_metric metric key).trans (if_neg hkey))
    (r.reads_searchRequest field data _ o).2.2

theorem Sends.searchesWith (h : r.Sends query o body) : r.mode.SearchesWith body := by
  cases h with
  | approximate hmode _ =>
    rw [hmode]
    exact searchesBy_searchRequest ..
  | sparse hmode =>
    rw [hmode]
    exact searchesBy_searchRequest ..
  | scalar hmode =>
    rw [hmode]
    exact (r.queryRequest query o).get?_searchParams
  | @range metric radius inner hmode vector =>
    rw [hmode]
    exact searchesBy_of_get? (get?_rangeParams metric radius inner) (fun _ _ => rfl)
      (r.reads_searchRequest _ _ _ o).2.2
  | @page metric batchSize params hmode vector p =>
    rw [hmode]
    refine searchesBy_of_get? ?_ ?_
      ((r.iteratorRequest metric batchSize params vector o).reads_page p).2.2.1
    · rw [iteratorRequest, Dict.get?_union, get?_metric, if_pos rfl]
      cases params.get? metricKey <;> rfl
    · intro key hkey
      rw [iteratorRequest, Dict.get?_union, get?_metric, if_neg hkey, Option.or_none]
  | @hybrid _ _ _ hmode _ request hrequest =>
    obtain ⟨-, -, -, -, hlegs⟩ := hybridRequest_eq_ok hrequest
    rw [hmode]
    refine ⟨_, request.reads_toJson.2, ?_⟩
    rw [List.forall₂_map_right_iff]
    exact hlegs.imp fun _ _ => searchesBy_of_leg_eq_ok

/-- Searches by a vector or a text are made with the metric of their mode, or of their leg if it has one,
and other parameters are sent under their own names. A walk in batches is made with its metric unless its
parameters name one: that is sent instead. -/
theorem retrieve_searches_with (c : ClientConfig) (config : RetrieverConfig) (mode : SearchMode)
    (query : String) (o : RetrieveOptions) :
    (retrieve ⟨c.service, config, mode⟩ query o).Asks fun request =>
      ∃ body, request.payload = .json body ∧ mode.SearchesWith body :=
  asks_retrieve_body c config mode fun _ hsends => hsends.searchesWith.withDatabase c

def metricAsked (request : ChatRetrieval.Request) : Option Json :=
  match request.payload with
  | .json body => metricSent body
  | _ => none

def twoMetrics : Retriever :=
  { reader 10 with mode := .iterator .l2 10 (.ofList [(metricKey, Metric.ip.name)]) }

/-- The inner product is what it asks for. -/
theorem retrieve_with_other_metric :
    let run := twoMetrics.retrieve "q" (asking 1) (answeringPages [threeRows.take 1])
    run.1.isOk = true ∧ run.2.sent.map metricAsked = [some (.str Metric.ip.name)] ∧
      ¬∀ request ∈ run.2.sent, metricAsked request = some (.str Metric.l2.name) := by
  intro run
  have hsent : run.2.sent.map metricAsked = [some (.str Metric.ip.name)] := by decide +kernel
  refine ⟨by decide +kernel, hsent, fun hall => ?_⟩
  obtain ⟨request, hrequest, hasked⟩ := List.map_eq_singleton_iff.1 hsent
  have hmetric := hasked.symm.trans (hall request (hrequest ▸ List.mem_singleton_self request))
  exact absurd hmetric (by decide)

end Retriever

end ChatRetrieval.Milvus
