import ChatRetrieval.Proofs.Milvus.Searching

/-!
Settings that all modes share. What is configured about the collection is in every body, and the filter and
the grouping of a call are in force in every search that is made for it.
-/

namespace ChatRetrieval.Milvus

section database

variable {c : ClientConfig} {body : Json}

theorem Carries.withDatabase {collection : String} {outputFields partitions : List String}
    {consistency : Option Consistency}
    (h : Carries collection outputFields partitions consistency body) :
    Carries collection outputFields partitions consistency (c.withDatabase body) where
  collection := (ClientConfig.get?_withDatabase (by decide)).trans h.collection
  outputFields := (ClientConfig.get?_withDatabase (by decide)).trans h.outputFields
  partitions := (ClientConfig.get?_withDatabase (by decide)).trans h.partitions
  consistency := (ClientConfig.get?_withDatabase (by decide)).trans h.consistency

theorem Restricts.withDatabase {filter : Option String} {grouping : Option Grouping}
    (h : Restricts filter grouping body) : Restricts filter grouping (c.withDatabase body) where
  filter := (ClientConfig.get?_withDatabase (by decide)).trans h.filter
  groupBy := (ClientConfig.get?_withDatabase (by decide)).trans h.groupBy
  size := (ClientConfig.get?_withDatabase (by decide)).trans h.size
  strict := (ClientConfig.get?_withDatabase (by decide)).trans h.strict

end database

/-- The filter and the grouping of a call are in force: in the search by a vector or a text, in each of
the searches of a hybrid one, and where the query text selects rows, the filter does so with it. -/
def SearchMode.Applies (mode : SearchMode) (query : String) (o : RetrieveOptions) (body : Json) : Prop :=
  match mode with
  | .scalar => ∃ text, body.get? "filter" = some (.str text) ∧ (o.filterText = none → text = query) ∧
      ∀ f, o.filterText = some f →
        text = if query = "" then f else "(" ++ query ++ ") and (" ++ f ++ ")"
  | .hybrid legs _ _ => ∃ searches, body.get? "search" = some (.arr searches) ∧
      searches.length = legs.length ∧
      ∀ search ∈ searches, Restricts o.filterText o.grouping search
  | .approximate _ | .sparse _ | .range _ _ _ | .iterator _ _ _ =>
    Restricts o.filterText o.grouping body

theorem SearchMode.Applies.withDatabase {mode : SearchMode} {query : String} {o : RetrieveOptions}
    {body : Json} (h : mode.Applies query o body) (c : ClientConfig) :
    mode.Applies query o (c.withDatabase body) := by
  cases mode with
  | approximate _ => exact Restricts.withDatabase h
  | sparse _ => exact Restricts.withDatabase h
  | range _ _ _ => exact Restricts.withDatabase h
  | iterator _ _ _ => exact Restricts.withDatabase h
  | scalar =>
    obtain ⟨text, htext, hrest⟩ := h
    exact ⟨text, (ClientConfig.get?_withDatabase (by decide)).trans htext, hrest⟩
  | hybrid _ _ _ =>
    obtain ⟨searches, hsearches, hrest⟩ := h
    exact ⟨searches, (ClientConfig.get?_withDatabase (by decide)).trans hsearches, hrest⟩

namespace Retriever

variable {r : Retriever} {query : String} {o : RetrieveOptions} {body : Json}

theorem restricts_of_leg_eq_ok {s : SubRequest} {vector : List Single} {l : Leg}
    (h : r.leg query vector o s = .ok l) : Restricts o.filterText o.grouping l.toJson := by
  obtain ⟨-, hfilter, hgrouping⟩ := leg_eq_ok h
  rw [← hfilter, ← hgrouping]
  exact l.reads_toJson.1

theorem Sends.carries (h : r.Sends query o body) : Carries r.config.collection r.config.outputFields
    r.config.partitions r.config.consistency.requested body := by
  cases h with
  | approximate _ _ => exact (r.reads_searchRequest _ _ _ o).1
  | sparse _ => exact (r.reads_searchRequest _ _ _ o).1
  | scalar _ => exact (r.queryRequest query o).reads_toJson.1
  | range _ _ => exact (r.reads_searchRequest _ _ _ o).1
  | @page metric batchSize params _ vector p =>
    exact ((r.iteratorRequest metric batchSize params vector o).reads_page p).1
  | @hybrid _ _ _ _ _ request hrequest =>
    obtain ⟨hcollection, houtput, hpartitions, hconsistency, -⟩ := hybridRequest_eq_ok hrequest
    rw [← hcollection, ← houtput, ← hpartitions, ← hconsistency]
    exact request.reads_toJson.1

theorem Sends.applies (h : r.Sends query o body) : r.mode.Applies query o body := by
  cases h with
  | approximate hmode _ =>
    rw [hmode]
    exact (r.reads_searchRequest _ _ _ o).2.1
  | sparse hmode =>
    rw [hmode]
    exact (r.reads_searchRequest _ _ _ o).2.1
  | scalar hmode =>
    rw [hmode]
    refine ⟨_, (r.queryRequest query o).reads_toJson.2, fun hnone => ?_, fun f hf => ?_⟩
    · rw [queryRequest, hnone]
      rfl
    · simp only [queryRequest, hf, scalarFilter, String.isEmpty_iff]
  | range hmode _ =>
    rw [hmode]
    exact (r.reads_searchRequest _ _ _ o).2.1
  | @page metric batchSize params hmode vector p =>
    rw [hmode]
    exact ((r.iteratorRequest metric batchSize params vector o).reads_page p).2.1
  | @hybrid _ _ _ hmode _ request hrequest =>
    obtain ⟨-, -, -, -, hlegs⟩ := hybridRequest_eq_ok hrequest
    rw [hmode]
    refine ⟨_, request.reads_toJson.2, ?_, ?_⟩
    · rw [List.length_map, hlegs.length_eq]
    · intro search hsearch
      obtain ⟨l, hl, rfl⟩ := List.mem_map.1 hsearch
      obtain ⟨s, -, hs⟩ := Result.exists_of_mem_forall₂ hlegs.flip hl
      exact restricts_of_leg_eq_ok hs

end Retriever

end ChatRetrieval.Milvus
