import ChatRetrieval.Elastic.SearchMode
import ChatRetrieval.Proofs.Http.Session

/-!
The filters of a call. A request finds documents in branches, and filters reach all hits of a branch
from the filter list that applies to the whole of it.
-/

namespace ChatRetrieval.Elastic

/-- One of the ways in which a request finds documents. -/
inductive Branch where
  | nearest (search : NearestSearch)
  | query (query : Query)

/-- The filter list that every hit of a query passes: that of its boolean operators, or of those of
the query whose hits its script scores. -/
def Query.filterList (q : Query) : List Query :=
  match q.junction, q.scriptScore with
  | some j, _ => j.filter
  | none, some scored => (scored.query.junction.map Junction.filter).getD []
  | none, none => []

def Branch.filterList : Branch → List Query
  | nearest search => search.filter
  | query q => q.filterList

/-- The queries that all hits of a query pass: itself, and what the clauses around it demand. -/
inductive Query.Requires : Query → Query → Prop
  | self (q : Query) : Requires q q
  | filter {q f g : Query} {j : Junction Query} :
    q.junction = some j → f ∈ j.filter → Requires f g → Requires q g
  | scored {q g : Query} {scoring : ScriptScore Query} :
    q.scriptScore = some scoring → Requires scoring.query g → Requires q g

namespace SearchRequest

def branches (r : SearchRequest) : List Branch :=
  r.nearest.map .nearest ++ r.query.toList.map .query

/-- Every branch has just these filters in the list that applies to the whole of it. -/
def Carries (r : SearchRequest) (filters : List Query) : Prop :=
  ∀ b ∈ r.branches, b.filterList = filters

end SearchRequest

/-- What documents a cluster may take for hits: only those that pass the filters of a search, and a
script scores only hits of its own query. -/
structure Cluster (δ : Type) where
  hits : Query → δ → Prop
  near : NearestSearch → δ → Prop
  filtered : ∀ {q : Query} {j : Junction Query} {d : δ},
    q.junction = some j → hits q d → ∀ f ∈ j.filter, hits f d
  scored : ∀ {q : Query} {scoring : ScriptScore Query} {d : δ},
    q.scriptScore = some scoring → hits q d → hits scoring.query d
  nearFiltered : ∀ {n : NearestSearch} {d : δ}, near n d → ∀ f ∈ n.filter, hits f d

namespace Cluster

variable {δ : Type} (cluster : Cluster δ)

def ofClauses (passes : Query → δ → Prop) : Cluster δ where
  hits q d := ∀ g, q.Requires g → passes g d
  near n d := ∀ f ∈ n.filter, ∀ g, f.Requires g → passes g d
  filtered := fun hj hd _ hf g hg => hd g (.filter hj hf hg)
  scored := fun hs hd g hg => hd g (.scored hs hg)
  nearFiltered := fun hd => hd

def finds : Branch → δ → Prop
  | .nearest search => cluster.near search
  | .query q => cluster.hits q

theorem hits_of_filterList {q : Query} {d : δ} (h : cluster.hits q d) :
    ∀ f ∈ q.filterList, cluster.hits f d := by
  intro f hf
  unfold Query.filterList at hf
  split at hf
  · rename_i j hj
    exact cluster.filtered hj h f hf
  · rename_i scoring hnone hscoring
    have hinner : cluster.hits scoring.query d := cluster.scored hscoring h
    cases hj : scoring.query.junction with
    | none =>
      rw [hj] at hf
      cases hf
    | some j =>
      rw [hj] at hf
      exact cluster.filtered hj hinner f hf
  · cases hf

theorem hits_of_finds {b : Branch} {d : δ} (h : cluster.finds b d) :
    ∀ f ∈ b.filterList, cluster.hits f d := by
  cases b with
  | nearest search => exact cluster.nearFiltered h
  | query q => exact cluster.hits_of_filterList h

end Cluster

section

variable {filters : List Query}

theorem branches_ofQuery (q : Query) : (SearchRequest.ofQuery q).branches = [.query q] := rfl

theorem carries_ofQuery {q : Query} :
    (SearchRequest.ofQuery q).Carries filters ↔ q.filterList = filters := by
  rw [SearchRequest.Carries, branches_ofQuery, List.forall_mem_singleton]
  exact Iff.rfl

theorem filterList_textMatch (field text : String) :
    (Query.textMatch field text).filterList = [] := rfl

theorem filterList_joined (j : Junction Query) : (Query.joined j).filterList = j.filter := rfl

theorem filterList_scoreAll (similarity : Similarity) (field : String) (vector : List Single) :
    (SearchMode.scoreAll similarity field filters vector).filterList = filters := by
  -- Without filters every document is scored, a query that has no filter list either.
  cases filters <;> rfl

theorem filterList_of_mem_nearest {a : Approximate} {query : String}
    {vector : Option (List Single)} {b : Branch}
    (h : b ∈ (SearchMode.nearest a query filters vector).branches) : b.filterList = filters := by
  rcases List.mem_append.1 h with h | h
  · obtain ⟨search, hsearch, rfl⟩ := List.mem_map.1 h
    obtain rfl := List.mem_singleton.1 hsearch
    rfl
  · -- The text match is there in a hybrid search only.
    obtain ⟨q, hq, rfl⟩ := List.mem_map.1 h
    cases hhybrid : a.hybrid with
    | false => simp [SearchMode.nearest, hhybrid] at hq
    | true =>
      simp only [SearchMode.nearest, hhybrid, if_true, Option.toList_some, List.mem_singleton] at hq
      subst hq
      rfl

end

namespace SearchMode

variable {embedder : Option Embedder} {query : String} {options : SearchOptions}
  {request : SearchRequest} {s t : Session}

/-- What the modes that build a request make of a query text: a text match without filters, another
query whose filter list is that of the call, or a nearest-neighbour search. -/
theorem request_cases {mode : SearchMode} (hmode : mode ≠ .raw)
    (h : mode.request embedder query options s = (.ok request, t)) :
    (∃ field, mode = .exactMatch field ∧ request = .ofQuery (.textMatch field query)) ∨
      (∀ field, mode ≠ .exactMatch field) ∧
        ((∃ q : Query, request = .ofQuery q ∧ q.filterList = options.filters) ∨
          ∃ a vector, request = nearest a query options.filters vector) := by
  cases mode with
  | raw => exact absurd rfl hmode
  | exactMatch field =>
    obtain ⟨rfl, -⟩ := Action.pure_eq_ok h
    exact .inl ⟨field, rfl, rfl⟩
  | denseSimilarity similarity field =>
    obtain ⟨vector, _, -, h⟩ := Action.bind_eq_ok h
    obtain ⟨rfl, -⟩ := Action.pure_eq_ok h
    exact .inr ⟨nofun, .inl ⟨_, rfl, filterList_scoreAll similarity field vector⟩⟩
  | approximate a =>
    refine .inr ⟨nofun, .inr ?_⟩
    rw [SearchMode.request] at h
    split at h
    · obtain ⟨vector, _, -, h⟩ := Action.bind_eq_ok h
      obtain ⟨rfl, -⟩ := Action.pure_eq_ok h
      exact ⟨a, vector, rfl⟩
    · obtain ⟨vector, _, -, h⟩ := Action.bind_eq_ok h
      obtain ⟨rfl, -⟩ := Action.pure_eq_ok h
      exact ⟨a, vector, rfl⟩
  | sparseVector field inferenceId =>
    obtain ⟨clause, _, -, h⟩ := Action.bind_eq_ok h
    obtain ⟨rfl, -⟩ := Action.pure_eq_ok h
    exact .inr ⟨nofun, .inl ⟨_, rfl, filterList_joined _⟩⟩
  | textExpansion modelId field =>
    obtain ⟨rfl, -⟩ := Action.pure_eq_ok h
    exact .inr ⟨nofun, .inl ⟨_, rfl, filterList_joined _⟩⟩

/-- Every mode that builds a request but the exact match puts all the filters of a call, in their
order, into the filter list of each branch, so that whatever a branch finds passes them. The exact
match puts none of them anywhere. -/
theorem request_carries_filters {mode : SearchMode} (hmode : mode ≠ .raw)
    (h : mode.request embedder query options s = (.ok request, t)) :
    request.branches ≠ [] ∧
      (request.Carries options.filters ↔
        options.filters = [] ∨ ∀ field, mode ≠ .exactMatch field) ∧
      ((∃ field, mode = .exactMatch field) → request.Carries []) ∧
      ((∀ field, mode ≠ .exactMatch field) →
        ∀ {δ : Type} (cluster : Cluster δ), ∀ b ∈ request.branches, ∀ d, cluster.finds b d →
          ∀ f ∈ options.filters, cluster.hits f d) := by
  rcases request_cases hmode h with ⟨field, rfl, rfl⟩ | ⟨hother, hbuilt⟩
  · have hnone : (SearchRequest.ofQuery (.textMatch field query)).Carries [] :=
      carries_ofQuery.2 rfl
    refine ⟨List.cons_ne_nil _ _, ?_, fun _ => hnone, fun hother => absurd rfl (hother field)⟩
    rw [carries_ofQuery, filterList_textMatch]
    constructor
    · intro hfilters
      exact .inl hfilters.symm
    · rintro (hfilters | hother)
      · exact hfilters.symm
      · exact absurd rfl (hother field)
  · have hbranches : request.branches ≠ [] ∧ request.Carries options.filters := by
      rcases hbuilt with ⟨q, rfl, hq⟩ | ⟨a, vector, rfl⟩
      · exact ⟨List.cons_ne_nil _ _, carries_ofQuery.2 hq⟩
      · exact ⟨List.cons_ne_nil _ _, fun b hb => filterList_of_mem_nearest hb⟩
    obtain ⟨hsome, hcarries⟩ := hbranches
    refine ⟨hsome, iff_of_true hcarries (.inr hother), ?_, fun _ δ cluster b hb d hd => ?_⟩
    · rintro ⟨field, rfl⟩
      exact absurd rfl (hother field)
    · rw [← hcarries b hb]
      exact cluster.hits_of_finds hd

theorem request_carries_filters_hybrid :
    let mode : SearchMode :=
      .approximate ⟨"vec", "title", true, false, ⟨none, none⟩, none, none, none, some "e5"⟩
    let options : SearchOptions := ⟨[.everything, .textMatch "lang" "en"], none⟩
    let s : Session := ⟨[], [], [], 0, 0⟩
    ∃ request, mode.request none "rust" options s = (.ok request, s) ∧
      request.branches.length = 2 ∧ request.Carries options.filters := by
  intro mode options s
  have hmode : mode ≠ .raw := nofun
  have hrequest : mode.request none "rust" options s = (.ok _, s) := rfl
  have hcarries := (request_carries_filters hmode hrequest).2.1.2 (.inr nofun)
  exact ⟨_, hrequest, rfl, hcarries⟩

/-- An exact match for English texts only: the filter is in no branch, and a cluster may find a text
that is not English. -/
theorem exactMatch_drops_filter :
    let english : Query := { Query.blank with term := some (.ofList [("lang", .str "en")]) }
    let request := SearchRequest.ofQuery (.textMatch "title" "rust")
    let s : Session := ⟨[], [], [], 0, 0⟩
    (SearchMode.exactMatch "title").request none "rust" ⟨[english], none⟩ s = (.ok request, s) ∧
      request.branches.map Branch.filterList = [[]] ∧
      ∃ cluster : Cluster Bool, ∃ b ∈ request.branches,
        cluster.finds b false ∧ ¬cluster.hits english false := by
  have hbranch : Branch.query (.textMatch "title" "rust") ∈
      (SearchRequest.ofQuery (.textMatch "title" "rust")).branches := List.mem_singleton_self _
  -- The one test is the language: a clause on a term passes for English texts only.
  refine ⟨rfl, rfl, .ofClauses fun q english => q.term.isSome → english, _, hbranch, ?_, ?_⟩
  · intro g hg
    cases hg with
    | self => simp [Query.textMatch, Query.blank]
    | filter hj => cases hj
    | scored hs => cases hs
  · intro hhit
    have hpass := hhit _ (.self _) rfl
    cases hpass

end SearchMode

end ChatRetrieval.Elastic
