import ChatRetrieval.Proofs.Milvus.RoundTrip
import ChatRetrieval.Proofs.Milvus.Vectors

/-!
What is written of documents. Each has a row of its own with its vectors in it, and the rows go out with
one request or not at all.
-/

namespace ChatRetrieval.Milvus

def IndexerConfig.precomputed (c : IndexerConfig) : Option String :=
  (c.sparse.filter fun s => s.source = some .precomputed).map (·.field)

def IndexerConfig.written (c : IndexerConfig) : List String :=
  ["id", "content", "metadata"] ++ (c.vector.map (·.field)).toList ++ c.precomputed.toList

section columns

variable {c : IndexerConfig} {made : Option (List (List Double))} {docs : List Document}

/-- The row of the document at an index, member by member. -/
def rowMembers (c : IndexerConfig) (made : Option (List (List Double))) (i : Nat) (d : Document) :
    List (String × Json) :=
  [("id", .str d.id), ("content", .str d.content), ("metadata", .ofDict d.metadata)] ++
    (c.vector.map fun v => (v.field, vectorToJson (rounded made i d))).toList ++
    (c.precomputed.map fun f => (f, (narrowed (sparseSource d)).toJson)).toList

def writtenRows (c : IndexerConfig) (made : Option (List (List Double))) (docs : List Document) :
    List Json :=
  docs.mapIdx fun i d => .ofMembers (rowMembers c made i d)

def writtenColumns (c : IndexerConfig) (made : Option (List (List Double))) (docs : List Document) :
    List Column :=
  let dense := docs.mapIdx (rounded made)
  let dimension := (dense.head?.map List.length).getD 0
  ownColumns docs ++ (c.vector.map fun v => Column.mk v.field (.floats dimension dense)).toList ++
    (c.precomputed.map fun f =>
      Column.mk f (.sparse (docs.map fun d => narrowed (sparseSource d)))).toList

theorem map_fst_rowMembers (i : Nat) (d : Document) :
    (rowMembers c made i d).map (·.1) = c.written := by
  rw [rowMembers, IndexerConfig.written]
  cases c.vector <;> cases c.precomputed <;> rfl

theorem map_values_writtenColumns {i : Nat} {d : Document} (hi : docs[i]? = some d) :
    (writtenColumns c made docs).map (fun column => (column.name, column.values[i]?)) =
      (rowMembers c made i d).map fun m => (m.1, some m.2) := by
  rw [writtenColumns, rowMembers]
  cases c.vector <;> cases c.precomputed <;>
    simp [ownColumns, Column.values, hi]

theorem size_of_mem_writtenColumns {column : Column} (h : column ∈ writtenColumns c made docs) :
    column.size = docs.length := by
  rw [writtenColumns] at h
  revert h
  cases c.vector <;> cases c.precomputed <;>
    simp +contextual [ownColumns, Column.size, Column.values, or_imp]

theorem rows_of_size {columns : List Column} {n : Nat} (hne : columns ≠ [])
    (h : ∀ column ∈ columns, column.size = n) :
    Column.rows columns = .ok ((List.range n).map (Column.row columns)) := by
  cases columns with
  | nil => exact absurd rfl hne
  | cons first rest =>
    have hfirst : first.size = n := h first (List.mem_cons_self ..)
    have hrest : rest.find? (fun column => column.size ≠ first.size) = none := by
      rw [List.find?_eq_none]
      intro column hcolumn
      rw [hfirst, h column (List.mem_cons_of_mem _ hcolumn)]
      simp
    rw [Column.rows, hrest, hfirst]

theorem row_writtenColumns {i : Nat} {d : Document} (hi : docs[i]? = some d) :
    Column.row (writtenColumns c made docs) i = .ofMembers (rowMembers c made i d) := by
  have hvalues := congrArg (List.map fun m => (m.1, m.2.getD Json.null))
    (@map_values_writtenColumns c made docs i d hi)
  simp only [List.map_map, Function.comp_def, Option.getD_some, List.map_id'] at hvalues
  rw [Column.row, hvalues]

theorem rows_writtenColumns :
    Column.rows (writtenColumns c made docs) = .ok (writtenRows c made docs) := by
  have hne : writtenColumns c made docs ≠ [] := by
    rw [writtenColumns, ownColumns]
    exact List.cons_ne_nil _ _
  rw [rows_of_size hne fun _ => size_of_mem_writtenColumns]
  refine congrArg Except.ok (List.ext_getElem ?_ fun i hi hj => ?_)
  · rw [writtenRows, List.length_map, List.length_range, List.length_mapIdx]
  · rw [List.getElem_map, List.getElem_range]
    simp only [writtenRows, List.getElem_mapIdx]
    have hlt : i < docs.length := by rwa [List.length_map, List.length_range] at hi
    exact row_writtenColumns (List.getElem?_eq_getElem hlt)

theorem get?_row (hnames : c.written.Nodup) {i : Nat} {d : Document} {m : String × Json}
    (hm : m ∈ rowMembers c made i d) :
    (Json.ofMembers (rowMembers c made i d)).get? m.1 = some m.2 := by
  have hkeys : (rowMembers c made i d).map (·.1) = c.written := map_fst_rowMembers i d
  rw [← hkeys] at hnames
  rw [Json.get?_ofMembers, lookup_reverse hnames, lookup_eq_some_iff_mem hnames]
  exact hm

def columnsOf (dense sparse : Option String) (made : Option (List (List Double)))
    (docs : List Document) : List Column :=
  let rows := docs.mapIdx (rounded made)
  let dimension := (rows.head?.map List.length).getD 0
  ownColumns docs ++ (dense.map fun f => Column.mk f (.floats dimension rows)).toList ++
    (sparse.map fun f => Column.mk f (.sparse (docs.map fun d => narrowed (sparseSource d)))).toList

theorem writtenColumns_eq (c : IndexerConfig) (made : Option (List (List Double)))
    (docs : List Document) :
    writtenColumns c made docs = columnsOf (c.vector.map (·.field)) c.precomputed made docs := by
  rw [writtenColumns, columnsOf]
  cases c.vector <;> rfl

theorem defaultConverter_eq_ok_iff (hmade : Covers made docs) {dense sparse : Option String}
    {columns : List Column} :
    defaultConverter dense sparse docs (made.getD []) = .ok columns ↔
      (∀ i d, docs[i]? = some d → Fills made dense.isSome sparse.isSome i d) ∧
        columns = columnsOf dense sparse made docs := by
  have hgather := @gatherVectors_eq_ok_iff made docs hmade dense.isSome sparse.isSome 0 docs
    List.drop_zero
  simp only [Nat.zero_add] at hgather
  rw [defaultConverter]
  -- All columns but those of the vectors can be made of any documents.
  constructor
  · intro h
    obtain ⟨⟨rows, weights⟩, hvectors, h⟩ := Result.bind_eq_ok h
    obtain ⟨hall, rfl, rfl⟩ := hgather.1 hvectors
    cases h
    refine ⟨hall, ?_⟩
    rw [columnsOf]
    cases dense <;> cases sparse <;> rfl
  · rintro ⟨hall, rfl⟩
    rw [hgather.2 ⟨hall, rfl, rfl⟩, Result.ok_bind]
    dsimp only
    rw [columnsOf]
    cases dense <;> cases sparse <;> rfl

theorem documentConverter_eq_ok_iff (hconverter : c.converter = none) (hmade : Covers made docs)
    {columns : List Column} :
    c.documentConverter docs (made.getD []) = .ok columns ↔
      (∀ i d, docs[i]? = some d → Fills made c.vector.isSome c.precomputed.isSome i d) ∧
        columns = writtenColumns c made docs := by
  have hdefault : c.documentConverter = defaultConverter (c.vector.map (·.field)) c.precomputed := by
    rw [IndexerConfig.documentConverter, hconverter]
    rfl
  rw [hdefault, defaultConverter_eq_ok_iff hmade, writtenColumns_eq, Option.isSome_map]

end columns

section embedding

variable {embedder : Option Embedder} {docs : List Document} {made : Option (List (List Double))}

def Embeds (embedder : Option Embedder) (docs : List Document) (made : Option (List (List Double))) :
    Prop :=
  match embedder with
  | none => made = none
  | some e => ∃ vectors, e.vectors (docs.map (·.content)) = .ok vectors ∧
      vectors.length = docs.length ∧ made = some vectors

theorem Embeds.covers (h : Embeds embedder docs made) : Covers made docs := by
  cases embedder with
  | none =>
    obtain rfl : made = none := h
    exact nofun
  | some e =>
    obtain ⟨vectors, -, hlength, rfl⟩ := h
    rintro _ ⟨⟩
    exact hlength

def noted (embedder : Option Embedder) (docs : List Document) (s : Session) : Session :=
  match embedder with
  | none => s
  | some _ => { s with embedded := s.embedded ++ [docs.map (·.content)] }

theorem noted_sent (embedder : Option Embedder) (docs : List Document) (s : Session) :
    (noted embedder docs s).sent = s.sent := by
  cases embedder <;> rfl

theorem embedDocuments_of_embeds (h : Embeds embedder docs made) (s : Session) :
    Indexer.embedDocuments embedder docs s = (.ok (made.getD []), noted embedder docs s) := by
  cases embedder with
  | none =>
    obtain rfl : made = none := h
    rfl
  | some e =>
    obtain ⟨vectors, hvectors, hlength, rfl⟩ := h
    simp only [Indexer.embedDocuments, Embedder.bind_embed, hvectors, Result.within, if_pos hlength]
    rfl

theorem embedDocuments_of_not (h : ¬∃ made, Embeds embedder docs made) (s : Session) :
    ∃ f, Indexer.embedDocuments embedder docs s = (.error f, noted embedder docs s) := by
  cases embedder with
  | none => exact absurd ⟨none, rfl⟩ h
  | some e =>
    simp only [Indexer.embedDocuments, Embedder.bind_embed]
    cases hvectors : e.vectors (docs.map (·.content)) with
    | error f => exact ⟨_, rfl⟩
    | ok vectors =>
      have hlength : vectors.length ≠ docs.length := fun hlength =>
        h ⟨some vectors, vectors, hvectors, hlength, rfl⟩
      simp only [Result.within, if_neg hlength]
      exact ⟨_, rfl⟩

end embedding

/-- Documents that can be written: each has what its fields need, once they are embedded. -/
structure Writable (c : IndexerConfig) (embedder : Option Embedder) (docs : List Document)
    (made : Option (List (List Double))) : Prop where
  embedded : Embeds embedder docs made
  filled : ∀ i d, docs[i]? = some d → Fills made c.vector.isSome c.precomputed.isSome i d

theorem UpsertRequest.toJson_of_rows {r : UpsertRequest} {rows : List Json}
    (hrows : Column.rows r.columns = .ok rows) :
    ∃ body, r.toJson = .ok body ∧ body.get? "data" = some (.arr rows) := by
  obtain ⟨body, hbody⟩ : ∃ body, r.toJson = .ok body := by
    rw [toJson, hrows]
    exact ⟨_, rfl⟩
  obtain ⟨_, hsame, hdata⟩ := get?_data hbody
  cases hrows.symm.trans hsame
  exact ⟨body, hbody, hdata⟩

namespace ClientConfig

variable {c : ClientConfig} {r : UpsertRequest} {rows : List Json}

def upsertEndpoint (c : ClientConfig) : Result (String × Headers) :=
  c.endpoint "/v2/vectordb/entities/upsert"

theorem upsert_of_error {f : Failure} (hend : c.upsertEndpoint = .error f)
    (hrows : Column.rows r.columns = .ok rows) (s : Session) : c.upsert r s = (.error f, s) := by
  -- The body is made of the rows before anything is sent.
  obtain ⟨body, hbody, -⟩ := UpsertRequest.toJson_of_rows hrows
  rw [upsert, hbody, Action.lift_ok_bind, Action.bind_of_error (call_of_error hend)]

theorem upsert_of_endpoint {target : String × Headers} (hend : c.upsertEndpoint = .ok target)
    (hrows : Column.rows r.columns = .ok rows) (s : Session) :
    ∃ body, body.get? "data" = some (.arr rows) ∧
      (c.upsert r s).2 = s.asked ⟨.post, target.1, target.2, .json body⟩ 1 := by
  obtain ⟨body, hbody, hdata⟩ := UpsertRequest.toJson_of_rows hrows
  refine ⟨c.withDatabase body, (get?_withDatabase (by decide)).trans hdata, ?_⟩
  rw [upsert, hbody, Action.lift_ok_bind, Action.bind_pure_run (call_eq body s hend)]
  rfl

end ClientConfig

namespace Indexer

variable {x : Indexer} {embedder : Option Embedder} {docs : List Document}
  {made : Option (List (List Double))} {partition : Option String}

theorem store_of_columns {vectors : List (List Double)} {columns : List Column} {s t : Session}
    (hembed : embedDocuments (embedder.or x.config.embedder) docs s = (.ok vectors, t))
    (hcolumns : x.config.documentConverter docs vectors = .ok columns) :
    x.store docs embedder partition s =
      (((x.service.upsert ⟨x.config.collection,
          (partition.or x.config.partition).filter fun p => !p.isEmpty, columns⟩).within
        "[Indexer.Store] failed to upsert documents") >>= fun ids => pure (ids.map textOf)) t := by
  rw [store, Action.bind_of_ok hembed, hcolumns]
  rfl

def upsertRequest (x : Indexer) (made : Option (List (List Double))) (docs : List Document)
    (partition : Option String) : UpsertRequest :=
  ⟨x.config.collection, (partition.or x.config.partition).filter fun p => !p.isEmpty,
    writtenColumns x.config made docs⟩

theorem store_of_writable (hconverter : x.config.converter = none)
    (h : Writable x.config (embedder.or x.config.embedder) docs made) (s : Session) :
    x.store docs embedder partition s =
      (((x.service.upsert (x.upsertRequest made docs partition)).within
        "[Indexer.Store] failed to upsert documents") >>= fun ids => pure (ids.map textOf))
        (noted (embedder.or x.config.embedder) docs s) :=
  store_of_columns (embedDocuments_of_embeds h.embedded s)
    ((documentConverter_eq_ok_iff hconverter h.embedded.covers).2 ⟨h.filled, rfl⟩)

theorem store_of_not_writable (hconverter : x.config.converter = none)
    (h : ¬∃ made, Writable x.config (embedder.or x.config.embedder) docs made) (s : Session) :
    ∃ f, x.store docs embedder partition s =
      (.error f, noted (embedder.or x.config.embedder) docs s) := by
  -- Either the vectors cannot be made, or they can and the columns cannot.
  by_cases hembeds : ∃ made, Embeds (embedder.or x.config.embedder) docs made
  · obtain ⟨made, hembeds⟩ := hembeds
    have hembed := embedDocuments_of_embeds hembeds s
    rw [store, Action.bind_of_ok hembed]
    cases hcolumns : x.config.documentConverter docs (made.getD []) with
    | error f => exact ⟨_, rfl⟩
    | ok columns =>
      obtain ⟨hfilled, -⟩ := (documentConverter_eq_ok_iff hconverter hembeds.covers).1 hcolumns
      exact absurd ⟨made, hembeds, hfilled⟩ h
  · obtain ⟨f, hembed⟩ := embedDocuments_of_not hembeds s
    exact ⟨f, Action.bind_of_error hembed _⟩

section http

variable {c : ClientConfig} (hservice : x.service = c.service)
  (hconverter : x.config.converter = none)
  (h : Writable x.config (embedder.or x.config.embedder) docs made) (partition : Option String)
  (s : Session)
include hservice hconverter h

theorem store_of_error {f : Failure} (hend : c.upsertEndpoint = .error f) :
    ∃ g, x.store docs embedder partition s =
      (.error g, noted (embedder.or x.config.embedder) docs s) := by
  have hrows : Column.rows (x.upsertRequest made docs partition).columns =
      .ok (writtenRows x.config made docs) := rows_writtenColumns
  have hupsert := ClientConfig.upsert_of_error hend hrows
    (noted (embedder.or x.config.embedder) docs s)
  rw [store_of_writable hconverter h, hservice]
  exact ⟨_, Action.bind_of_error (Action.within_run hupsert _) _⟩

theorem store_of_endpoint {target : String × Headers} (hend : c.upsertEndpoint = .ok target) :
    ∃ body, body.get? "data" = some (.arr (writtenRows x.config made docs)) ∧
      (x.store docs embedder partition s).2 =
        (noted (embedder.or x.config.embedder) docs s).asked
          ⟨.post, target.1, target.2, .json body⟩ 1 := by
  have hrows : Column.rows (x.upsertRequest made docs partition).columns =
      .ok (writtenRows x.config made docs) := rows_writtenColumns
  obtain ⟨body, hdata, hafter⟩ := ClientConfig.upsert_of_endpoint hend hrows
    (noted (embedder.or x.config.embedder) docs s)
  refine ⟨body, hdata, ?_⟩
  have hupsert := Action.within_run (Prod.eta (c.upsert (x.upsertRequest made docs partition)
    (noted (embedder.or x.config.embedder) docs s))).symm "[Indexer.Store] failed to upsert documents"
  rw [store_of_writable hconverter h, hservice, ← hafter]
  exact congrArg Prod.snd (Action.bind_pure_run hupsert _)

end http

end Indexer

end ChatRetrieval.Milvus
