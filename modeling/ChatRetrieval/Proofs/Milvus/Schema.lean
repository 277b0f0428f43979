import ChatRetrieval.Proofs.Milvus.Storing

/-!
Schemas and what is written under them. A collection is declared from a configuration and columns are made
from it, each on its own; that the two agree depends on what is filled in before.
-/

namespace ChatRetrieval.Milvus

def ColumnData.type : ColumnData → FieldType
  | .text _ => .varChar
  | .json _ => .json
  | .floats _ _ => .floatVector
  | .sparse _ => .sparseFloatVector

def Field.signature (f : Field) : String × FieldType := (f.name, f.type)

def Column.signature (column : Column) : String × FieldType := (column.name, column.data.type)

/-- What is written agrees with what is declared: a field has a column of its name and type or is left to
a function, and a column has such a field. -/
structure Schema.Admits (schema : Schema) (columns : List Column) : Prop where
  written : ∀ f ∈ schema.fields, f.signature ∈ columns.map Column.signature ∨
    ∃ g ∈ schema.functions, f.name ∈ g.outputs
  declared : ∀ column ∈ columns, column.signature ∈ schema.fields.map Field.signature

theorem isSome_get?_row {columns : List Column} {i : Nat} {name : String} :
    ((Column.row columns i).get? name).isSome = true ↔ ∃ column ∈ columns, column.name = name := by
  rw [Column.row, Json.get?_ofMembers, List.lookup_isSome_iff]
  simp only [List.mem_reverse, List.mem_map, exists_exists_and_eq_and, beq_iff_eq,
    @eq_comm _ name]

namespace IndexerConfig

variable {c : IndexerConfig}

section signatures

@[simp] theorem signature_withParams (c : IndexerConfig) (f : Field) :
    (c.withParams f).signature = f.signature := by
  rw [withParams]
  split <;> rfl

def ownSignatures : List (String × FieldType) :=
  [("id", .varChar), ("content", .varChar), ("metadata", .json)]

def denseSignature (c : IndexerConfig) : Option (String × FieldType) :=
  c.vector.map fun v => (v.field, .floatVector)

theorem map_signature_fields (c : IndexerConfig) : c.schema.fields.map Field.signature =
    ownSignatures ++ c.denseSignature.toList ++
      (c.sparse.map fun s => (s.field, FieldType.sparseFloatVector)).toList := by
  have hparams : c.schema.fields.map Field.signature = c.fields.map Field.signature := by
    rw [schema, List.map_map]
    exact List.map_congr_left fun f _ => signature_withParams c f
  rw [hparams, fields, denseSignature]
  cases c.vector <;> cases c.sparse <;> rfl

theorem map_signature_writtenColumns (c : IndexerConfig) (made : Option (List (List Double)))
    (docs : List Document) : (writtenColumns c made docs).map Column.signature =
      ownSignatures ++ c.denseSignature.toList ++
        (c.precomputed.map fun f => (f, FieldType.sparseFloatVector)).toList := by
  rw [writtenColumns, denseSignature]
  cases c.vector <;> cases c.precomputed <;> rfl

end signatures

/-- Sparse vectors are brought by the documents, or a function makes them. -/
def SuppliesSparse (c : IndexerConfig) : Prop :=
  ∀ s, c.sparse = some s → s.source = some .precomputed ∨ ∃ g ∈ c.functions, s.field ∈ g.outputs

theorem schema_admits (hsparse : c.SuppliesSparse) (made : Option (List (List Double)))
    (docs : List Document) : c.schema.Admits (writtenColumns c made docs) := by
  have hfields := c.map_signature_fields
  have hcolumns := c.map_signature_writtenColumns made docs
  constructor
  case written =>
    intro f hf
    have hsignature : f.signature ∈ c.schema.fields.map Field.signature := List.mem_map_of_mem hf
    rw [hfields, List.mem_append] at hsignature
    rw [hcolumns, List.mem_append]
    refine hsignature.elim (fun hown => .inl (.inl hown)) fun hs => ?_
    rw [Option.mem_toList] at hs
    obtain ⟨s, hs, hf⟩ := Option.map_eq_some_iff.1 hs
    have hname : f.name = s.field := (congrArg Prod.fst hf).symm
    refine (hsparse s hs).imp (fun hsource => .inr ?_) fun ⟨g, hg, hout⟩ => ⟨g, hg, hname ▸ hout⟩
    rw [precomputed, hs, Option.filter_some_pos (by simpa using hsource)]
    exact List.mem_singleton.2 hf.symm
  case declared =>
    intro column hcolumn
    have hsignature : column.signature ∈ (writtenColumns c made docs).map Column.signature :=
      List.mem_map_of_mem hcolumn
    rw [hcolumns, List.mem_append] at hsignature
    rw [hfields, List.mem_append]
    refine hsignature.imp_right fun hs => ?_
    rw [Option.mem_toList] at hs ⊢
    obtain ⟨f, hf, hcolumn⟩ := Option.map_eq_some_iff.1 hs
    obtain ⟨s, hs, rfl⟩ := Option.map_eq_some_iff.1 hf
    rw [(Option.filter_eq_some_iff.1 hs).1]
    exact congrArg some hcolumn

section filling

theorem orElse_orElse (text fallback : String) :
    orElse (orElse text fallback) fallback = orElse text fallback := by
  unfold orElse
  split <;> simp_all

/-- The sparse field of a configuration whose sparse vectors are to be derived and that has no function
to do so. -/
structure LacksFunction (c : IndexerConfig) (field : String) : Prop where
  derived : ∃ s, c.sparse = some s ∧ s.resolved = .derived ∧ orElse s.field defaultSparseField = field
  unfilled : ∀ g ∈ c.functions, field ∉ g.outputs

theorem filled_sparse_eq_some_iff {s : SparseConfig} : c.filled.sparse = some s ↔
    ∃ given, c.sparse = some given ∧
      s = { given with field := orElse given.field defaultSparseField, source := some given.resolved } :=
  Option.map_eq_some_iff.trans (exists_congr fun _ => and_congr_right fun _ => eq_comm)

theorem filled_functions_of_lacksFunction {field : String} (h : c.LacksFunction field) :
    c.filled.functions = c.functions ++ [.bm25 "bm25_auto" contentField field] := by
  obtain ⟨s, hs, hderived, rfl⟩ := h.derived
  simp only [filled, allFunctions, hs, Option.map_some, hderived]
  rw [if_pos ⟨trivial, by simpa using h.unfilled⟩]

theorem filled_functions_of_not (h : ¬∃ field, c.LacksFunction field) :
    c.filled.functions = c.functions := by
  cases hs : c.sparse with
  | none => simp only [filled, allFunctions, hs, Option.map_none]
  | some s =>
    simp only [filled, allFunctions, hs, Option.map_some]
    refine if_neg fun ⟨hderived, hunfilled⟩ => h ⟨_, ⟨s, hs, Option.some.inj hderived, rfl⟩, ?_⟩
    simpa using hunfilled

theorem filled_suppliesSparse (c : IndexerConfig) : c.filled.SuppliesSparse := by
  intro s hs
  obtain ⟨given, hgiven, rfl⟩ := filled_sparse_eq_some_iff.1 hs
  cases hresolved : given.resolved with
  | precomputed => exact .inl rfl
  | derived =>
    refine .inr ?_
    by_cases h : ∃ field, c.LacksFunction field
    · obtain ⟨field, h⟩ := h
      obtain ⟨s, hs, -, rfl⟩ := h.derived
      cases hgiven.symm.trans hs
      refine ⟨.bm25 "bm25_auto" contentField _, ?_, List.mem_singleton_self _⟩
      rw [filled_functions_of_lacksFunction h]
      exact List.mem_append_right _ (List.mem_singleton_self _)
    · rw [filled_functions_of_not h]
      by_contra hnone
      push Not at hnone
      exact h ⟨_, ⟨given, hgiven, hresolved, rfl⟩, hnone⟩

theorem not_lacksFunction_filled (c : IndexerConfig) (field : String) :
    ¬c.filled.LacksFunction field := by
  rintro ⟨⟨s, hs, hderived, rfl⟩, hunfilled⟩
  obtain hsource | ⟨g, hg, hout⟩ := c.filled_suppliesSparse s hs
  · rw [SparseConfig.resolved, hsource] at hderived
    cases hderived
  · obtain ⟨given, -, rfl⟩ := filled_sparse_eq_some_iff.1 hs
    rw [orElse_orElse] at hunfilled
    exact hunfilled g hg hout

theorem filled_filled (c : IndexerConfig) : c.filled.filled = c.filled := by
  have hfunctions : c.filled.filled.functions = c.filled.functions :=
    filled_functions_of_not fun ⟨field, h⟩ => c.not_lacksFunction_filled field h
  have hvector : c.filled.filled.vector = c.filled.vector := by
    simp only [filled, Option.map_map, Function.comp_def, orElse_orElse]
  have hsparse : c.filled.filled.sparse = c.filled.sparse := by
    simp only [filled, Option.map_map, Function.comp_def, orElse_orElse]
    rfl
  have hcollection : c.filled.filled.collection = c.filled.collection := orElse_orElse ..
  have hdescription : c.filled.filled.description = c.filled.description := orElse_orElse ..
  calc c.filled.filled = { c.filled with
        collection := c.filled.filled.collection
        description := c.filled.filled.description
        vector := c.filled.filled.vector
        sparse := c.filled.filled.sparse
        functions := c.filled.filled.functions } := rfl
    _ = c.filled := by rw [hcollection, hdescription, hvector, hsparse, hfunctions]

end filling

end IndexerConfig

namespace Indexer

theorem ofConfig_filled (c : IndexerConfig) : ofConfig c.filled = ofConfig c := by
  have hvector : c.filled.vector.isNone = c.vector.isNone := Option.isNone_map
  have hsparse : c.filled.sparse.isNone = c.sparse.isNone := Option.isNone_map
  have hservice : c.filled.service = c.service := rfl
  rw [ofConfig, ofConfig, hservice, hvector, hsparse, c.filled_filled]

theorem config_of_ofConfig_eq_ok {c : IndexerConfig} {x : Indexer} {s t : Session}
    (h : ofConfig c s = (.ok x, t)) : x.config = c.filled := by
  cases hservice : c.service with
  | none =>
    rw [ofConfig, hservice] at h
    cases h
  | some service =>
    rw [ofConfig, hservice] at h
    dsimp only at h
    split at h
    · obtain ⟨_, _, hfail, -⟩ := Action.bind_eq_ok h
      cases hfail
    · obtain ⟨_, _, -, h⟩ := Action.bind_eq_ok h
      obtain ⟨rfl, -⟩ := Action.pure_eq_ok h
      rfl

/-- Indexers work under the schema of the configuration as it was filled in: each field is written with
every upsert or is the output of a function, and each column that is written is a field. A function is
added only for sparse vectors that are to be derived and that no configured function makes, and filling
in again changes nothing. -/
theorem store_matches_schema (c : IndexerConfig) (hconverter : c.converter = none) :
    (∀ field, c.LacksFunction field →
      c.filled.functions = c.functions ++ [.bm25 "bm25_auto" contentField field]) ∧
    ((¬∃ field, c.LacksFunction field) → c.filled.functions = c.functions) ∧
    c.filled.filled = c.filled ∧ ofConfig c.filled = ofConfig c ∧
    (∀ x s t, ofConfig c s = (.ok x, t) → x.config = c.filled) ∧
    ∀ x : Indexer, x.config = c.filled → ∀ docs embedder partition s,
      let given := embedder.or x.config.embedder
      (∃ f, x.store docs embedder partition s = (.error f, noted given docs s)) ∨
      ∃ columns rows, c.filled.schema.Admits columns ∧
        x.store docs embedder partition s =
          (((x.service.upsert ⟨c.filled.collection,
              (partition.or c.filled.partition).filter fun p => !p.isEmpty, columns⟩).within
            "[Indexer.Store] failed to upsert documents") >>= fun ids => pure (ids.map textOf))
              (noted given docs s) ∧
        Column.rows columns = .ok rows ∧ rows.length = docs.length ∧
        ∀ row ∈ rows, ∀ name, (row.get? name).isSome = true ↔ ∃ column ∈ columns, column.name = name := by
  refine ⟨fun _ => IndexerConfig.filled_functions_of_lacksFunction,
    IndexerConfig.filled_functions_of_not, c.filled_filled, ofConfig_filled c,
    fun _ _ _ => config_of_ofConfig_eq_ok, ?_⟩
  rintro ⟨service, _⟩ rfl docs embedder partition s given
  have hdefault : c.filled.converter = none := hconverter
  by_cases hwritable : ∃ made, Writable c.filled given docs made
  · obtain ⟨made, hwritable⟩ := hwritable
    refine .inr ⟨writtenColumns c.filled made docs, writtenRows c.filled made docs,
      IndexerConfig.schema_admits c.filled_suppliesSparse made docs,
      store_of_writable hdefault hwritable s, rows_writtenColumns, List.length_mapIdx, ?_⟩
    intro row hrow name
    obtain ⟨i, hi, rfl⟩ := List.mem_mapIdx.1 hrow
    rw [← row_writtenColumns (List.getElem?_eq_getElem hi)]
    exact isSome_get?_row
  · exact .inl (store_of_not_writable hdefault hwritable s)

def derivedSparse : IndexerConfig := { IndexerConfig.default with
  vector := some { VectorConfig.default with field := "" }
  sparse := some { SparseConfig.default with field := "" } }

theorem store_matches_schema_derivedSparse :
    let x : Indexer := ⟨(ClientConfig.ofAddress "http://milvus:19530").service, derivedSparse.filled⟩
    let s : Session :=
      ⟨[answering (.obj [("upsertIds", .arr [.str "1", .str "2"])])], [], [], 0, 0⟩
    x.config.functions = [.bm25 "bm25_auto" "content" "sparse_vector"] ∧
      (x.store twoDocuments none none s).1.isOk = true ∧
      ∃ columns rows, x.config.schema.Admits columns ∧ Column.rows columns = .ok rows ∧
        rows.length = 2 ∧ ("vector", FieldType.floatVector) ∈ columns.map Column.signature := by
  intro x s
  have hlacks : derivedSparse.LacksFunction "sparse_vector" := ⟨⟨_, rfl, by decide, by decide⟩, nofun⟩
  have hok : (x.store twoDocuments none none s).1.isOk = true := by decide +kernel
  obtain ⟨hadded, -, -, -, -, hstore⟩ := store_matches_schema derivedSparse rfl
  obtain ⟨f, hfailed⟩ | ⟨columns, rows, hadmits, -, hrows, hlength, -⟩ :=
    hstore x rfl twoDocuments none none s
  · rw [hfailed] at hok
    cases hok
  · refine ⟨hadded _ hlacks, hok, columns, rows, hadmits, hrows, hlength, ?_⟩
    -- The field of the vectors is not what the function makes.
    exact (hadmits.written (x.config.withParams ((Field.ofType "vector" .floatVector).dimension 0))
      (by decide)).resolve_right (by decide)

end Indexer

end ChatRetrieval.Milvus
