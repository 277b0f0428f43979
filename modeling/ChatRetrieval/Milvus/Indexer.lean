import ChatRetrieval.Embedder
import ChatRetrieval.Milvus.Service

/-!
Writing documents to the vector store. Making an indexer creates, indexes and loads its collection
where that has not been done; storing embeds the documents and writes them at once.
-/

namespace ChatRetrieval.Milvus

/-- The field of dense vectors. -/
structure VectorConfig where
  /-- Needed when the collection has to be created. -/
  dimension : Int
  metric : Metric
  index : Option DenseIndex
  field : String

def VectorConfig.default : VectorConfig := ⟨0, .l2, none, defaultVectorField⟩

/-- The field of sparse vectors. -/
structure SparseConfig where
  index : Option SparseIndex
  field : String
  metric : Metric
  /-- When not set, the metric decides. -/
  source : Option SparseSource

def SparseConfig.default : SparseConfig := ⟨none, defaultSparseField, .bm25, none⟩

/-- Where sparse vectors come from; texts are ranked by what the store derives. -/
def SparseConfig.resolved (s : SparseConfig) : SparseSource :=
  s.source.getD (if s.metric = .bm25 then .derived else .precomputed)

/-- Turns documents and their vectors into columns. -/
abbrev DocumentConverter := List Document → List (List Double) → Result (List Column)

structure IndexerConfig where
  service : Option Service
  collection : String
  description : String
  partition : Option String
  consistency : Consistency
  isDynamic : Bool
  vector : Option VectorConfig
  sparse : Option SparseConfig
  converter : Option DocumentConverter
  embedder : Option Embedder
  functions : List Function
  /-- More parameters of the fields, by field name. -/
  fieldParams : Dict String (Dict String String)

namespace IndexerConfig

def default : IndexerConfig where
  service := none
  collection := defaultCollection
  description := defaultDescription
  partition := none
  consistency := .unspecified
  isDynamic := false
  vector := none
  sparse := none
  converter := none
  embedder := none
  functions := []
  fieldParams := Dict.empty

/-- The configured functions, with one for derived sparse vectors that none of them fills. -/
def allFunctions (c : IndexerConfig) : List Function :=
  match c.sparse with
  | some s =>
    if s.source = some .derived ∧ !(c.functions.any fun f => f.outputs.contains s.field) then
      c.functions ++ [.bm25 "bm25_auto" contentField s.field]
    else c.functions
  | none => c.functions

/-- Fills in what is empty or not set. -/
def filled (c : IndexerConfig) : IndexerConfig :=
  let vector := c.vector.map fun v => { v with field := orElse v.field defaultVectorField }
  let sparse := c.sparse.map fun s =>
    { s with field := orElse s.field defaultSparseField, source := some s.resolved }
  let c := { c with
    collection := orElse c.collection defaultCollection
    description := orElse c.description defaultDescription
    vector
    sparse }
  { c with functions := c.allFunctions }

/-- Adds the parameters set for a field. -/
def withParams (c : IndexerConfig) (f : Field) : Field :=
  match c.fieldParams.get? f.name with
  | some params => { f with params := f.params.union params }
  | none => f

/-- The fields of a collection. -/
def fields (c : IndexerConfig) : List Field :=
  [((Field.ofType idField .varChar).maxLength maxIdLength).primary,
    (Field.ofType contentField .varChar).maxLength maxContentLength,
    Field.ofType metadataField .json] ++
  (c.vector.map fun v => (Field.ofType v.field .floatVector).dimension v.dimension).toList ++
  (c.sparse.map fun s => Field.ofType s.field .sparseFloatVector).toList

def schema (c : IndexerConfig) : Schema :=
  ⟨c.description, c.fields.map c.withParams, c.functions, c.isDynamic⟩

end IndexerConfig

/-- Reads the entries of a sparse vector; dimensions are numbers of 32 bits. -/
def sparseEntries : List (Int × Double) → Result SparseVector
  | [] => .ok .empty
  | (i, w) :: r =>
    if 0 ≤ i ∧ i < Nat.pow 2 32 then
      (sparseEntries r).map fun v => ⟨i.toNat :: v.indices, w.toSingle :: v.weights⟩
    else Result.fail ("negative sparse index: " ++ Text.signedDecimal i)

/-- The sparse vector of a document; an empty one when it has none. -/
def sparseVector (d : Document) : Result SparseVector :=
  match d.sparseVector with
  | some v => sparseEntries v.entries
  | none => .ok .empty

/-- The dense vector of the document at an index: the one that was made for it, or its own. -/
def denseVector (docs : Nat) (vectors : List (List Double)) (i : Nat) (d : Document) :
    Result (List Single) :=
  let source := if vectors.length = docs then vectors[i]? else d.denseVector
  match source.filter fun v => !v.isEmpty with
  | some v => .ok (v.map Double.toSingle)
  | none => Result.fail ("vector data missing for document " ++ Text.decimal i ++ " (id: " ++ d.id ++
      ")")

/-- The dense and sparse vectors of documents counted from `i`, as far as there are fields for
them. -/
def gatherVectors (docs : Nat) (vectors : List (List Double)) (dense sparse : Bool) (i : Nat) :
    List Document → Result (List (List Single) × List SparseVector)
  | [] => .ok ([], [])
  | d :: rest => do
    let own ← if dense then (denseVector docs vectors i d).map ([·]) else .ok []
    let weights ← if sparse then
        Result.within ("failed to convert sparse vector for document " ++ Text.decimal i)
          ((sparseVector d).map ([·]))
      else .ok []
    let (more, others) ← gatherVectors docs vectors dense sparse (i + 1) rest
    return (own ++ more, weights ++ others)

/-- Writes id, content and metadata, the dense vectors and the sparse vectors documents bring. -/
def defaultConverter (dense sparse : Option String) : DocumentConverter := fun docs vectors => do
  let (rows, weights) ← gatherVectors docs.length vectors dense.isSome sparse.isSome 0 docs
  let dimension := (rows.head?.map List.length).getD 0
  return [⟨idField, .text (docs.map (·.id))⟩, ⟨contentField, .text (docs.map (·.content))⟩,
    ⟨metadataField, .json (docs.map fun d => .ofDict d.metadata)⟩] ++
    (dense.map fun f => Column.mk f (.floats dimension rows)).toList ++
    (sparse.map fun f => Column.mk f (.sparse weights)).toList

/-- The converter of a configuration that was filled in. -/
def IndexerConfig.documentConverter (c : IndexerConfig) : DocumentConverter :=
  c.converter.getD (defaultConverter (c.vector.map (·.field))
    ((c.sparse.filter fun s => s.source = some .precomputed).map (·.field)))

structure Indexer where
  service : Service
  config : IndexerConfig

namespace Indexer

variable (x : Indexer)

/-- Whether an index exists; one that cannot be described counts as missing. -/
def indexExists (field : String) : Action Bool := do
  match ← (x.service.describeIndex x.config.collection field).attempt with
  | .ok description => return description.isSome
  | .error _ => return false

/-- Creates an index unless the field has one. -/
def ensureIndex (field context : String) (index : IndexParams) : Action Unit := do
  if !(← x.indexExists field) then
    (x.service.createIndex ⟨x.config.collection, field, index⟩).within context

def ensureIndexes : Action Unit := do
  if let some v := x.config.vector then
    x.ensureIndex v.field "[NewIndexer] failed to create index"
      ((v.index.getD .auto).build v.metric)
  if let some s := x.config.sparse then
    x.ensureIndex s.field "[NewIndexer] failed to create sparse index"
      ((s.index.getD (.inverted SparseIndex.defaultDropRatio)).build s.metric)

/-- Creates the collection. -/
def create : Action Unit := do
  if x.config.vector.any fun v => v.dimension ≤ 0 then
    Action.fail (.plain
      "[NewIndexer] vector dimension is required when collection does not exist")
  (x.service.createCollection
    ⟨x.config.collection, x.config.schema, x.config.consistency.requested⟩).within
    "[NewIndexer] failed to create collection"

/-- Creates, indexes and loads the collection where that has not been done. -/
def prepare : Action Unit := do
  let collection := x.config.collection
  let found ← (x.service.hasCollection collection).within
    "[NewIndexer] failed to check collection"
  if !found then x.create
  let state ← (x.service.loadState collection).within "[NewIndexer] failed to get load state"
  if state ≠ .loaded then
    x.ensureIndexes
    (x.service.load collection).within "[NewIndexer] failed to load collection"

/-- An indexer whose collection is loaded. -/
def ofConfig (config : IndexerConfig) : Action Indexer :=
  match config.service with
  | none => Action.fail (.plain "[NewIndexer] milvus client or client config not provided")
  | some service => do
    if config.vector.isNone && config.sparse.isNone then
      Action.fail (.plain "[NewIndexer] at least one vector field (dense or sparse) is required")
    let x : Indexer := ⟨service, config.filled⟩
    x.prepare
    return x

/-- A vector for each document, or none at all without an embedder. -/
def embedDocuments (embedder : Option Embedder) (docs : List Document) :
    Action (List (List Double)) := do
  match embedder with
  | none => return []
  | some e =>
    let vectors ← (e.embed (docs.map (·.content))).within
      "[Indexer.Store] failed to embed documents"
    if vectors.length = docs.length then return vectors
    else Action.fail (Cause.embeddingCountMismatch docs.length vectors.length).failure

/-- Writes documents and gives the ids the store answers with. The partition of the call goes before
the configured one, an empty one counting as none. -/
def store (docs : List Document) (embedder : Option Embedder) (partition : Option String) :
    Action (List String) := do
  let partition := (partition.or x.config.partition).filter fun p => !p.isEmpty
  let vectors ← embedDocuments (embedder.or x.config.embedder) docs
  let columns ← Action.lift (Result.within "[Indexer.Store] failed to convert documents"
    (x.config.documentConverter docs vectors))
  let ids ← (x.service.upsert ⟨x.config.collection, partition, columns⟩).within
    "[Indexer.Store] failed to upsert documents"
  return ids.map textOf

end Indexer

end ChatRetrieval.Milvus
