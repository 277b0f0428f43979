import ChatRetrieval.Document
import ChatRetrieval.Elastic.Client
import ChatRetrieval.Embedder

/-!
Writing documents to the search cluster in batches. A document is mapped to fields; a field may ask
for the vector of its text to be stored beside it, and all texts of a batch are embedded at once.
-/

namespace ChatRetrieval.Elastic

/-- The vector that is stored with a field. -/
structure VectorField where
  /-- The name it is stored under. -/
  name : String
  /-- The text that is embedded; without it the value must be a text. -/
  text : Option (Json → Result String)

structure FieldValue where
  value : Json
  vector : Option VectorField

/-- The fields of a document. -/
abbrev FieldMapping := Document → Result (Dict String FieldValue)

structure IndexerConfig where
  index : String
  /-- Documents in one request; zero means five. -/
  batchSize : Nat
  fields : Option FieldMapping
  embedder : Option Embedder
  /-- Settings and mappings an index that does not exist is created with. -/
  mappings : Option Json

structure Indexer where
  client : ClientConfig
  config : IndexerConfig
  fields : FieldMapping

namespace Indexer

def defaultBatchSize : Nat := 5

/-- Checks a configuration and fills in the batch size. -/
def validate (config : IndexerConfig) : Result (IndexerConfig × FieldMapping) :=
  if config.index.isEmpty then Result.fail "[NewIndexer] index not provided"
  else match config.fields with
    | none => Result.fail "[NewIndexer] DocumentToFields method not provided"
    | some fields =>
      let batchSize := if config.batchSize = 0 then defaultBatchSize else config.batchSize
      .ok ({ config with batchSize }, fields)

/-- An indexer whose index, given mappings, is sure to exist. -/
def ofConfig (client : ClientConfig) (config : IndexerConfig) : Action Indexer := do
  let (config, fields) ← Action.lift (validate config)
  match config.mappings with
  | none => return ⟨client, config, fields⟩
  | some mappings =>
    if !(← client.indexExists config.index) then
      (client.createIndex config.index mappings).within
        ("[NewIndexer] failed to create index " ++ config.index)
    return ⟨client, config, fields⟩

end Indexer

/-- A text to be embedded: the document it belongs to and the name its vector gets. -/
structure VectorTask where
  document : Nat
  name : String
  text : String

/-- The text of a field that is to be embedded. -/
def vectorText (key : String) (value : Json) (v : VectorField) : Result String :=
  match v.text, value with
  | some text, value => text value
  | none, .str s => .ok s
  | none, _ => Result.fail ("[makeBatch] assert value as string failed, key=" ++ key ++
      ", emb_key=" ++ v.name)

/-- The task of a field, if it has one; a vector must not take the place of a field. -/
def vectorTask (document : Nat) (fields : Dict String FieldValue) (key : String)
    (f : FieldValue) : Result (Option VectorTask) :=
  match f.vector with
  | none => .ok none
  | some v =>
    if key = v.name then Result.fail ("[makeBatch] duplicate key for embed key, key=" ++ key)
    else if fields.contains v.name then
      Result.fail ("[makeBatch] duplicate key for origin key, key=" ++ v.name)
    else (vectorText key f.value v).map fun text => some ⟨document, v.name, text⟩

/-- The fields of each document and the tasks of all, documents counted from `n`. -/
def collect (mapping : FieldMapping) (n : Nat) :
    List Document → Result (List (Dict String Json) × List VectorTask)
  | [] => .ok ([], [])
  | d :: rest => do
    let fields ← Result.within "[makeBatch] FieldValueMapping failed" (mapping d)
    let tasks ← fields.entries.mapM fun e => vectorTask n fields e.1 e.2
    let (sources, more) ← collect mapping (n + 1) rest
    return (fields.map (·.value) :: sources, tasks.filterMap id ++ more)

def vectorToJson (vector : List Double) : Json := .arr (vector.map .ofDouble)

/-- Stores the vectors of the tasks with their documents, which are counted from `n`. -/
def storeVectors (results : List (VectorTask × List Double)) (n : Nat) :
    List (Dict String Json) → List (Dict String Json)
  | [] => []
  | source :: rest =>
    let own := results.filter fun r => r.1.document = n
    source.insertMany (own.map fun r => (r.1.name, vectorToJson r.2)) ::
      storeVectors results (n + 1) rest

/-- The sources of a batch, vectors included. -/
def makeBatch (mapping : FieldMapping) (embedder : Option Embedder) (docs : List Document) :
    Action (List (Dict String Json)) := do
  let (sources, tasks) ← Action.lift (collect mapping 0 docs)
  if tasks.isEmpty then return sources
  match embedder with
  | none => Action.fail (.plain "[makeBatch] embedding method not provided")
  | some e =>
    let vectors ← (e.embed (tasks.map (·.text))).within "[makeBatch] embedding failed"
    if vectors.length = tasks.length then return storeVectors (tasks.zip vectors) 0 sources
    else Action.fail (.plain ("[makeBatch] invalid vector length, expected=" ++
      Text.decimal tasks.length ++ ", got=" ++ Text.decimal vectors.length))

/-- Cuts a list into pieces of `size` items, at least one; the last piece may be shorter. -/
def chunks {α : Type} (size : Nat) (items : List α) : List (List α) :=
  match items with
  | [] => []
  | x :: r => (x :: r.take (size - 1)) :: chunks size (r.drop (size - 1))
termination_by items.length
decreasing_by simp only [List.length_drop, List.length_cons]; omega

namespace Indexer

/-- Writes one batch. -/
def storeBatch (i : Indexer) (embedder : Option Embedder) (batch : List Document) : Action Unit := do
  let sources ← makeBatch i.fields embedder batch
  let operations := (batch.zip sources).map fun (d, source) =>
    BulkOperation.mk i.config.index d.id (.ofDict source)
  let response ← (i.client.bulk operations).within "[Indexer.Store] bulk request failed"
  match response.firstFailure with
  | some f => Action.fail f
  | none => return ()

def storeBatches (i : Indexer) (embedder : Option Embedder) : List (List Document) → Action Unit
  | [] => return ()
  | batch :: rest => do
    i.storeBatch embedder batch
    i.storeBatches embedder rest

/-- Writes documents batch by batch, up to the first failure, and gives their ids. -/
def store (i : Indexer) (docs : List Document) (embedder : Option Embedder) :
    Action (List String) := do
  i.storeBatches (embedder.or i.config.embedder) (chunks i.config.batchSize docs)
  return docs.map (·.id)

end Indexer

end ChatRetrieval.Elastic
