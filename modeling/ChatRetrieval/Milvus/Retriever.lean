import ChatRetrieval.Embedder
import ChatRetrieval.Milvus.Service
import ChatRetrieval.Text.Quoted

/-!
Retrieving documents from the vector store: the modes of searching, the requests they make, and the
retriever, whose collection is loaded when it is made.
-/

namespace ChatRetrieval.Milvus

/-- One of the searches of a hybrid search; zero and nothing stand for the retriever's settings. -/
structure SubRequest where
  vectorField : Option String
  metric : Option Metric
  topK : Nat
  params : Dict String String
  /-- Whether the text is searched for instead of its vector. -/
  isSparse : Bool

inductive SearchMode where
  | approximate (metric : Metric)
  | sparse (metric : Metric)
  /-- The query text is a filter. -/
  | scalar
  /-- Hits within a radius, those within a smaller one perhaps left out. -/
  | range (metric : Metric) (radius : Double) (inner : Option Double)
  | iterator (metric : Metric) (batchSize : Nat) (params : Dict String String)
  | hybrid (legs : List SubRequest) (reranker : Reranker) (topK : Nat)

/-- Turns a result into documents. -/
abbrev ResultConverter := ResultSet → Result (List Document)

structure RetrieverConfig where
  service : Option Service
  collection : String
  partitions : List String
  vectorField : String
  sparseField : String
  outputFields : List String
  topK : Nat
  consistency : Consistency
  mode : Option SearchMode
  converter : Option ResultConverter
  embedder : Option Embedder

namespace RetrieverConfig

def default : RetrieverConfig where
  service := none
  collection := defaultCollection
  partitions := []
  vectorField := defaultVectorField
  sparseField := defaultSparseField
  outputFields := ["*"]
  topK := defaultTopK
  consistency := .unspecified
  mode := none
  converter := none
  embedder := none

/-- Fills in what is empty. -/
def filled (c : RetrieverConfig) : RetrieverConfig :=
  { c with
    collection := orElse c.collection defaultCollection
    vectorField := orElse c.vectorField defaultVectorField
    sparseField := orElse c.sparseField defaultSparseField
    outputFields := if c.outputFields.isEmpty then ["*"] else c.outputFields
    topK := if c.topK = 0 then defaultTopK else c.topK }

def convert (c : RetrieverConfig) : ResultConverter :=
  c.converter.getD fun r => .ok r.documents

end RetrieverConfig

/-- What a single call may add. -/
structure RetrieveOptions where
  topK : Option Nat
  embedder : Option Embedder
  filter : Option String
  grouping : Option Grouping

namespace RetrieveOptions

/-- The filter, an empty one counting as none. -/
def filterText (o : RetrieveOptions) : Option String := o.filter.filter fun f => !f.isEmpty

end RetrieveOptions

/-- Batches to be searched through by default. -/
def defaultBatchSize : Nat := 100

/-- A walk in batches; zero means the default size. -/
def SearchMode.iteratorOf (metric : Metric) (batchSize : Nat) (params : Dict String String) :
    SearchMode :=
  .iterator metric (if batchSize = 0 then defaultBatchSize else batchSize) params

/-- A configured retriever as its modes see it. -/
structure Retriever where
  service : Service
  config : RetrieverConfig
  mode : SearchMode

namespace Retriever

variable (r : Retriever)

def limit (o : RetrieveOptions) : Nat := o.topK.getD r.config.topK

/-- The vector of a query text, for a mode that cannot do without one. -/
def queryVector (mode query : String) (o : RetrieveOptions) : Action (List Single) := do
  match o.embedder.or r.config.embedder with
  | none => Action.fail (Cause.embeddingRequired mode).failure
  | some e =>
    match ← (e.embed [query]).within "[Retriever] failed to embed query" with
    | [vector] => return vector.map Double.toSingle
    | vectors => Action.fail (.plain ("[Retriever] invalid embedding result: expected 1, got " ++
        Text.decimal vectors.length))

/-- A search by one vector. -/
def searchRequest (field : String) (data : QueryData) (params : List (String × String))
    (o : RetrieveOptions) : SearchRequest where
  collection := r.config.collection
  limit := r.limit o
  data := [data]
  vectorField := field
  outputFields := r.config.outputFields
  params := Dict.ofList params
  partitions := r.config.partitions
  filter := o.filterText
  grouping := o.grouping
  consistency := r.config.consistency.requested

/-- A number as the text of a parameter. -/
def numberText (d : Double) : String :=
  if d.isFinite then String.ofList d.plainText
  else if d.isNaN then "NaN"
  else if d.isNegative then "-inf"
  else "inf"

def rangeParams (metric : Metric) (radius : Double) (inner : Option Double) :
    List (String × String) :=
  [("radius", numberText radius), (metricKey, metric.name)] ++
    (inner.map fun d => ("range_filter", numberText d)).toList

/-- The expression that selects rows: the query text and the filter joined. -/
def scalarFilter (query : String) (filter : Option String) : String :=
  match filter with
  | some f => if query.isEmpty then f else "(" ++ query ++ ") and (" ++ f ++ ")"
  | none => query

def queryRequest (query : String) (o : RetrieveOptions) : QueryRequest where
  collection := r.config.collection
  filter := scalarFilter query o.filterText
  outputFields := r.config.outputFields
  limit := r.limit o
  partitions := r.config.partitions
  consistency := r.config.consistency.requested

/-- A walk in batches; parameters of the mode replace the metric. -/
def iteratorRequest (metric : Metric) (batchSize : Nat) (params : Dict String String)
    (vector : List Single) (o : RetrieveOptions) : IteratorRequest where
  collection := r.config.collection
  data := .vector vector
  vectorField := r.config.vectorField
  batchSize := batchSize
  limit := r.limit o
  outputFields := r.config.outputFields
  params := (Dict.ofList [(metricKey, metric.name)]).union params
  partitions := r.config.partitions
  filter := o.filterText
  grouping := o.grouping
  consistency := r.config.consistency.requested

/-- What one search of a hybrid search looks for. -/
def legData (s : SubRequest) (query : String) (vector : List Single) : Result QueryData :=
  if s.isSparse then .ok (.text query)
  else if vector.isEmpty then
    Result.fail "dense vector SubRequest requires embedding, but query vector is empty"
  else .ok (.vector vector)

/-- One search of a hybrid search. -/
def leg (query : String) (vector : List Single) (o : RetrieveOptions) (s : SubRequest) :
    Result Leg := do
  let data ← legData s query vector
  return {
    vectorField := s.vectorField.getD
      (if s.isSparse then r.config.sparseField else r.config.vectorField)
    limit := if s.topK = 0 then r.config.topK else s.topK
    data
    params := s.params.insertMany (s.metric.map fun m => (metricKey, m.name)).toList
    filter := o.filterText
    grouping := o.grouping }

def hybridRequest (legs : List SubRequest) (reranker : Reranker) (topK : Nat) (query : String)
    (vector : List Single) (o : RetrieveOptions) : Result HybridRequest :=
  if legs.length < 2 then Result.fail
    "hybrid search requires at least 2 SubRequests; use Approximate or Sparse search mode for single-vector search"
  else do
    let legs ← legs.mapM (r.leg query vector o)
    return {
      collection := r.config.collection
      limit := o.topK.getD (if topK = 0 then r.config.topK else topK)
      legs
      reranker
      outputFields := r.config.outputFields
      partitions := r.config.partitions
      consistency := r.config.consistency.requested }

/-- The documents of the first result. -/
def convertFirst (results : List ResultSet) : Result (List Document) :=
  match results with
  | first :: _ => r.config.convert first
  | [] => .ok []

def searchDocuments (request : SearchRequest) : Action (List Document) := do
  let results ← (r.service.search request).within "failed to search"
  Action.lift (r.convertFirst results)

/-- The documents of at most so many batches, up to the last batch or an empty one. -/
def walk (request : IteratorRequest) : Nat → Progress → Action (List Document)
  | 0, _ => return []
  | batches + 1, p => do
    match ← (r.service.nextBatch request p).within "iterator next failed" with
    | (none, _) => return []
    | (some batch, p) =>
      if batch.size = 0 then return []
      let docs ← Action.lift
        (Result.within "failed to convert batch results" (r.config.convert batch))
      return docs ++ (← walk request batches p)

/-- The documents a mode finds for a query text. As no batch is empty, a walk has ended after as many
batches as the window has hits. -/
def retrieve (query : String) (o : RetrieveOptions) : Action (List Document) :=
  match r.mode with
  | .approximate metric => do
    let vector ← r.queryVector "approximate" query o
    r.searchDocuments (r.searchRequest r.config.vectorField (.vector vector)
      [(metricKey, metric.name)] o)
  | .sparse metric =>
    r.searchDocuments (r.searchRequest r.config.sparseField (.text query)
      [(metricKey, metric.name)] o)
  | .scalar => do
    let result ← (r.service.query (r.queryRequest query o)).within "failed to query"
    Action.lift (r.config.convert result)
  | .range metric radius inner => do
    let vector ← r.queryVector "range" query o
    r.searchDocuments (r.searchRequest r.config.vectorField (.vector vector)
      (rangeParams metric radius inner) o)
  | .iterator metric batchSize params => do
    let vector ← r.queryVector "iterator" query o
    let request := r.iteratorRequest metric batchSize params vector o
    Action.lift (Result.within "failed to create search iterator" request.check)
    r.walk request (IteratorRequest.window + 1) .start
  | .hybrid legs reranker topK => do
    let vector ← r.queryVector "hybrid" query o
    let request ← Action.lift (Result.within "failed to build hybrid search option"
      (r.hybridRequest legs reranker topK query vector o))
    let results ← (r.service.hybridSearch request).within "failed to hybrid search"
    Action.lift (r.convertFirst results)

/-- Sees to it that a collection exists and is loaded. -/
def ensureLoaded (service : Service) (collection : String) : Action Unit := do
  let found ← (service.hasCollection collection).within "[NewRetriever] failed to check collection"
  if !found then Action.fail (Cause.collectionNotFound (Text.quoted collection)).failure
  let state ← (service.loadState collection).within "[NewRetriever] failed to get load state"
  if state ≠ .loaded then
    (service.load collection).within "[NewRetriever] failed to load collection"

/-- A retriever for a collection that is loaded. -/
def ofConfig (config : RetrieverConfig) : Action Retriever :=
  match config.service, config.mode with
  | none, _ =>
    Action.fail (.plain "[NewRetriever] milvus client or client config not provided")
  | some _, none => Action.fail (.plain "[NewRetriever] search mode not provided")
  | some service, some mode => do
    let config := config.filled
    ensureLoaded service config.collection
    return ⟨service, config, mode⟩

end Retriever

end ChatRetrieval.Milvus
