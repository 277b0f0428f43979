import ChatRetrieval.Elastic.Search
import ChatRetrieval.Embedder

/-!
How a retriever searches: what request a query text makes. Filters narrow the hits in every mode but
the exact match and the raw request.
-/

namespace ChatRetrieval.Elastic

/-- How two vectors are compared when every document is scored. -/
inductive Similarity where
  | cosine
  | dotProduct
  | l1Norm
  | l2Norm
  deriving DecidableEq

/-- The script that scores the vector in a field; no score is negative. -/
def Similarity.script (s : Similarity) (field : String) : String :=
  match s with
  | cosine => "cosineSimilarity(params.embedding, '" ++ field ++ "') + 1.0"
  | dotProduct => "double value = dotProduct(params.embedding, '" ++ field ++
      "'); return sigmoid(1, Math.E, -value);"
  | l1Norm => "1 / (1 + l1norm(params.embedding, '" ++ field ++ "'))"
  | l2Norm => "1 / (1 + l2norm(params.embedding, '" ++ field ++ "'))"

/-- Nearest-neighbour search, alone or joined with a text match. -/
structure Approximate where
  vectorField : String
  /-- The field matched in a hybrid search. -/
  queryField : String
  hybrid : Bool
  /-- Whether a hybrid search fuses its two rankings. -/
  fused : Bool
  fusion : RankFusion
  k : Option Nat
  candidates : Option Nat
  similarity : Option Single
  /-- The model of the cluster that embeds the query in place of an embedder. -/
  modelId : Option String

inductive SearchMode where
  | exactMatch (field : String)
  /-- The query text is the request. -/
  | raw
  | denseSimilarity (similarity : Similarity) (field : String)
  | approximate (settings : Approximate)
  | sparseVector (field : String) (inferenceId : Option String)
  | textExpansion (modelId field : String)

/-- What a single call may add. -/
structure SearchOptions where
  filters : List Query
  sparseVector : Option (Dict String Single)

def SearchOptions.none : SearchOptions := ⟨[], .none⟩

/-- The vector of a query text. -/
def embedQuery (embedder : Option Embedder) (query : String) : Action (List Single) := do
  match embedder with
  | none => Action.fail (.plain "embedding not provided")
  | some e =>
    match ← (e.embed [query]).within "embedding failed" with
    | [vector] => return vector.map Double.toSingle
    | vectors => Action.fail (.plain ("vector len error, expected=1, got=" ++
        Text.decimal vectors.length))

/-- Boolean operators with nothing joined. -/
def noClauses : Junction Query := ⟨[], [], [], []⟩

namespace SearchMode

/-- Scores every document that passes the filters. -/
def scoreAll (similarity : Similarity) (field : String) (filters : List Query)
    (vector : List Single) : Query :=
  let inner := if filters.isEmpty then Query.everything
    else Query.joined { noClauses with filter := filters }
  let params := Dict.ofList [("embedding", Json.arr (vector.map .ofSingle))]
  { Query.blank with
    scriptScore := some ⟨inner, ⟨similarity.script field, params⟩, none⟩ }

/-- The request of a nearest-neighbour search. -/
def nearest (a : Approximate) (query : String) (filters : List Query)
    (vector : Option (List Single)) : SearchRequest :=
  let search : NearestSearch := {
    field := a.vectorField
    queryVector := vector
    builder := a.modelId.map fun id => ⟨id, query⟩
    k := a.k
    candidates := a.candidates
    filter := filters
    similarity := a.similarity }
  let matching := Query.joined { noClauses with
    must := [Query.textMatch a.queryField query], filter := filters }
  { SearchRequest.blank with
    nearest := [search]
    query := if a.hybrid then some matching else none
    rank := if a.hybrid && a.fused then some (some a.fusion) else none }

/-- The clause on a sparse vector: the inference endpoint expands the query, or else the call brings
the vector. -/
def sparseClause (field : String) (inferenceId : Option String) (query : String)
    (vector : Option (Dict String Single)) : Result SparseClause :=
  match inferenceId, vector with
  | some id, _ => .ok ⟨field, some id, some query, none⟩
  | none, some v => .ok ⟨field, none, none, some v⟩
  | none, none => Result.fail
      "[SparseVectorQuery] either inference id or a sparse vector option is required"

/-- The request for a query text. -/
def request (mode : SearchMode) (embedder : Option Embedder) (query : String)
    (options : SearchOptions) : Action SearchRequest :=
  match mode with
  | exactMatch field => return .ofQuery (Query.textMatch field query)
  | raw => Action.lift (Result.within "failed to parse raw search request"
      (Result.ofOption .json (Decode.fromText SearchRequest.decode query)))
  | denseSimilarity similarity field => do
    let vector ← (embedQuery embedder query).within "[DenseVectorSimilarity] failed to embed query"
    return .ofQuery (scoreAll similarity field options.filters vector)
  | approximate a => do
    let vector ← if a.modelId.isSome then pure none else some <$> embedQuery embedder query
    return nearest a query options.filters vector
  | sparseVector field inferenceId => do
    let clause ← Action.lift (sparseClause field inferenceId query options.sparseVector)
    return .ofQuery (Query.joined { noClauses with
      should := [{ Query.blank with sparseVector := some clause }], filter := options.filters })
  | textExpansion modelId field =>
    let expansion := Dict.ofList [(field ++ ".tokens", ModelText.mk modelId query)]
    return .ofQuery (Query.joined { noClauses with
      must := [{ Query.blank with textExpansion := some expansion }], filter := options.filters })

end SearchMode

end ChatRetrieval.Elastic
