import ChatRetrieval.Milvus.Basic
import ChatRetrieval.Milvus.Column
import ChatRetrieval.Milvus.Param

/-!
Requests for reading: searches by one vector, by several at once, by a filter alone, and page by page.
-/

namespace ChatRetrieval.Milvus

open Json (field field?)

/-- What is searched for: a vector, or a text the store makes one from. -/
inductive QueryData where
  | vector (v : List Single)
  | text (t : String)
  deriving DecidableEq

/-- Groups hits by a field. -/
structure Grouping where
  groupBy : String
  size : Nat
  /-- Whether every group must be full. -/
  isStrict : Bool
  deriving DecidableEq

structure SearchRequest where
  collection : String
  limit : Nat
  data : List QueryData
  vectorField : String
  outputFields : List String
  params : Dict String String
  partitions : List String
  filter : Option String
  grouping : Option Grouping
  consistency : Option Consistency

/-- One of the searches of a hybrid search. -/
structure Leg where
  vectorField : String
  limit : Nat
  data : QueryData
  params : Dict String String
  filter : Option String
  grouping : Option Grouping

/-- How the ranked lists of a hybrid search are fused. -/
inductive Reranker where
  /-- By reciprocal ranks, smoothed by `k`. -/
  | reciprocal (k : Double)
  /-- By scores, each search with its weight. -/
  | weighted (weights : List Double)
  deriving DecidableEq

structure HybridRequest where
  collection : String
  limit : Nat
  legs : List Leg
  reranker : Reranker
  outputFields : List String
  partitions : List String
  consistency : Option Consistency

structure QueryRequest where
  collection : String
  filter : String
  outputFields : List String
  limit : Nat
  partitions : List String
  consistency : Option Consistency

/-- A search whose hits come in batches. -/
structure IteratorRequest where
  collection : String
  data : QueryData
  vectorField : String
  batchSize : Nat
  /-- How many hits all batches may have together; zero sets no limit. -/
  limit : Nat
  outputFields : List String
  params : Dict String String
  partitions : List String
  filter : Option String
  grouping : Option Grouping
  consistency : Option Consistency

def QueryData.toJson : QueryData → Json
  | vector v => vectorToJson v
  | text t => .str t

def Grouping.decode : Decoder Grouping := fun j => do
  let r ← Decode.record ["group_by_field", "group_size", "strict_group_size"] j
  return ⟨← r.required "group_by_field" Decode.string, ← r.required "group_size" (Decode.natural 64),
    ← r.required "strict_group_size" Decode.bool⟩

def metricKey : String := "metric_type"

/-- Search parameters: the metric stands apart from the others, which are typed. -/
def paramsToJson (params : Dict String String) : Json := .ofFields [
  field? "metricType" .str (params.get? metricKey),
  Json.fieldDict "params" ((params.erase metricKey).map Param.toJson)]

def partitionField (partitions : List String) : Option (String × Json) :=
  if partitions.isEmpty then none else field "partitionNames" (.ofStrings partitions)

def consistencyField (c : Option Consistency) : Option (String × Json) :=
  field? "consistencyLevel" (fun c => .str c.name) c

def groupingFields : Option Grouping → List (Option (String × Json))
  | none => []
  | some g => [field "groupingField" (.str g.groupBy), field "groupSize" (.ofNat g.size),
      if g.isStrict then field "strictGroupSize" (.bool true) else none]

def SearchRequest.toJson (r : SearchRequest) : Json := .ofFields ([
  field "collectionName" (.str r.collection), field "data" (.arr (r.data.map QueryData.toJson)),
  field "annsField" (.str r.vectorField), field "limit" (.ofNat r.limit),
  field "outputFields" (.ofStrings r.outputFields), field "searchParams" (paramsToJson r.params),
  partitionField r.partitions, field? "filter" .str r.filter, consistencyField r.consistency] ++
  groupingFields r.grouping)

def Leg.toJson (l : Leg) : Json := .ofFields ([
  field "data" (.arr [l.data.toJson]), field "annsField" (.str l.vectorField),
  field "limit" (.ofNat l.limit), field "searchParams" (paramsToJson l.params),
  field? "filter" .str l.filter] ++ groupingFields l.grouping)

namespace Reranker

/-- Reciprocal ranks with the usual smoothing. -/
def default : Reranker := reciprocal (Double.ofNat 60)

def toJson : Reranker → Json
  | reciprocal k => .ofFields [field "strategy" (.str "rrf"),
      field "params" (.ofFields [field "k" (.ofDouble k)])]
  | weighted weights => .ofFields [field "strategy" (.str "weighted"),
      field "params" (.ofFields [field "weights" (.arr (weights.map .ofDouble))])]

end Reranker

def HybridRequest.toJson (r : HybridRequest) : Json := .ofFields [
  field "collectionName" (.str r.collection), field "search" (.arr (r.legs.map Leg.toJson)),
  field "rerank" r.reranker.toJson, field "limit" (.ofNat r.limit),
  field "outputFields" (.ofStrings r.outputFields), partitionField r.partitions,
  consistencyField r.consistency]

def QueryRequest.toJson (r : QueryRequest) : Json := .ofFields [
  field "collectionName" (.str r.collection), field "filter" (.str r.filter),
  field "outputFields" (.ofStrings r.outputFields), field "limit" (.ofNat r.limit),
  partitionField r.partitions, consistencyField r.consistency]

/-- How far a walk through the hits has come. -/
structure Progress where
  /-- Batches given so far. -/
  batches : Nat
  /-- Hits given so far. -/
  hits : Nat
  isFinished : Bool
  deriving DecidableEq

def Progress.start : Progress := ⟨0, 0, false⟩

namespace IteratorRequest

/-- The store gives no hit beyond this many. -/
def window : Nat := 16384

/-- How many hits a walk may give. -/
def total (r : IteratorRequest) : Nat := if r.limit = 0 then window else min r.limit window

/-- How many hits the next batch may have. -/
def nextSize (r : IteratorRequest) (p : Progress) : Nat := min r.batchSize (r.total - p.hits)

/-- A batch must have room for a hit. -/
def check (r : IteratorRequest) : Result Unit :=
  if r.batchSize = 0 then Result.fail "search iterator batch size must be positive" else .ok ()

/-- The body of the request for the next batch. -/
def page (r : IteratorRequest) (p : Progress) : Json := .ofFields ([
  field "collectionName" (.str r.collection), field "data" (.arr [r.data.toJson]),
  field "annsField" (.str r.vectorField), field "limit" (.ofNat (r.nextSize p)),
  field "offset" (.ofNat p.hits), field "outputFields" (.ofStrings r.outputFields),
  field "searchParams" (paramsToJson r.params), partitionField r.partitions,
  field? "filter" .str r.filter, consistencyField r.consistency] ++ groupingFields r.grouping)

end IteratorRequest

end ChatRetrieval.Milvus
