import ChatRetrieval.Milvus.Basic

/-!
Indexes on vector fields: their kinds, the parameters each is built with, and the values of those
that are not set.
-/

namespace ChatRetrieval.Milvus

open Json (field)

/-- An index as the store knows it. -/
structure IndexParams where
  type : String
  metric : Metric
  params : Dict String Json
  deriving DecidableEq

/-- An index on dense vectors. -/
inductive DenseIndex where
  /-- The store picks the kind. -/
  | auto
  | flat
  | diskAnn
  | binFlat
  | gpuBruteForce
  | gpuIvfFlat
  | gpuIvfPq
  /-- A graph of this degree, built with this search width. -/
  | hnsw (degree construction : Nat)
  | ivfFlat (clusters : Nat)
  | ivfSq8 (clusters : Nat)
  | binIvfFlat (clusters : Nat)
  | ivfRabitQ (clusters : Nat)
  /-- Product quantization into so many parts of so many bits. -/
  | ivfPq (clusters parts bits : Nat)
  | scann (clusters : Nat) (keepsVectors : Bool)
  | gpuCagra (intermediateDegree degree : Nat)
  deriving DecidableEq

/-- An index on sparse vectors; the ratio is the share of small values that is dropped. -/
inductive SparseIndex where
  | inverted (dropRatio : Double)
  | wand (dropRatio : Double)
  deriving DecidableEq

namespace DenseIndex

def defaultClusters : Nat := 128
def hnswDegree : Nat := 16
def hnswConstruction : Nat := 200
def quantizerParts : Nat := 16
def quantizerBits : Nat := 8
def cagraIntermediateDegree : Nat := 128
def cagraDegree : Nat := 64

def typeName : DenseIndex → String
  | auto => "AUTOINDEX"
  | flat => "FLAT"
  | diskAnn => "DISKANN"
  | binFlat => "BIN_FLAT"
  | gpuBruteForce => "GPU_BRUTE_FORCE"
  | gpuIvfFlat => "GPU_IVF_FLAT"
  | gpuIvfPq => "GPU_IVF_PQ"
  | hnsw _ _ => "HNSW"
  | ivfFlat _ => "IVF_FLAT"
  | ivfSq8 _ => "IVF_SQ8"
  | binIvfFlat _ => "BIN_IVF_FLAT"
  | ivfRabitQ _ => "IVF_RABITQ"
  | ivfPq _ _ _ => "IVF_PQ"
  | scann _ _ => "SCANN"
  | gpuCagra _ _ => "GPU_CAGRA"

def params : DenseIndex → List (String × Json)
  | hnsw degree construction => [("M", .ofNat degree), ("efConstruction", .ofNat construction)]
  | ivfFlat n | ivfSq8 n | binIvfFlat n | ivfRabitQ n => [("nlist", .ofNat n)]
  | ivfPq n parts bits => [("nlist", .ofNat n), ("m", .ofNat parts), ("nbits", .ofNat bits)]
  | scann n keepsVectors => [("nlist", .ofNat n), ("with_raw_data", .bool keepsVectors)]
  | gpuCagra intermediate degree => [("intermediate_graph_degree", .ofNat intermediate),
      ("graph_degree", .ofNat degree)]
  | _ => []

/-- The index for vectors compared by a metric. -/
def build (i : DenseIndex) (metric : Metric) : IndexParams :=
  ⟨i.typeName, metric, Dict.ofList i.params⟩

end DenseIndex

namespace SparseIndex

/-- One fifth. -/
def defaultDropRatio : Double := Double.ofDecimal false 2 (-1)

def typeName : SparseIndex → String
  | inverted _ => "SPARSE_INVERTED_INDEX"
  | wand _ => "SPARSE_WAND"

def dropRatio : SparseIndex → Double
  | inverted r => r
  | wand r => r

def build (i : SparseIndex) (metric : Metric) : IndexParams :=
  ⟨i.typeName, metric, Dict.ofList [("drop_ratio_build", .ofDouble i.dropRatio)]⟩

end SparseIndex

/-- An index on one field, named after it. -/
structure IndexRequest where
  collection : String
  fieldName : String
  index : IndexParams

/-- The body of a request for an index; a parameter called like the type replaces it. -/
def IndexRequest.toJson (r : IndexRequest) : Json :=
  let params := (Dict.ofList [("index_type", Json.str r.index.type)]).union r.index.params
  .ofFields [
    field "collectionName" (.str r.collection),
    field "indexParams" (.arr [.ofFields [
      field "fieldName" (.str r.fieldName), field "indexName" (.str r.fieldName),
      field "metricType" (.str r.index.metric.name), field "params" (.ofDict params)]])]

end ChatRetrieval.Milvus
