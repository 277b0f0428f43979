import ChatRetrieval.Http.Transport
import ChatRetrieval.Milvus.Index
import ChatRetrieval.Milvus.Request
import ChatRetrieval.Milvus.ResultSet
import ChatRetrieval.Milvus.Schema

/-!
What a vector store offers to indexers and retrievers.
-/

namespace ChatRetrieval.Milvus

inductive LoadState where
  | missing
  | notLoaded
  | loading
  | loaded
  deriving DecidableEq, Repr

structure IndexDescription where
  indexName : String
  fieldName : String
  indexType : Option String
  deriving DecidableEq

structure Service where
  hasCollection : String → Action Bool
  createCollection : CollectionRequest → Action Unit
  loadState : String → Action LoadState
  /-- Loads a collection and waits until it can be searched. -/
  load : String → Action Unit
  /-- The index of this name in a collection, if there is one. -/
  describeIndex : String → String → Action (Option IndexDescription)
  createIndex : IndexRequest → Action Unit
  /-- Writes rows and gives their ids. -/
  upsert : UpsertRequest → Action (List Json)
  search : SearchRequest → Action (List ResultSet)
  hybridSearch : HybridRequest → Action (List ResultSet)
  query : QueryRequest → Action ResultSet
  /-- The next batch of a walk, or none at its end, and the progress after it. A failure leaves the
  progress as it was. -/
  nextBatch : IteratorRequest → Progress → Action (Option ResultSet × Progress)

end ChatRetrieval.Milvus
