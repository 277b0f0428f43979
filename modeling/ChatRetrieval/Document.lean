import ChatRetrieval.Json.Decode
import ChatRetrieval.Text.Basic

/-!
Documents as they move between stores, indexers and retrievers.
-/

namespace ChatRetrieval

open Json (field field? fieldDict)

structure Document where
  id : String
  content : String
  metadata : Dict String Json
  /-- Similarity given by the store that returned the document. -/
  score : Option Double
  denseVector : Option (List Double)
  /-- Dimension index to weight. -/
  sparseVector : Option (Dict Int Double)
  deriving DecidableEq

namespace Document

def blank (id content : String) : Document := ⟨id, content, Dict.empty, none, none, none⟩

instance : Inhabited Document := ⟨blank "" ""⟩

def insertMetadata (d : Document) (key : String) (value : Json) : Document :=
  { d with metadata := d.metadata.insert key value }

def sparseToJson (v : Dict Int Double) : Json :=
  .ofMembers (v.entries.map fun (i, w) =>
    (Text.signedDecimal i, .ofDouble w))

def toJson (d : Document) : Json := .ofFields [
  field "id" (.str d.id), field "content" (.str d.content), fieldDict "metadata" d.metadata,
  field? "score" .ofDouble d.score, field? "dense_vector" (fun v => .arr (v.map .ofDouble)) d.denseVector,
  field? "sparse_vector" sparseToJson d.sparseVector]

def decode : Decoder Document := fun j => do
  let r ← Decode.record ["id", "content", "metadata", "score", "dense_vector", "sparse_vector"] j
  return {
    id := ← r.required "id" Decode.string
    content := ← r.required "content" Decode.string
    metadata := ← r.objectOf "metadata"
    score := ← r.maybe "score" Decode.double
    denseVector := ← r.maybe "dense_vector" (Decode.list Decode.double)
    sparseVector := ← r.maybe "sparse_vector" (Decode.intDict Decode.double) }

end Document

end ChatRetrieval
