import ChatRetrieval.Json.Decode

/-!
The vocabulary of the vector store: metrics, consistency levels and the kinds of fields, with the
names that stand for missing ones.
-/

namespace ChatRetrieval.Milvus

/-- How the distance of two vectors is measured. -/
inductive Metric where
  | l2
  | ip
  | cosine
  | hamming
  | jaccard
  | tanimoto
  | substructure
  | superstructure
  | bm25
  deriving DecidableEq, Repr

namespace Metric

def name : Metric → String
  | l2 => "L2"
  | ip => "IP"
  | cosine => "COSINE"
  | hamming => "HAMMING"
  | jaccard => "JACCARD"
  | tanimoto => "TANIMOTO"
  | substructure => "SUBSTRUCTURE"
  | superstructure => "SUPERSTRUCTURE"
  | bm25 => "BM25"

def byName : List (String × Metric) :=
  [l2, ip, cosine, hamming, jaccard, tanimoto, substructure, superstructure, bm25].map fun m =>
    (m.name, m)

/-- The metric of this name. -/
def named? (name : String) : Option Metric := byName.lookup name

def decode : Decoder Metric := Decode.oneOf byName

end Metric

/-- How up to date the data of a read must be. -/
inductive Consistency where
  /-- As the collection has it. -/
  | unspecified
  | strong
  | session
  | bounded
  | eventually
  deriving DecidableEq, Repr

namespace Consistency

def name : Consistency → String
  | unspecified => "Default"
  | strong => "Strong"
  | session => "Session"
  | bounded => "Bounded"
  | eventually => "Eventually"

def decode : Decoder Consistency :=
  Decode.oneOf ([unspecified, strong, session, bounded, eventually].map fun c => (c.name, c))

/-- The level to ask for, if any. -/
def requested (c : Consistency) : Option Consistency := if c = unspecified then none else some c

end Consistency

inductive FieldType where
  | int64
  | varChar
  | json
  | floatVector
  | binaryVector
  | sparseFloatVector
  deriving DecidableEq, Repr

namespace FieldType

def name : FieldType → String
  | int64 => "Int64"
  | varChar => "VarChar"
  | json => "JSON"
  | floatVector => "FloatVector"
  | binaryVector => "BinaryVector"
  | sparseFloatVector => "SparseFloatVector"

def decode : Decoder FieldType :=
  Decode.oneOf ([int64, varChar, json, floatVector, binaryVector, sparseFloatVector].map fun t =>
    (t.name, t))

end FieldType

/-- Where sparse vectors come from. -/
inductive SparseSource where
  /-- The store derives them from the text. -/
  | derived
  /-- Documents bring their own. -/
  | precomputed
  deriving DecidableEq, Repr

namespace SparseSource

def name : SparseSource → String
  | derived => "Auto"
  | precomputed => "Precomputed"

def decode : Decoder SparseSource := Decode.oneOf ([derived, precomputed].map fun s => (s.name, s))

end SparseSource

def defaultCollection : String := "eino_collection"
def defaultDescription : String := "the collection for eino"
def idField : String := "id"
def contentField : String := "content"
def metadataField : String := "metadata"
def defaultVectorField : String := "vector"
def defaultSparseField : String := "sparse_vector"
def defaultTopK : Nat := 5
def maxIdLength : Nat := 255
def maxContentLength : Nat := 65535

/-- A text, or another one in place of an empty one. -/
def orElse (text fallback : String) : String := if text.isEmpty then fallback else text

end ChatRetrieval.Milvus
