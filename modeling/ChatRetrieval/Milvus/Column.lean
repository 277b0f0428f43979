import ChatRetrieval.Failure

/-!
Data by column, as it is prepared for writing, and by row, as it is sent.
-/

namespace ChatRetrieval.Milvus

open Json (field field?)

/-- A sparse vector: the dimensions that are not zero, in increasing order, and their weights. -/
structure SparseVector where
  indices : List Nat
  weights : List Single
  deriving DecidableEq

namespace SparseVector

def empty : SparseVector := ⟨[], []⟩

instance : Inhabited SparseVector := ⟨empty⟩

def toJson (v : SparseVector) : Json :=
  .ofMembers ((v.indices.zip v.weights).map fun (i, w) => (Text.decimal i, .ofSingle w))

end SparseVector

inductive ColumnData where
  | text (values : List String)
  | json (values : List Json)
  | floats (dimension : Nat) (rows : List (List Single))
  | sparse (rows : List SparseVector)
  deriving DecidableEq

structure Column where
  name : String
  data : ColumnData
  deriving DecidableEq

/-- A vector of singles as it is sent. -/
def vectorToJson (v : List Single) : Json := .arr (v.map .ofSingle)

namespace Column

/-- The values of a column, row by row. -/
def values (c : Column) : List Json :=
  match c.data with
  | .text vs => vs.map .str
  | .json vs => vs
  | .floats _ rows => rows.map vectorToJson
  | .sparse rows => rows.map SparseVector.toJson

def size (c : Column) : Nat := c.values.length

/-- The row at an index; a later column replaces an earlier one of its name. -/
def row (columns : List Column) (i : Nat) : Json :=
  .ofMembers (columns.map fun c => (c.name, (c.values[i]?).getD .null))

/-- The rows of columns, which must be of one length. -/
def rows : List Column → Result (List Json)
  | [] => .ok []
  | first :: rest =>
    match rest.find? fun c => c.size ≠ first.size with
    | some c => Result.fail ("column " ++ c.name ++ " has " ++ Text.decimal c.size ++
        " rows, expected " ++ Text.decimal first.size)
    | none => .ok ((List.range first.size).map (row (first :: rest)))

end Column

structure UpsertRequest where
  collection : String
  partition : Option String
  columns : List Column

def UpsertRequest.toJson (r : UpsertRequest) : Result Json := do
  let rows ← Column.rows r.columns
  return .ofFields [field "collectionName" (.str r.collection), field "data" (.arr rows),
    field? "partitionName" .str r.partition]

end ChatRetrieval.Milvus
