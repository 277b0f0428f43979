import ChatRetrieval.Document
import ChatRetrieval.Failure
import ChatRetrieval.Json.Printer

/-!
Results of a search: rows as they are answered, columns as they are kept, documents as they are handed
on.
-/

namespace ChatRetrieval.Milvus

/-- The values of one field over the rows of a result. -/
structure ResultColumn where
  name : String
  values : List Json
  deriving DecidableEq

structure ResultSet where
  size : Nat
  scores : List Single
  columns : List ResultColumn
  deriving DecidableEq

/-- The member of a row that holds its score. -/
def distanceKey : String := "distance"

namespace ResultSet

def empty : ResultSet := ⟨0, [], []⟩

instance : Inhabited ResultSet := ⟨empty⟩

/-- The names of a row's members. -/
def rowKeys : Json → List String
  | .obj ms => ms.map (·.1)
  | _ => []

/-- The names that occur in rows, in order of their first occurrence. -/
def columnNames (rows : List Json) : List String :=
  (rows.flatMap rowKeys).foldl (fun names k => if names.contains k then names else names ++ [k]) []

/-- The score of a row; zero when it has none. -/
def rowScore (row : Json) : Single :=
  match (row.get? distanceKey).bind Json.asDouble? with
  | some d => d.toSingle
  | none => Single.ofInt 0

/-- The column of a name over all rows; a row without the member has null there. -/
def column (rows : List Json) (name : String) : ResultColumn :=
  ⟨name, rows.map fun r => (r.get? name).getD .null⟩

/-- The result that rows make; in a scored one the distances are the scores and no column. -/
def ofRows (scored : Bool) (rows : List Json) : ResultSet where
  size := rows.length
  scores := if scored then rows.map rowScore else []
  columns := ((columnNames rows).filter fun k => !(scored && k == distanceKey)).map (column rows)

/-- The result in the data of a reply, which holds rows or nothing. -/
def ofJson (scored : Bool) : Json → Result ResultSet
  | .arr rows => .ok (ofRows scored rows)
  | .null => .ok (ofRows scored [])
  | other => Result.fail ("unexpected result payload: " ++ other.render)

end ResultSet

/-- A text as it is, any other value as JSON. -/
def textOf : Json → String
  | .str s => s
  | other => other.render

/-- The members of a metadata value: an object or a text that spells one, anything else being
ignored. -/
def metadataMembers : Json → List (String × Json)
  | .obj ms => ms
  | .str raw => match Json.parse raw with
    | some (.obj ms) => ms
    | _ => []
  | _ => []

namespace ResultSet

/-- Puts the value of a field into a document: id and content have their places, metadata is merged,
and all else becomes metadata under its own name. -/
def addValue (d : Document) (name : String) (value : Json) : Document :=
  if name = "id" then { d with id := textOf value }
  else if name = "content" then { d with content := textOf value }
  else if name = "metadata" then { d with metadata := d.metadata.insertMany (metadataMembers value) }
  else d.insertMetadata name value

/-- Puts the value of a column in a row into a document. -/
def addColumn (row : Nat) (d : Document) (c : ResultColumn) : Document :=
  match c.values[row]? with
  | some v => addValue d c.name v
  | none => d

/-- The document of a row. -/
def document (r : ResultSet) (row : Nat) : Document :=
  let base := { Document.blank "" "" with score := (r.scores[row]?).map Single.toDouble }
  r.columns.foldl (addColumn row) base

/-- One document a row. -/
def documents (r : ResultSet) : List Document := (List.range r.size).map r.document

end ResultSet

end ChatRetrieval.Milvus
