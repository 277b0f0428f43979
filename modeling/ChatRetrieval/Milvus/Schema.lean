import ChatRetrieval.Milvus.Basic
import ChatRetrieval.Milvus.Param

/-!
Schemas of collections: typed fields with parameters, and functions the store runs to fill fields
from others.
-/

namespace ChatRetrieval.Milvus

open Json (field field? fieldList)

structure Field where
  name : String
  type : FieldType
  isPrimary : Bool
  params : Dict String String
  deriving DecidableEq

namespace Field

def ofType (name : String) (type : FieldType) : Field := ⟨name, type, false, Dict.empty⟩

def primary (f : Field) : Field := { f with isPrimary := true }

def param (f : Field) (key value : String) : Field := { f with params := f.params.insert key value }

def maxLength (f : Field) (n : Nat) : Field := f.param "max_length" (Text.decimal n)

def dimension (f : Field) (n : Int) : Field := f.param "dim" (Text.signedDecimal n)

def toJson (f : Field) : Json := .ofFields [
  field "fieldName" (.str f.name), field "dataType" (.str f.type.name),
  field "isPrimary" (.bool f.isPrimary),
  Json.fieldDict "elementTypeParams" (f.params.map Param.toJson)]

end Field

/-- A function of the store; all of them rank texts by BM25. -/
structure Function where
  name : String
  inputs : List String
  outputs : List String
  params : Dict String Json
  deriving DecidableEq

namespace Function

/-- The function that derives the sparse vectors in `output` from the texts in `input`. -/
def bm25 (name input output : String) : Function := ⟨name, [input], [output], Dict.empty⟩

def toJson (f : Function) : Json := .ofFields [
  field "name" (.str f.name), field "type" (.str "BM25"),
  field "inputFieldNames" (.ofStrings f.inputs), field "outputFieldNames" (.ofStrings f.outputs),
  field "params" (.ofDict f.params)]

end Function

structure Schema where
  description : String
  fields : List Field
  functions : List Function
  /-- Whether rows may have fields that are not declared. -/
  isDynamic : Bool
  deriving DecidableEq

namespace Schema

/-- The first field of this name. -/
def field? (s : Schema) (name : String) : Option Field := s.fields.find? fun f => f.name = name

def toJson (s : Schema) : Json := .ofFields [
  field "autoId" (.bool false), field "enableDynamicField" (.bool s.isDynamic),
  field "fields" (.arr (s.fields.map Field.toJson)),
  fieldList "functions" Function.toJson s.functions]

end Schema

structure CollectionRequest where
  collection : String
  schema : Schema
  consistency : Option Consistency
  deriving DecidableEq

def CollectionRequest.toJson (r : CollectionRequest) : Json := .ofFields [
  field "collectionName" (.str r.collection), field "description" (.str r.schema.description),
  field "schema" r.schema.toJson,
  field? "params" (fun c => .ofFields [field "consistencyLevel" (.str (Consistency.name c))])
    r.consistency]

end ChatRetrieval.Milvus
