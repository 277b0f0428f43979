import ChatRetrieval.Json.Decode

/-!
Queries of the search cluster. The clauses that search modes build have types of their own; every
other member of a query is kept as it is. Where a list of queries goes, a lone query is read as a
list of one. How a single is written depends on whether a query becomes a text or a value.
-/

namespace ChatRetrieval.Elastic

open Json (field field? fieldDict fieldList)

/-- A full-text match with its options. -/
structure MatchQuery where
  query : String
  options : Dict String Json
  deriving DecidableEq

/-- A script computing a score from its parameters. -/
structure Script where
  source : String
  params : Dict String Json
  deriving DecidableEq

/-- A query over a sparse vector field, by text or by weighted tokens. -/
structure SparseClause where
  field : String
  inferenceId : Option String
  query : Option String
  queryVector : Option (Dict String Single)
  deriving DecidableEq

/-- A text expanded by a model of the cluster. -/
structure ModelText where
  modelId : String
  text : String
  deriving DecidableEq

/-- Queries joined by the boolean operators. -/
structure Junction (α : Type) where
  must : List α
  should : List α
  filter : List α
  mustNot : List α

/-- A query whose hits are scored by a script. -/
structure ScriptScore (α : Type) where
  query : α
  script : Script
  minScore : Option Single

structure Query where
  junction : Option (Junction Query)
  matching : Option (Dict String MatchQuery)
  /-- Every document, with a boost. -/
  matchAll : Option (Option Single)
  scriptScore : Option (ScriptScore Query)
  sparseVector : Option SparseClause
  textExpansion : Option (Dict String ModelText)
  term : Option (Dict String Json)
  range : Option (Dict String Json)
  /-- The members of all other kinds. -/
  extra : Dict String Json

namespace MatchQuery

def toJson (m : MatchQuery) : Json :=
  .ofMembers (("query", .str m.query) :: m.options.entries)

/-- Reads a match, of which a lone text is the short form. -/
def decode : Decoder MatchQuery
  | .str s => some ⟨s, Dict.empty⟩
  | j => do
    let (r, options) ← Decode.openRecord ["query"] j
    return ⟨← r.required "query" Decode.string, options⟩

end MatchQuery

namespace Script

def toJson (s : Script) : Json :=
  .ofFields [field "source" (.str s.source), fieldDict "params" s.params]

def decode : Decoder Script := fun j => do
  let r ← Decode.record ["source", "params"] j
  return ⟨← r.required "source" Decode.string, ← r.objectOf "params"⟩

end Script

namespace SparseClause

def encode (single : Single → Json) (c : SparseClause) : Json := .ofFields [
  Json.field "field" (.str c.field), field? "inference_id" .str c.inferenceId,
  field? "query" .str c.query,
  field? "query_vector" (fun v => .ofDict (v.map single)) c.queryVector]

def decode : Decoder SparseClause := fun j => do
  let r ← Decode.record ["field", "inference_id", "query", "query_vector"] j
  return {
    field := ← r.required "field" Decode.string
    inferenceId := ← r.maybe "inference_id" Decode.string
    query := ← r.maybe "query" Decode.string
    queryVector := ← r.maybe "query_vector" (Decode.dict Decode.single) }

end SparseClause

namespace ModelText

def toJson (m : ModelText) : Json :=
  .ofFields [field "model_id" (.str m.modelId), field "model_text" (.str m.text)]

def decode : Decoder ModelText := fun j => do
  let r ← Decode.record ["model_id", "model_text"] j
  return ⟨← r.required "model_id" Decode.string, ← r.required "model_text" Decode.string⟩

end ModelText

def encodeMatchAll (single : Single → Json) (boost : Option Single) : Json :=
  .ofFields [field? "boost" single boost]

def decodeMatchAll : Decoder (Option Single) := fun j => do
  let r ← Decode.record ["boost"] j
  r.maybe "boost" Decode.single

namespace Query

/-- A query that says nothing. -/
def blank : Query :=
  ⟨none, none, none, none, none, none, none, none, Dict.empty⟩

instance : Inhabited Query := ⟨blank⟩

def everything : Query := { blank with matchAll := some none }

/-- A full-text match on one field. -/
def textMatch (field text : String) : Query :=
  { blank with matching := some (Dict.ofList [(field, ⟨text, Dict.empty⟩)]) }

def joined (j : Junction Query) : Query := { blank with junction := some j }

/-- The members of a query that hold no other query. -/
def plainFields (single : Single → Json) (q : Query) : List (Option (String × Json)) := [
  field? "match" (fun m => .ofDict (m.map MatchQuery.toJson)) q.matching,
  field? "match_all" (encodeMatchAll single) q.matchAll,
  field? "sparse_vector" (SparseClause.encode single) q.sparseVector,
  field? "text_expansion" (fun t => .ofDict (t.map ModelText.toJson)) q.textExpansion,
  field? "term" .ofDict q.term, field? "range" .ofDict q.range]

mutual

def encode (single : Single → Json) (q : Query) : Json :=
  match q with
  | ⟨junction, matching, matchAll, scriptScore, sparse, expansion, term, range, extra⟩ =>
    .ofMembers ((junctionField single junction :: scriptField single scriptScore ::
      plainFields single ⟨none, matching, matchAll, none, sparse, expansion, term, range, extra⟩
      ).filterMap id ++ extra.entries)

def junctionField (single : Single → Json) : Option (Junction Query) → Option (String × Json)
  | none => none
  | some ⟨must, should, filter, mustNot⟩ => some ("bool", .ofFields [
      listField single "must" must, listField single "should" should,
      listField single "filter" filter, listField single "must_not" mustNot])

def scriptField (single : Single → Json) : Option (ScriptScore Query) → Option (String × Json)
  | none => none
  | some ⟨query, script, minScore⟩ => some ("script_score", .ofFields [
      field "query" (query.encode single), field "script" script.toJson,
      field? "min_score" single minScore])

def listField (single : Single → Json) (name : String) : List Query → Option (String × Json)
  | [] => none
  | q :: r => some (name, .arr (q.encode single :: encodeList single r))

def encodeList (single : Single → Json) : List Query → List Json
  | [] => []
  | q :: r => q.encode single :: encodeList single r

end

/-- A query as it reads back from its text. -/
def toJson (q : Query) : Json := q.encode .ofSingleText

/-- Reads boolean operators over queries. -/
def decodeJunction {α : Type} (d : Decoder α) : Decoder (Junction α) := fun j => do
  let r ← Decode.record ["must", "should", "filter", "must_not"] j
  return {
    must := ← r.withDefault "must" [] (Decode.oneOrMany d)
    should := ← r.withDefault "should" [] (Decode.oneOrMany d)
    filter := ← r.withDefault "filter" [] (Decode.oneOrMany d)
    mustNot := ← r.withDefault "must_not" [] (Decode.oneOrMany d) }

def decodeScriptScore {α : Type} (d : Decoder α) : Decoder (ScriptScore α) := fun j => do
  let r ← Decode.record ["query", "script", "min_score"] j
  return ⟨← r.required "query" d, ← r.required "script" Script.decode,
    ← r.maybe "min_score" Decode.single⟩

/-- Reads a query nested at most so deep. -/
def decodeWithin : Nat → Decoder Query
  | 0, _ => none
  | depth + 1, j => do
    let (r, extra) ← Decode.openRecord ["bool", "match", "match_all", "script_score",
      "sparse_vector", "text_expansion", "term", "range"] j
    return {
      junction := ← r.maybe "bool" (decodeJunction (decodeWithin depth))
      matching := ← r.maybe "match" (Decode.dict MatchQuery.decode)
      matchAll := ← r.maybe "match_all" decodeMatchAll
      scriptScore := ← r.maybe "script_score" (decodeScriptScore (decodeWithin depth))
      sparseVector := ← r.maybe "sparse_vector" SparseClause.decode
      textExpansion := ← r.maybe "text_expansion" (Decode.dict ModelText.decode)
      term := ← r.maybe "term" Decode.object
      range := ← r.maybe "range" Decode.object
      extra }

def decode : Decoder Query := fun j => decodeWithin j.depth j

end Query

end ChatRetrieval.Elastic
