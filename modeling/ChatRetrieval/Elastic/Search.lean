import ChatRetrieval.Elastic.Query

/-!
Search requests and the hits they are answered with.
-/

namespace ChatRetrieval.Elastic

open Json (field field? fieldList)

/-- Nearest neighbours of a vector that is given or made from a text by a model of the cluster. -/
structure NearestSearch where
  field : String
  queryVector : Option (List Single)
  builder : Option ModelText
  k : Option Nat
  candidates : Option Nat
  filter : List Query
  similarity : Option Single

/-- Reciprocal rank fusion of several rankings. -/
structure RankFusion where
  rankConstant : Option Int
  windowSize : Option Int
  deriving DecidableEq

structure SearchRequest where
  query : Option Query
  nearest : List NearestSearch
  /-- How rankings are fused, if fusion is asked for. -/
  rank : Option (Option RankFusion)
  size : Option Nat
  minScore : Option Double
  /-- Members of all other names. -/
  extra : Dict String Json

namespace NearestSearch

def builderToJson (m : ModelText) : Json := .ofFields [Json.field "text_embedding" m.toJson]

def encode (single : Single → Json) (n : NearestSearch) : Json := .ofFields [
  Json.field "field" (.str n.field),
  field? "query_vector" (fun v => .arr (v.map single)) n.queryVector,
  field? "query_vector_builder" builderToJson n.builder, field? "k" .ofNat n.k,
  field? "num_candidates" .ofNat n.candidates, fieldList "filter" (Query.encode single) n.filter,
  field? "similarity" single n.similarity]

def decodeBuilder : Decoder ModelText := fun j => do
  let r ← Decode.record ["text_embedding"] j
  r.required "text_embedding" ModelText.decode

def decode : Decoder NearestSearch := fun j => do
  let r ← Decode.record ["field", "query_vector", "query_vector_builder", "k", "num_candidates",
    "filter", "similarity"] j
  return {
    field := ← r.required "field" Decode.string
    queryVector := ← r.maybe "query_vector" (Decode.list Decode.single)
    builder := ← r.maybe "query_vector_builder" decodeBuilder
    k := ← r.maybe "k" (Decode.natural 64)
    candidates := ← r.maybe "num_candidates" (Decode.natural 64)
    filter := ← r.withDefault "filter" [] (Decode.oneOrMany Query.decode)
    similarity := ← r.maybe "similarity" Decode.single }

end NearestSearch

namespace RankFusion

def toJson (f : RankFusion) : Json := .ofFields [
  field? "rank_constant" .int f.rankConstant, field? "rank_window_size" .int f.windowSize]

def decode : Decoder RankFusion := fun j => do
  let r ← Decode.record ["rank_constant", "rank_window_size"] j
  return ⟨← r.maybe "rank_constant" Decode.int64, ← r.maybe "rank_window_size" Decode.int64⟩

end RankFusion

namespace SearchRequest

/-- A request that asks for nothing in particular. -/
def blank : SearchRequest := ⟨none, [], none, none, none, Dict.empty⟩

instance : Inhabited SearchRequest := ⟨blank⟩

def ofQuery (q : Query) : SearchRequest := { blank with query := some q }

def rankToJson (rank : Option RankFusion) : Json :=
  .ofFields [field? "rrf" RankFusion.toJson rank]

/-- The members of the names that are known. -/
def fields (single : Single → Json) (s : SearchRequest) : List (Option (String × Json)) := [
  field? "query" (Query.encode single) s.query,
  fieldList "knn" (NearestSearch.encode single) s.nearest, field? "rank" rankToJson s.rank,
  field? "size" .ofNat s.size, field? "min_score" .ofDouble s.minScore]

def encode (single : Single → Json) (s : SearchRequest) : Json :=
  .ofMembers ((s.fields single).filterMap id ++ s.extra.entries)

/-- A request as it reads back from its text. -/
def toJson (s : SearchRequest) : Json := s.encode .ofSingleText

def decodeRank : Decoder (Option RankFusion) := fun j => do
  let r ← Decode.record ["rrf"] j
  r.maybe "rrf" RankFusion.decode

def decode : Decoder SearchRequest := fun j => do
  let (r, extra) ← Decode.openRecord ["query", "knn", "rank", "size", "min_score"] j
  return {
    query := ← r.maybe "query" Query.decode
    nearest := ← r.withDefault "knn" [] (Decode.oneOrMany NearestSearch.decode)
    rank := ← r.maybe "rank" decodeRank
    size := ← r.maybe "size" (Decode.natural 64)
    minScore := ← r.maybe "min_score" Decode.double
    extra }

end SearchRequest

/-- A document that matched. -/
structure Hit where
  index : String
  id : Option String
  score : Option Double
  source : Option Json
  deriving DecidableEq

structure SearchResponse where
  /-- Milliseconds the search took. -/
  took : Option Nat
  maxScore : Option Double
  hits : List Hit
  deriving DecidableEq

def Hit.decode : Decoder Hit := fun j => do
  let r ← Decode.record ["_index", "_id", "_score", "_source"] j
  return {
    index := ← r.text "_index"
    id := ← r.maybe "_id" Decode.string
    score := ← r.maybe "_score" Decode.double
    source := ← r.maybe "_source" Decode.any }

namespace SearchResponse

def decodeHits : Decoder (Option Double × List Hit) := fun j => do
  let r ← Decode.record ["max_score", "hits"] j
  return (← r.maybe "max_score" Decode.double, ← r.listOf "hits" Hit.decode)

def decode : Decoder SearchResponse := fun j => do
  let r ← Decode.record ["took", "hits"] j
  let took ← r.maybe "took" (Decode.natural 64)
  let (maxScore, hits) ← r.withDefault "hits" (none, []) decodeHits
  return ⟨took, maxScore, hits⟩

end SearchResponse

end ChatRetrieval.Elastic
