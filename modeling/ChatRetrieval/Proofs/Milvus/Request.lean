import ChatRetrieval.Milvus.Request
import ChatRetrieval.Proofs.Json.Fields

/-!
Bodies of requests for reading. Each kind of request has an encoder of its own; what they have in common
is said once here, as what a body carries about the collection and about the hits of a search.
-/

namespace ChatRetrieval.Milvus

open Json (HasName field field? map_snd_field map_snd_field? reads_of_fields)

/-- What a body says about where to look and what to give back. -/
structure Carries (collection : String) (outputFields partitions : List String)
    (consistency : Option Consistency) (body : Json) : Prop where
  collection : body.get? "collectionName" = some (.str collection)
  outputFields : body.get? "outputFields" = some (.ofStrings outputFields)
  partitions : body.get? "partitionNames" =
    if partitions = [] then none else some (.ofStrings partitions)
  consistency : body.get? "consistencyLevel" = consistency.map fun level => .str level.name

/-- What a search says about the hits that may be found and how they are put together. -/
structure Restricts (filter : Option String) (grouping : Option Grouping) (search : Json) : Prop where
  filter : search.get? "filter" = filter.map .str
  groupBy : search.get? "groupingField" = grouping.map fun g => .str g.groupBy
  size : search.get? "groupSize" = grouping.map fun g => .ofNat g.size
  strict : search.get? "strictGroupSize" =
    (grouping.filter (·.isStrict)).map fun _ => .bool true

section fields

@[simp] theorem hasName_partitionField (partitions : List String) :
    HasName "partitionNames" (partitionField partitions) := by
  unfold partitionField
  split
  · nofun
  · exact Json.hasName_field _ _

@[simp] theorem map_snd_partitionField (partitions : List String) :
    (partitionField partitions).map (·.2) =
      if partitions = [] then none else some (.ofStrings partitions) := by
  cases partitions <;> rfl

@[simp] theorem hasName_consistencyField (level : Option Consistency) :
    HasName "consistencyLevel" (consistencyField level) := by
  unfold consistencyField
  exact Json.hasName_field? _ _ _

@[simp] theorem map_snd_consistencyField (level : Option Consistency) :
    (consistencyField level).map (·.2) = level.map fun level => .str level.name :=
  map_snd_field? ..

def groupingMembers (g : Option Grouping) : List (Option (String × Json)) :=
  [field? "groupingField" (fun g => .str g.groupBy) g, field? "groupSize" (fun g => .ofNat g.size) g,
    field? "strictGroupSize" (fun _ => .bool true) (g.filter (·.isStrict))]

theorem ofFields_groupingFields (fields : List (Option (String × Json))) (g : Option Grouping) :
    Json.ofFields (fields ++ groupingFields g) = Json.ofFields (fields ++ groupingMembers g) := by
  have hsame : (groupingFields g).filterMap id = (groupingMembers g).filterMap id := by
    cases g with
    | none => rfl
    | some g =>
      cases hstrict : g.isStrict <;>
        simp [groupingFields, groupingMembers, hstrict, field, field?]
  rw [Json.ofFields, Json.ofFields, List.filterMap_append, List.filterMap_append, hsame]

end fields

theorem SearchRequest.reads_toJson (r : SearchRequest) :
    Carries r.collection r.outputFields r.partitions r.consistency r.toJson ∧
      Restricts r.filter r.grouping r.toJson ∧
      r.toJson.get? "searchParams" = some (paramsToJson r.params) := by
  have hreads := @reads_of_fields ["collectionName", "data", "annsField", "limit", "outputFields",
    "searchParams", "partitionNames", "filter", "consistencyLevel", "groupingField", "groupSize",
    "strictGroupSize"] _ r.toJson (ofFields_groupingFields _ _) (by simp [groupingMembers]) (by decide)
  simp only [groupingMembers, List.cons_append, List.nil_append, List.forall₂_cons, map_snd_field,
    map_snd_field?, map_snd_partitionField, map_snd_consistencyField] at hreads
  obtain ⟨hcollection, -, -, -, houtput, hparams, hpartitions, hfilter, hconsistency, hgroupBy, hsize,
    hstrict, -⟩ := hreads
  exact ⟨⟨hcollection, houtput, hpartitions, hconsistency⟩, ⟨hfilter, hgroupBy, hsize, hstrict⟩, hparams⟩

theorem Leg.reads_toJson (l : Leg) : Restricts l.filter l.grouping l.toJson ∧
    l.toJson.get? "searchParams" = some (paramsToJson l.params) := by
  have hreads := @reads_of_fields ["data", "annsField", "limit", "searchParams", "filter",
    "groupingField", "groupSize", "strictGroupSize"] _ l.toJson (ofFields_groupingFields _ _)
    (by simp [groupingMembers]) (by decide)
  simp only [groupingMembers, List.cons_append, List.nil_append, List.forall₂_cons, map_snd_field,
    map_snd_field?] at hreads
  obtain ⟨-, -, -, hparams, hfilter, hgroupBy, hsize, hstrict, -⟩ := hreads
  exact ⟨⟨hfilter, hgroupBy, hsize, hstrict⟩, hparams⟩

theorem HybridRequest.reads_toJson (r : HybridRequest) :
    Carries r.collection r.outputFields r.partitions r.consistency r.toJson ∧
      r.toJson.get? "search" = some (.arr (r.legs.map Leg.toJson)) := by
  have hreads := @reads_of_fields ["collectionName", "search", "rerank", "limit", "outputFields",
    "partitionNames", "consistencyLevel"] _ r.toJson rfl (by simp) (by decide)
  simp only [List.forall₂_cons, map_snd_field, map_snd_partitionField,
    map_snd_consistencyField] at hreads
  obtain ⟨hcollection, hsearch, -, -, houtput, hpartitions, hconsistency, -⟩ := hreads
  exact ⟨⟨hcollection, houtput, hpartitions, hconsistency⟩, hsearch⟩

theorem QueryRequest.reads_toJson (r : QueryRequest) :
    Carries r.collection r.outputFields r.partitions r.consistency r.toJson ∧
      r.toJson.get? "filter" = some (.str r.filter) := by
  have hreads := @reads_of_fields ["collectionName", "filter", "outputFields", "limit",
    "partitionNames", "consistencyLevel"] _ r.toJson rfl (by simp) (by decide)
  simp only [List.forall₂_cons, map_snd_field, map_snd_partitionField,
    map_snd_consistencyField] at hreads
  obtain ⟨hcollection, hfilter, houtput, -, hpartitions, hconsistency, -⟩ := hreads
  exact ⟨⟨hcollection, houtput, hpartitions, hconsistency⟩, hfilter⟩

theorem QueryRequest.get?_searchParams (r : QueryRequest) : r.toJson.get? "searchParams" = none :=
  @Json.get?_ofFields_of_notMem ["collectionName", "filter", "outputFields", "limit",
    "partitionNames", "consistencyLevel"] _ (by simp) _ (by decide)

namespace IteratorRequest

theorem reads_page (r : IteratorRequest) (p : Progress) :
    Carries r.collection r.outputFields r.partitions r.consistency (r.page p) ∧
      Restricts r.filter r.grouping (r.page p) ∧
      (r.page p).get? "searchParams" = some (paramsToJson r.params) ∧
      (r.page p).get? "limit" = some (.ofNat (r.nextSize p)) ∧
      (r.page p).get? "offset" = some (.ofNat p.hits) := by
  have hreads := @reads_of_fields ["collectionName", "data", "annsField", "limit", "offset",
    "outputFields", "searchParams", "partitionNames", "filter", "consistencyLevel", "groupingField",
    "groupSize", "strictGroupSize"] _ (r.page p) (ofFields_groupingFields _ _)
    (by simp [groupingMembers]) (by decide)
  simp only [groupingMembers, List.cons_append, List.nil_append, List.forall₂_cons, map_snd_field,
    map_snd_field?, map_snd_partitionField, map_snd_consistencyField] at hreads
  obtain ⟨hcollection, -, -, hlimit, hoffset, houtput, hparams, hpartitions, hfilter, hconsistency,
    hgroupBy, hsize, hstrict, -⟩ := hreads
  exact ⟨⟨hcollection, houtput, hpartitions, hconsistency⟩, ⟨hfilter, hgroupBy, hsize, hstrict⟩,
    hparams, hlimit, hoffset⟩

end IteratorRequest

end ChatRetrieval.Milvus
