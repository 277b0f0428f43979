import ChatRetrieval.Elastic.Search
import ChatRetrieval.Proofs.Json.Fields
import ChatRetrieval.Proofs.Json.RoundTrip
import ChatRetrieval.Proofs.Number.Exact

/-!
Search requests read back from what they are written as. Nothing about a query is lost that its fields
hold; the singles in it must come back from how they are written, and members of other names must not
take the name of a field.
-/

namespace ChatRetrieval.Elastic

open Json (field field? fieldDict fieldList HasName)

/-- Values without a fixed shape as they are kept. -/
def AllCanonical (d : Dict String Json) : Prop := ∀ e ∈ d.entries, e.2.canonical = e.2

instance (d : Dict String Json) : Decidable (AllCanonical d) :=
  inferInstanceAs (Decidable (∀ e ∈ d.entries, e.2.canonical = e.2))

def Avoids (names : List String) (d : Dict String Json) : Prop := ∀ e ∈ d.entries, e.1 ∉ names

instance (names : List String) (d : Dict String Json) : Decidable (Avoids names d) :=
  inferInstanceAs (Decidable (∀ e ∈ d.entries, e.1 ∉ names))

theorem Avoids.free {names : List String} {d : Dict String Json} (h : Avoids names d)
    (hd : AllCanonical d) : ∀ e ∈ d.entries, e.1 ∉ names ∧ e.2.canonical = e.2 :=
  fun e he => ⟨h e he, hd e he⟩

def Query.names : List String := ["bool", "match", "match_all", "script_score", "sparse_vector",
  "text_expansion", "term", "range"]

def SearchRequest.names : List String := ["query", "knn", "rank", "size", "min_score"]

/-- What is asked of the parts of a query that hold no other query. -/
structure Query.PlainValid (ok : Single → Prop) (q : Query) : Prop where
  matching : ∀ m ∈ q.matching, ∀ e ∈ m.entries,
    Avoids ["query"] e.2.options ∧ AllCanonical e.2.options
  boost : ∀ b ∈ q.matchAll, ∀ s ∈ b, ok s
  params : ∀ s ∈ q.scriptScore, AllCanonical s.script.params
  minScore : ∀ s ∈ q.scriptScore, ∀ x ∈ s.minScore, ok x
  weights : ∀ c ∈ q.sparseVector, ∀ v ∈ c.queryVector, ∀ e ∈ v.entries, ok e.2
  term : ∀ t ∈ q.term, AllCanonical t
  range : ∀ t ∈ q.range, AllCanonical t
  avoids : Avoids Query.names q.extra
  canonical : AllCanonical q.extra

def Junction.clauses {α : Type} (j : Junction α) : List α := j.must ++ j.should ++ j.filter ++ j.mustNot

/-- A query of any depth all of whose parts are in order. -/
inductive Query.Valid (ok : Single → Prop) : Query → Prop
  | mk {q : Query} (plain : q.PlainValid ok)
      (clauses : ∀ j ∈ q.junction, ∀ c ∈ j.clauses, Query.Valid ok c)
      (scored : ∀ s ∈ q.scriptScore, Query.Valid ok s.query) : Query.Valid ok q

structure NearestSearch.Valid (ok : Single → Prop) (n : NearestSearch) : Prop where
  vector : ∀ v ∈ n.queryVector, ∀ s ∈ v, ok s
  k : ∀ k ∈ n.k, k < 2 ^ 64
  candidates : ∀ k ∈ n.candidates, k < 2 ^ 64
  filter : ∀ q ∈ n.filter, q.Valid ok
  similarity : ∀ s ∈ n.similarity, ok s

structure SearchRequest.Valid (ok : Single → Prop) (r : SearchRequest) : Prop where
  query : ∀ q ∈ r.query, q.Valid ok
  nearest : ∀ n ∈ r.nearest, n.Valid ok
  rankConstant : ∀ f ∈ r.rank.join, ∀ c ∈ f.rankConstant, Decode.InInt64 c
  windowSize : ∀ f ∈ r.rank.join, ∀ c ∈ f.windowSize, Decode.InInt64 c
  size : ∀ n ∈ r.size, n < 2 ^ 64
  minScore : ∀ d ∈ r.minScore, d.isFinite = true
  avoids : Avoids SearchRequest.names r.extra
  canonical : AllCanonical r.extra

namespace Query

variable (single : Single → Json)

def encodeJunction (j : Junction Query) : Json := .ofFields [
  fieldList "must" (encode single) j.must, fieldList "should" (encode single) j.should,
  fieldList "filter" (encode single) j.filter, fieldList "must_not" (encode single) j.mustNot]

def encodeScriptScore (s : ScriptScore Query) : Json := .ofFields [
  field "query" (s.query.encode single), field "script" s.script.toJson,
  field? "min_score" single s.minScore]

def fields (q : Query) : List (Option (String × Json)) :=
  field? "bool" (encodeJunction single) q.junction ::
    field? "script_score" (encodeScriptScore single) q.scriptScore :: plainFields single q

theorem encodeList_eq_map (l : List Query) : encodeList single l = l.map (encode single) := by
  induction l with
  | nil => rfl
  | cons q r ih => rw [encodeList, ih, List.map_cons]

theorem listField_eq (name : String) (l : List Query) :
    listField single name l = fieldList name (encode single) l := by
  cases l with
  | nil => rfl
  | cons q r =>
    rw [listField, encodeList_eq_map]
    rfl

theorem encode_eq (q : Query) :
    q.encode single = .ofMembers ((q.fields single).filterMap id ++ q.extra.entries) := by
  obtain ⟨junction, matching, matchAll, scriptScore, sparse, expansion, term, range, extra⟩ := q
  have hjunction : junctionField single junction = field? "bool" (encodeJunction single) junction := by
    cases junction with
    | none => rfl
    | some j =>
      rw [junctionField]
      simp only [listField_eq]
      rfl
  have hscript : scriptField single scriptScore =
      field? "script_score" (encodeScriptScore single) scriptScore := by
    cases scriptScore <;> rfl
  rw [encode, hjunction, hscript]
  rfl

end Query

section

open Decode (Record)

theorem MatchQuery.decode_toJson {m : MatchQuery} (h : Avoids ["query"] m.options)
    (hcanonical : AllCanonical m.options) : decode m.toJson = some m := by
  have hnames : List.Forall₂ HasName ["query"] [field "query" (.str m.query)] := by simp
  obtain ⟨r, hr, hfind⟩ := Decode.exists_openRecord hnames (by decide) (List.Subset.refl _)
    (h.free hcanonical)
  obtain ⟨hquery, -⟩ := List.forall₂_cons.1 hfind
  have hobj : m.toJson = .ofMembers ([field "query" (.str m.query)].filterMap id ++ m.options.entries) :=
    rfl
  rw [← hobj] at hr
  have hdecode : decode m.toJson = (do
      let found ← Decode.openRecord ["query"] m.toJson
      return ⟨← found.1.required "query" Decode.string, found.2⟩) := rfl
  rw [hdecode, hr]
  simp only [Option.bind_eq_bind, Option.bind_some, Record.required_field hquery]
  rfl

theorem Script.decode_toJson {s : Script} (h : AllCanonical s.params) : decode s.toJson = some s := by
  have hnames : List.Forall₂ HasName ["source", "params"]
      [field "source" (.str s.source), fieldDict "params" s.params] := by simp
  obtain ⟨r, hr, hfind⟩ := Decode.exists_record_ofFields hnames (by decide) (List.Subset.refl _)
  simp only [List.forall₂_cons] at hfind
  obtain ⟨hsource, hparams, -⟩ := hfind
  rw [decode, toJson, hr]
  simp only [Option.bind_eq_bind, Option.bind_some, Record.required_field hsource,
    Record.objectOf_fieldDict hparams h]
  rfl

theorem ModelText.decode_toJson (m : ModelText) : decode m.toJson = some m := by
  have hnames : List.Forall₂ HasName ["model_id", "model_text"]
      [field "model_id" (.str m.modelId), field "model_text" (.str m.text)] := by simp
  obtain ⟨r, hr, hfind⟩ := Decode.exists_record_ofFields hnames (by decide) (List.Subset.refl _)
  simp only [List.forall₂_cons] at hfind
  obtain ⟨hid, htext, -⟩ := hfind
  rw [decode, toJson, hr]
  simp only [Option.bind_eq_bind, Option.bind_some, Record.required_field hid,
    Record.required_field htext]
  rfl

namespace Query

theorem exists_record_encodeJunction (single : Single → Json) (j : Junction Query) :
    ∃ r, Decode.record ["must", "should", "filter", "must_not"] (encodeJunction single j) = some r ∧
      List.Forall₂ (fun k f => r.find? k = f.map (·.2)) ["must", "should", "filter", "must_not"]
        [fieldList "must" (encode single) j.must, fieldList "should" (encode single) j.should,
          fieldList "filter" (encode single) j.filter,
          fieldList "must_not" (encode single) j.mustNot] :=
  Decode.exists_record_ofFields (by simp) (by decide) (List.Subset.refl _)

theorem decodeJunction_encode {single : Single → Json} {d : Decoder Query} {j : Junction Query}
    (hlegible : ∀ c ∈ j.clauses, (c.encode single).isLegible = true)
    (h : ∀ c ∈ j.clauses, d (c.encode single) = some c) :
    decodeJunction d (encodeJunction single j) = some j := by
  obtain ⟨r, hr, hfind⟩ := exists_record_encodeJunction single j
  simp only [List.forall₂_cons] at hfind
  obtain ⟨hmust, hshould, hfilter, hmustNot, -⟩ := hfind
  simp only [Junction.clauses, List.forall_mem_append] at h hlegible
  have hmust' := Record.oneOrMany_fieldList hmust h.1.1.1 hlegible.1.1.1
  have hshould' := Record.oneOrMany_fieldList hshould h.1.1.2 hlegible.1.1.2
  have hfilter' := Record.oneOrMany_fieldList hfilter h.1.2 hlegible.1.2
  have hmustNot' := Record.oneOrMany_fieldList hmustNot h.2 hlegible.2
  rw [decodeJunction, hr]
  simp only [Option.bind_eq_bind, Option.bind_some, hmust', hshould', hfilter', hmustNot']
  rfl

theorem depth_lt_encodeJunction {single : Single → Json} {j : Junction Query} {c : Query}
    (hc : c ∈ j.clauses) : (c.encode single).depth < (encodeJunction single j).depth := by
  obtain ⟨r, hr, hfind⟩ := exists_record_encodeJunction single j
  simp only [List.forall₂_cons] at hfind
  obtain ⟨hmust, hshould, hfilter, hmustNot, -⟩ := hfind
  simp only [Junction.clauses, List.mem_append] at hc
  rcases hc with ((hc | hc) | hc) | hc
  · exact Record.depth_lt_of_fieldList hr hmust hc
  · exact Record.depth_lt_of_fieldList hr hshould hc
  · exact Record.depth_lt_of_fieldList hr hfilter hc
  · exact Record.depth_lt_of_fieldList hr hmustNot hc

theorem exists_record_encodeScriptScore (single : Single → Json) (s : ScriptScore Query) :
    ∃ r, Decode.record ["query", "script", "min_score"] (encodeScriptScore single s) = some r ∧
      List.Forall₂ (fun k f => r.find? k = f.map (·.2)) ["query", "script", "min_score"]
        [field "query" (s.query.encode single), field "script" s.script.toJson,
          field? "min_score" single s.minScore] :=
  Decode.exists_record_ofFields (by simp) (by decide) (List.Subset.refl _)

theorem depth_lt_encodeScriptScore (single : Single → Json) (s : ScriptScore Query) :
    (s.query.encode single).depth < (encodeScriptScore single s).depth := by
  obtain ⟨r, hr, hfind⟩ := exists_record_encodeScriptScore single s
  exact Decode.depth_lt_of_record hr (List.forall₂_cons.1 hfind).1

end Query

theorem NearestSearch.decodeBuilder_toJson (m : ModelText) :
    decodeBuilder (builderToJson m) = some m := by
  have hnames : List.Forall₂ HasName ["text_embedding"] [Json.field "text_embedding" m.toJson] := by
    simp
  obtain ⟨r, hr, hfind⟩ := Decode.exists_record_ofFields hnames (by decide) (List.Subset.refl _)
  rw [decodeBuilder, builderToJson, hr]
  simp only [Option.bind_eq_bind, Option.bind_some,
    Record.required_field (List.forall₂_cons.1 hfind).1, m.decode_toJson]

theorem RankFusion.decode_toJson {f : RankFusion} (hconstant : ∀ c ∈ f.rankConstant, Decode.InInt64 c)
    (hwindow : ∀ c ∈ f.windowSize, Decode.InInt64 c) : decode f.toJson = some f := by
  have hnames : List.Forall₂ HasName ["rank_constant", "rank_window_size"]
      [field? "rank_constant" .int f.rankConstant, field? "rank_window_size" .int f.windowSize] := by
    simp
  obtain ⟨r, hr, hfind⟩ := Decode.exists_record_ofFields hnames (by decide) (List.Subset.refl _)
  simp only [List.forall₂_cons] at hfind
  obtain ⟨hfindConstant, hfindWindow, -⟩ := hfind
  have hconstant' : r.maybe "rank_constant" Decode.int64 = some f.rankConstant :=
    Record.maybe_field? hfindConstant rfl fun c hc => Decode.int64_int (hconstant c hc)
  have hwindow' : r.maybe "rank_window_size" Decode.int64 = some f.windowSize :=
    Record.maybe_field? hfindWindow rfl fun c hc => Decode.int64_int (hwindow c hc)
  rw [decode, toJson, hr]
  simp only [Option.bind_eq_bind, Option.bind_some, hconstant', hwindow']
  rfl

theorem SearchRequest.decodeRank_toJson {rank : Option RankFusion}
    (h : ∀ f ∈ rank, (∀ c ∈ f.rankConstant, Decode.InInt64 c) ∧ ∀ c ∈ f.windowSize, Decode.InInt64 c) :
    decodeRank (rankToJson rank) = some rank := by
  have hnames : List.Forall₂ HasName ["rrf"] [field? "rrf" RankFusion.toJson rank] := by simp
  obtain ⟨r, hr, hfind⟩ := Decode.exists_record_ofFields hnames (by decide) (List.Subset.refl _)
  rw [decodeRank, rankToJson, hr]
  exact Record.maybe_field? (List.forall₂_cons.1 hfind).1 rfl fun f hf =>
    RankFusion.decode_toJson (h f hf).1 (h f hf).2

variable {single : Single → Json} {ok : Single → Prop}
  (hok : ∀ s, ok s → Decode.single (single s) = some s)
include hok

omit hok in
theorem MatchQuery.isLegible_toJson {m : MatchQuery} (h : AllCanonical m.options) :
    m.toJson.isLegible = true :=
  Json.isLegible_ofMembers (List.forall_mem_cons.2
    ⟨rfl, fun e he => Json.isLegible_of_canonical (h e he)⟩)

omit hok in
theorem ModelText.isLegible_toJson (m : ModelText) : m.toJson.isLegible = true :=
  Json.isLegible_ofFields (by simp [Json.isLegible])

omit hok in
theorem SparseClause.isLegible_encode {c : SparseClause}
    (h : ∀ v ∈ c.queryVector, ∀ e ∈ v.entries, (single e.2).isLegible = true) :
    (c.encode single).isLegible = true := by
  refine Json.isLegible_ofFields ?_
  simp only [List.forall_mem_cons, Json.hasLegible_field, Json.hasLegible_field?]
  exact ⟨rfl, fun _ _ => rfl, fun _ _ => rfl, fun v hv => Json.isLegible_ofDict_map.2 (h v hv),
    List.forall_mem_nil _⟩

omit hok in
theorem isLegible_encodeMatchAll {boost : Option Single}
    (h : ∀ s ∈ boost, (single s).isLegible = true) : (encodeMatchAll single boost).isLegible = true :=
  Json.isLegible_ofFields (List.forall_mem_singleton.2 ((Json.hasLegible_field? ..).2 h))

namespace Query

omit hok in
theorem isLegible_encodeJunction {j : Junction Query}
    (h : ∀ c ∈ j.clauses, (c.encode single).isLegible = true) :
    (encodeJunction single j).isLegible = true := by
  simp only [Junction.clauses, List.forall_mem_append] at h
  refine Json.isLegible_ofFields ?_
  simp only [List.forall_mem_cons, Json.hasLegible_fieldList]
  exact ⟨h.1.1.1, h.1.1.2, h.1.2, h.2, List.forall_mem_nil _⟩

omit hok in
theorem isLegible_encodeScriptScore {s : ScriptScore Query}
    (hquery : (s.query.encode single).isLegible = true) (hparams : AllCanonical s.script.params)
    (hmin : ∀ x ∈ s.minScore, (single x).isLegible = true) :
    (encodeScriptScore single s).isLegible = true := by
  have hscript : s.script.toJson.isLegible = true := by
    have hlegible : ∀ e ∈ s.script.params.entries, e.2.isLegible = true :=
      fun e he => Json.isLegible_of_canonical (hparams e he)
    exact Json.isLegible_ofFields (by simpa using hlegible)
  refine Json.isLegible_ofFields ?_
  simp only [List.forall_mem_cons, Json.hasLegible_field, Json.hasLegible_field?]
  exact ⟨hquery, hscript, hmin, List.forall_mem_nil _⟩

theorem isLegible_encode {q : Query} (h : q.Valid ok) : (q.encode single).isLegible = true := by
  have hsingle : ∀ s, ok s → (single s).isLegible = true :=
    fun s hs => Decode.isLegible_of_single (hok s hs)
  induction h with
  | @mk q plain _ _ ihclauses ihscored =>
    have hmatching : ∀ m ∈ q.matching, (Json.ofDict (m.map MatchQuery.toJson)).isLegible = true :=
      fun m hm => Json.isLegible_ofDict_map.2 fun e he =>
        MatchQuery.isLegible_toJson (plain.matching m hm e he).2
    have hexpansion : ∀ t ∈ q.textExpansion,
        (Json.ofDict (t.map ModelText.toJson)).isLegible = true :=
      fun t _ => Json.isLegible_ofDict_map.2 fun e _ => e.2.isLegible_toJson
    have hcanonical {d : Dict String Json} (hd : AllCanonical d) : (Json.ofDict d).isLegible = true :=
      Json.isLegible_ofDict.2 fun e he => Json.isLegible_of_canonical (hd e he)
    rw [encode_eq]
    refine Json.isLegible_ofMembers (List.forall_mem_append.2
      ⟨Json.forall_isLegible_filterMap ?_, fun e he => Json.isLegible_of_canonical (plain.canonical e he)⟩)
    simp only [fields, plainFields, List.forall_mem_cons, Json.hasLegible_field?]
    exact ⟨fun j hj => isLegible_encodeJunction (ihclauses j hj),
      fun s hs => isLegible_encodeScriptScore (ihscored s hs) (plain.params s hs)
        fun x hx => hsingle x (plain.minScore s hs x hx),
      hmatching, fun b hb => isLegible_encodeMatchAll fun s hs => hsingle s (plain.boost b hb s hs),
      fun c hc => SparseClause.isLegible_encode fun v hv e he => hsingle e.2 (plain.weights c hc v hv e he),
      hexpansion, fun t ht => hcanonical (plain.term t ht), fun t ht => hcanonical (plain.range t ht),
      List.forall_mem_nil _⟩

end Query

theorem NearestSearch.isLegible_encode {n : NearestSearch} (h : n.Valid ok) :
    (n.encode single).isLegible = true := by
  have hsingle : ∀ s, ok s → (single s).isLegible = true :=
    fun s hs => Decode.isLegible_of_single (hok s hs)
  have hbuilder : ∀ m ∈ n.builder, (builderToJson m).isLegible = true := by
    intro m _
    refine Json.isLegible_ofFields (List.forall_mem_singleton.2 ?_)
    exact (Json.hasLegible_field ..).2 m.isLegible_toJson
  refine Json.isLegible_ofFields ?_
  simp only [List.forall_mem_cons, Json.hasLegible_field, Json.hasLegible_field?,
    Json.hasLegible_fieldList]
  exact ⟨rfl, fun v hv => Json.isLegible_arr.2 (List.forall_mem_map.2 fun s hs =>
      hsingle s (h.vector v hv s hs)), hbuilder, fun _ _ => rfl, fun _ _ => rfl,
    fun q hq => Query.isLegible_encode hok (h.filter q hq),
    fun s hs => hsingle s (h.similarity s hs), List.forall_mem_nil _⟩

theorem SparseClause.decode_encode {c : SparseClause}
    (h : ∀ v ∈ c.queryVector, ∀ e ∈ v.entries, ok e.2) : decode (c.encode single) = some c := by
  have hnames : List.Forall₂ HasName ["field", "inference_id", "query", "query_vector"]
      [Json.field "field" (.str c.field), field? "inference_id" .str c.inferenceId,
        field? "query" .str c.query,
        field? "query_vector" (fun v => .ofDict (v.map single)) c.queryVector] := by simp
  obtain ⟨r, hr, hfind⟩ := Decode.exists_record_ofFields hnames (by decide) (List.Subset.refl _)
  simp only [List.forall₂_cons] at hfind
  obtain ⟨hfield, hid, hquery, hvector, -⟩ := hfind
  have hid' : r.maybe "inference_id" Decode.string = some c.inferenceId :=
    Record.maybe_field? hid rfl fun _ _ => rfl
  have hquery' : r.maybe "query" Decode.string = some c.query :=
    Record.maybe_field? hquery rfl fun _ _ => rfl
  have hvector' : r.maybe "query_vector" (Decode.dict Decode.single) = some c.queryVector :=
    Record.maybe_field? hvector rfl fun v hv => Decode.dict_ofDict fun e he => hok _ (h v hv e he)
  rw [decode, encode, hr]
  simp only [Option.bind_eq_bind, Option.bind_some, Record.required_field hfield, hid', hquery',
    hvector']
  rfl

theorem decodeMatchAll_encode {boost : Option Single} (h : ∀ s ∈ boost, ok s) :
    decodeMatchAll (encodeMatchAll single boost) = some boost := by
  have hnames : List.Forall₂ HasName ["boost"] [field? "boost" single boost] := by simp
  obtain ⟨r, hr, hfind⟩ := Decode.exists_record_ofFields hnames (by decide) (List.Subset.refl _)
  obtain ⟨hboost, -⟩ := List.forall₂_cons.1 hfind
  rw [decodeMatchAll, encodeMatchAll, hr]
  exact Record.maybe_field? hboost rfl fun s hs => hok s (h s hs)

namespace Query

theorem decodeScriptScore_encode {d : Decoder Query} {s : ScriptScore Query}
    (hquery : d (s.query.encode single) = some s.query) (hparams : AllCanonical s.script.params)
    (hmin : ∀ x ∈ s.minScore, ok x) :
    decodeScriptScore d (encodeScriptScore single s) = some s := by
  obtain ⟨r, hr, hfind⟩ := exists_record_encodeScriptScore single s
  simp only [List.forall₂_cons] at hfind
  obtain ⟨hfindQuery, hscript, hscore, -⟩ := hfind
  have hscore' : r.maybe "min_score" Decode.single = some s.minScore :=
    Record.maybe_field? hscore rfl fun x hx => hok x (hmin x hx)
  rw [decodeScriptScore, hr]
  simp only [Option.bind_eq_bind, Option.bind_some, Record.required_field hfindQuery, hquery,
    Record.required_field hscript, s.script.decode_toJson hparams, hscore']
  rfl

/-- A query is read back at any depth that reaches its innermost part. -/
theorem decodeWithin_encode {q : Query} (h : q.Valid ok) {depth : Nat}
    (hdepth : (q.encode single).depth ≤ depth) : decodeWithin depth (q.encode single) = some q := by
  induction h generalizing depth with
  | @mk q plain hclauses _ ihclauses ihscored =>
    cases depth with
    | zero =>
      rw [encode_eq] at hdepth
      exact absurd hdepth (Nat.not_succ_le_zero _)
    | succ depth =>
      have hnames : List.Forall₂ HasName ["bool", "script_score", "match", "match_all",
          "sparse_vector", "text_expansion", "term", "range"] (q.fields single) := by
        simp [fields, plainFields]
      obtain ⟨r, hr, hfind⟩ := Decode.exists_openRecord hnames (by decide)
        (show _ ⊆ Query.names by decide) (plain.avoids.free plain.canonical)
      rw [← encode_eq] at hr
      simp only [fields, plainFields, List.forall₂_cons] at hfind
      obtain ⟨hjunction, hscript, hmatch, hall, hsparse, hexpansion, hterm, hrange, -⟩ := hfind
      have hdeep {k : String} {v : Json} (hv : r.find? k = some v) : v.depth ≤ depth :=
        Nat.le_of_lt_succ (Nat.lt_of_lt_of_le (Decode.depth_lt_of_openRecord hr hv) hdepth)
      have hjunction' : r.maybe "bool" (decodeJunction (decodeWithin depth)) = some q.junction := by
        refine Record.maybe_field? hjunction rfl fun j hj => decodeJunction_encode
          (fun c hc => isLegible_encode hok (hclauses j hj c hc)) fun c hc => ?_
        have hfound : r.find? "bool" = some (encodeJunction single j) := by
          rw [hjunction, Option.mem_def.1 hj]
          rfl
        exact ihclauses j hj c hc ((depth_lt_encodeJunction hc).le.trans (hdeep hfound))
      have hscript' :
          r.maybe "script_score" (decodeScriptScore (decodeWithin depth)) = some q.scriptScore := by
        refine Record.maybe_field? hscript rfl fun s hs => ?_
        have hfound : r.find? "script_score" = some (encodeScriptScore single s) := by
          rw [hscript, Option.mem_def.1 hs]
          rfl
        exact decodeScriptScore_encode hok
          (ihscored s hs ((depth_lt_encodeScriptScore single s).le.trans (hdeep hfound)))
          (plain.params s hs) (plain.minScore s hs)
      have hmatch' : r.maybe "match" (Decode.dict MatchQuery.decode) = some q.matching :=
        Record.maybe_field? hmatch rfl fun m hm => Decode.dict_ofDict fun e he =>
          MatchQuery.decode_toJson (plain.matching m hm e he).1 (plain.matching m hm e he).2
      have hall' : r.maybe "match_all" decodeMatchAll = some q.matchAll :=
        Record.maybe_field? hall rfl fun b hb => decodeMatchAll_encode hok (plain.boost b hb)
      have hsparse' : r.maybe "sparse_vector" SparseClause.decode = some q.sparseVector :=
        Record.maybe_field? hsparse rfl fun c hc => SparseClause.decode_encode hok (plain.weights c hc)
      have hexpansion' : r.maybe "text_expansion" (Decode.dict ModelText.decode) =
          some q.textExpansion :=
        Record.maybe_field? hexpansion rfl fun t _ => Decode.dict_ofDict fun e _ => e.2.decode_toJson
      have hterm' : r.maybe "term" Decode.object = some q.term :=
        Record.maybe_field? hterm rfl fun t ht => Decode.object_ofDict (plain.term t ht)
      have hrange' : r.maybe "range" Decode.object = some q.range :=
        Record.maybe_field? hrange rfl fun t ht => Decode.object_ofDict (plain.range t ht)
      rw [Query.names] at hr
      rw [decodeWithin, hr]
      simp only [Option.bind_eq_bind, Option.bind_some, hjunction', hscript', hmatch', hall', hsparse',
        hexpansion', hterm', hrange']
      cases q
      rfl

theorem decode_encode {q : Query} (h : q.Valid ok) : decode (q.encode single) = some q :=
  decodeWithin_encode hok h (Nat.le_refl _)

end Query

theorem NearestSearch.decode_encode {n : NearestSearch} (h : n.Valid ok) :
    decode (n.encode single) = some n := by
  have hnames : List.Forall₂ HasName ["field", "query_vector", "query_vector_builder", "k",
      "num_candidates", "filter", "similarity"]
      [Json.field "field" (.str n.field), field? "query_vector" (fun v => .arr (v.map single)) n.queryVector,
        field? "query_vector_builder" builderToJson n.builder, field? "k" .ofNat n.k,
        field? "num_candidates" .ofNat n.candidates, fieldList "filter" (Query.encode single) n.filter,
        field? "similarity" single n.similarity] := by simp
  obtain ⟨r, hr, hfind⟩ := Decode.exists_record_ofFields hnames (by decide) (List.Subset.refl _)
  simp only [List.forall₂_cons] at hfind
  obtain ⟨hfield, hvector, hbuilder, hk, hcandidates, hfilter, hsimilarity, -⟩ := hfind
  have hvector' : r.maybe "query_vector" (Decode.list Decode.single) = some n.queryVector :=
    Record.maybe_field? hvector rfl fun v hv => Decode.items_map fun s hs => hok s (h.vector v hv s hs)
  have hbuilder' : r.maybe "query_vector_builder" decodeBuilder = some n.builder :=
    Record.maybe_field? hbuilder rfl fun m _ => decodeBuilder_toJson m
  have hk' : r.maybe "k" (Decode.natural 64) = some n.k :=
    Record.maybe_field? hk rfl fun k hkk => Decode.natural_ofNat (h.k k hkk)
  have hcandidates' : r.maybe "num_candidates" (Decode.natural 64) = some n.candidates :=
    Record.maybe_field? hcandidates rfl fun k hkk => Decode.natural_ofNat (h.candidates k hkk)
  have hfilter' : r.withDefault "filter" [] (Decode.oneOrMany Query.decode) = some n.filter :=
    Record.oneOrMany_fieldList hfilter (fun q hq => Query.decode_encode hok (h.filter q hq))
      fun q hq => Query.isLegible_encode hok (h.filter q hq)
  have hsimilarity' : r.maybe "similarity" Decode.single = some n.similarity :=
    Record.maybe_field? hsimilarity rfl fun s hs => hok s (h.similarity s hs)
  rw [decode, encode, hr]
  simp only [Option.bind_eq_bind, Option.bind_some, Record.required_field hfield, hvector', hbuilder',
    hk', hcandidates', hfilter', hsimilarity']
  rfl

theorem SearchRequest.decode_encode_of_valid {r : SearchRequest} (h : r.Valid ok) :
    decode (r.encode single) = some r := by
  have hnames : List.Forall₂ HasName SearchRequest.names (r.fields single) := by
    simp [SearchRequest.names, fields]
  obtain ⟨found, hfound, hfind⟩ := Decode.exists_openRecord hnames (by decide) (List.Subset.refl _)
    (h.avoids.free h.canonical)
  simp only [fields, SearchRequest.names, List.forall₂_cons] at hfind
  obtain ⟨hquery, hnearest, hrank, hsize, hmin, -⟩ := hfind
  have hquery' : found.maybe "query" Query.decode = some r.query :=
    Record.maybe_field? hquery rfl fun q hq => Query.decode_encode hok (h.query q hq)
  have hnearest' :
      found.withDefault "knn" [] (Decode.oneOrMany NearestSearch.decode) = some r.nearest :=
    Record.oneOrMany_fieldList hnearest (fun n hn => NearestSearch.decode_encode hok (h.nearest n hn))
      fun n hn => NearestSearch.isLegible_encode hok (h.nearest n hn)
  have hrank' : found.maybe "rank" decodeRank = some r.rank :=
    Record.maybe_field? hrank rfl fun f hf => decodeRank_toJson fun g hg =>
      ⟨h.rankConstant g (by rw [Option.mem_def.1 hf]; exact hg),
        h.windowSize g (by rw [Option.mem_def.1 hf]; exact hg)⟩
  have hsize' : found.maybe "size" (Decode.natural 64) = some r.size :=
    Record.maybe_field? hsize rfl fun n hn => Decode.natural_ofNat (h.size n hn)
  have hmin' : found.maybe "min_score" Decode.double = some r.minScore :=
    Record.maybe_field? hmin rfl fun d hd => Decode.double_ofDouble (h.minScore d hd)
  rw [SearchRequest.names] at hfound
  rw [decode, encode, hfound]
  simp only [Option.bind_eq_bind, Option.bind_some, hquery', hnearest', hrank', hsize', hmin']
  rfl

end

/-- Reading undoes writing. A request becomes a value without loss when its numbers are finite; it becomes
a text without loss when its singles come back from theirs, the reader accepts the nesting, and no double
is one that is read back from its text as another. -/
theorem SearchRequest.reads_back {r : SearchRequest} (h : r.Valid (·.isFinite = true)) :
    decode (r.encode .ofSingle) = some r ∧
      (r.Valid (fun s => Decode.single (.ofSingleText s) = some s) →
        decode r.toJson = some r ∧
          (Json.Fits Json.Reader.maxDepth r.toJson → r.toJson.Rereads →
            Decode.fromText decode r.toJson.render = some r)) := by
  refine ⟨decode_encode_of_valid (fun s hs => Decode.single_ofSingle hs) h, fun htext => ?_⟩
  have hdecode : decode r.toJson = some r := decode_encode_of_valid (fun s hs => hs) htext
  refine ⟨hdecode, fun hfits hrereads => ?_⟩
  rw [Decode.fromText, Json.parseRaw_render hfits hrereads, Option.bind_some, hdecode]

theorem Query.valid_everything (ok : Single → Prop) : Query.everything.Valid ok := by
  refine .mk ⟨nofun, ?_, nofun, nofun, nofun, nofun, nofun, nofun, nofun⟩ nofun nofun
  rintro b ⟨⟩ s ⟨⟩

theorem Query.valid_textMatch (ok : Single → Prop) (name text : String) :
    (Query.textMatch name text).Valid ok := by
  refine .mk ⟨?_, nofun, nofun, nofun, nofun, nofun, nofun, nofun, nofun⟩ nofun nofun
  rintro m ⟨⟩ e he
  obtain rfl := List.mem_singleton.1 (Dict.mem_ofList he)
  exact ⟨nofun, nofun⟩

theorem Query.valid_joined {ok : Single → Prop} {j : Junction Query}
    (h : ∀ c ∈ j.clauses, c.Valid ok) : (Query.joined j).Valid ok := by
  refine .mk ⟨nofun, nofun, nofun, nofun, nofun, nofun, nofun, nofun, nofun⟩ ?_ nofun
  rintro _ ⟨⟩
  exact h

def layered : SearchRequest where
  query := some (.joined ⟨[{ Query.blank with
      scriptScore := some ⟨.textMatch "title" "x", ⟨"_score", Dict.ofList [("a", .int 1)]⟩,
        some ⟨0x3f000000⟩⟩ }], [], [.everything], []⟩)
  nearest := [⟨"v", some [⟨0x3f800000⟩, ⟨0x15ae43fd⟩], none, some 3, none, [.everything], none⟩]
  rank := some none
  size := some 5
  minScore := some ⟨0x3ff0000000000000⟩
  extra := Dict.ofList [("_source", .bool false)]

theorem forall_mem_none {α : Type} {p : α → Prop} : ∀ a ∈ (none : Option α), p a := nofun

theorem layered_valid : layered.Valid (·.isFinite = true) where
  query := by
    rintro _ ⟨⟩
    refine Query.valid_joined fun c hc => ?_
    simp only [Junction.clauses, List.append_nil, List.singleton_append, List.mem_cons,
      List.not_mem_nil, or_false] at hc
    rcases hc with rfl | rfl
    · refine .mk ⟨forall_mem_none, forall_mem_none, ?_, ?_, forall_mem_none, forall_mem_none,
        forall_mem_none, by decide, by decide⟩ forall_mem_none ?_
      · rintro _ ⟨⟩
        decide
      · rintro _ ⟨⟩ _ ⟨⟩
        decide
      · rintro _ ⟨⟩
        exact Query.valid_textMatch _ _ _
    · exact Query.valid_everything _
  nearest := by
    intro n hn
    obtain rfl := List.mem_singleton.1 hn
    refine ⟨?_, ?_, forall_mem_none, ?_, forall_mem_none⟩
    · rintro _ ⟨⟩
      decide
    · rintro _ ⟨⟩
      decide
    · intro q hq
      obtain rfl := List.mem_singleton.1 hq
      exact Query.valid_everything _
  rankConstant := nofun
  windowSize := nofun
  size := by
    rintro _ ⟨⟩
    decide
  minScore := by
    rintro _ ⟨⟩
    decide
  avoids := by decide
  canonical := by decide

def halved : SearchRequest :=
  { SearchRequest.ofQuery .everything with minScore := some ⟨0x3fe0000000000000⟩ }

theorem halved_valid (ok : Single → Prop) : halved.Valid ok where
  query := by
    rintro _ ⟨⟩
    exact Query.valid_everything ok
  nearest := nofun
  rankConstant := nofun
  windowSize := nofun
  size := nofun
  minScore := by
    rintro _ ⟨⟩
    decide
  avoids := by decide
  canonical := by decide

theorem SearchRequest.reads_back_layered :
    (layered.Valid (·.isFinite = true) ∧ decode (layered.encode .ofSingle) = some layered) ∧
      halved.Valid (·.isFinite = true) ∧ Decode.fromText decode halved.toJson.render = some halved := by
  have hjson : halved.toJson = .obj [("min_score", .float ⟨0x3fe0000000000000⟩),
      ("query", .obj [("match_all", .obj [])])] := by decide +kernel
  have hfits : Json.Fits Json.Reader.maxDepth halved.toJson := by
    rw [hjson]
    refine .obj ?_
    simp only [List.forall_mem_cons]
    exact ⟨.float _, .obj (List.forall_mem_singleton.2 (.obj nofun)), nofun⟩
  have hrereads : halved.toJson.Rereads := by
    rw [hjson]
    refine .obj ?_
    simp only [List.forall_mem_cons]
    exact ⟨.float (by decide +kernel), .obj (List.forall_mem_singleton.2 (.obj nofun)), nofun⟩
  exact ⟨⟨layered_valid, (reads_back layered_valid).1⟩, halved_valid _,
    ((reads_back (halved_valid _)).2 (halved_valid _)).2 hfits hrereads⟩

end ChatRetrieval.Elastic
