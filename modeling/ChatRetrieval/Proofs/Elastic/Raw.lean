import ChatRetrieval.Elastic.Retriever
import ChatRetrieval.Proofs.Elastic.Client
import ChatRetrieval.Proofs.Elastic.Kept
import ChatRetrieval.Proofs.Elastic.RoundTrip

/-!
Raw requests. What is read from a raw request and sent keeps every member in its place.
-/

namespace ChatRetrieval.Elastic

open Json (field field? fieldDict fieldList HasName)
open Decode (Record)

section

variable {j : Json}

theorem Kept.of_string {s : String} (h : Decode.string j = some s) : Kept .exact j (.str s) := by
  cases j with
  | str t =>
    cases h
    exact .exact _
  | _ => cases h

theorem Kept.of_natural {bits n : Nat} (h : Decode.natural bits j = some n) :
    Kept .exact j (.ofNat n) := by
  obtain ⟨i, hi, rfl⟩ := Option.map_eq_some_iff.1 h
  cases j with
  | int m =>
    rw [Decode.whole] at hi
    split at hi
    · rename_i hrange
      cases hi
      rw [Json.ofNat, Int.toNat_of_nonneg hrange.1]
      exact .exact _
    · cases hi
  | _ => cases hi

theorem Kept.of_int64 {n : Int} (h : Decode.int64 j = some n) : Kept .exact j (.int n) := by
  cases j with
  | int m =>
    rw [Decode.int64, Decode.signed, Decode.whole] at h
    split at h <;> cases h
    exact .exact _
  | _ => cases h

theorem Kept.of_object {m : Dict String Json} (h : Decode.object j = some m) :
    Kept .free j (.ofDict m) :=
  (Decode.object_eq_some h).1 ▸ .free j

theorem Kept.of_list {α : Type} {p : Place} {d : Decoder α} {encode : α → Json} {l : List α}
    (h : Decode.list d j = some l) (hd : ∀ j a, d j = some a → Kept p j (encode a)) :
    Kept (.list p) j (.arr (l.map encode)) := by
  obtain ⟨xs, rfl, hitems⟩ := Decode.list_eq_some h
  obtain ⟨hlength, hall⟩ := Kept.of_items hitems hd
  exact .list hlength hall

theorem Kept.of_dict {α : Type} {p : Place} {d : Decoder α} {encode : α → Json} {m : Dict String α}
    (h : Decode.dict d j = some m) (hd : ∀ j a, d j = some a → Kept p j (encode a)) :
    Kept (.named p) j (.ofDict (m.map encode)) := by
  obtain ⟨hobject, hfound⟩ := Decode.dict_eq_some h
  have hsent (name : String) :
      (Json.ofDict (m.map encode)).get? name = (m.get? name).map encode := by
    rw [Json.get?_ofDict, Dict.get?_map]
  refine .named hobject rfl (fun name v hv => ?_) fun name v v' hv hv' => ?_
  · obtain ⟨a, ha, -⟩ := hfound name v hv
    rw [hsent, ha]
    rfl
  · obtain ⟨a, ha, hva⟩ := hfound name v hv
    rw [hsent, ha] at hv'
    cases hv'
    exact hd v a hva

theorem Kept.of_script {s : Script} (h : Script.decode j = some s) :
    Kept (.clause .script) j s.toJson := by
  obtain ⟨r, hr, h⟩ := Option.bind_eq_some_iff.1 h
  obtain ⟨source, hsource, h⟩ := Option.bind_eq_some_iff.1 h
  obtain ⟨params, hparams, h⟩ := Option.bind_eq_some_iff.1 h
  cases h
  have hkept : FieldsKept .script r ["source", "params"]
      [field "source" (.str source), fieldDict "params" params] :=
    .cons (.required hsource fun _ => Kept.of_string) (.cons (.params hparams) .nil)
  exact .of_record (by simp) (by decide) hkept hr rfl (by decide)

theorem Kept.of_modelText {m : ModelText} (h : ModelText.decode j = some m) :
    Kept (.clause .modelText) j m.toJson := by
  obtain ⟨r, hr, h⟩ := Option.bind_eq_some_iff.1 h
  obtain ⟨modelId, hid, h⟩ := Option.bind_eq_some_iff.1 h
  obtain ⟨text, htext, h⟩ := Option.bind_eq_some_iff.1 h
  cases h
  have hkept : FieldsKept .modelText r ["model_id", "model_text"]
      [field "model_id" (.str modelId), field "model_text" (.str text)] :=
    .cons (.required hid fun _ => Kept.of_string) (.cons (.required htext fun _ => Kept.of_string) .nil)
  exact .of_record (by simp) (by decide) hkept hr rfl (by decide)

theorem Kept.of_matchAll {boost : Option Single} (h : decodeMatchAll j = some boost) :
    Kept (.clause .matchAll) j (encodeMatchAll .ofSingleText boost) := by
  obtain ⟨r, hr, hboost⟩ := Option.bind_eq_some_iff.1 h
  have hkept : FieldsKept .matchAll r ["boost"] [field? "boost" .ofSingleText boost] :=
    .cons (.maybe (by decide) hboost fun _ _ => Kept.single) .nil
  exact .of_record (by simp) (by decide) hkept hr rfl (by decide)

theorem Kept.of_sparse {c : SparseClause} (h : SparseClause.decode j = some c) :
    Kept (.clause .sparse) j (c.encode .ofSingleText) := by
  obtain ⟨r, hr, h⟩ := Option.bind_eq_some_iff.1 h
  obtain ⟨name, hname, h⟩ := Option.bind_eq_some_iff.1 h
  obtain ⟨inferenceId, hid, h⟩ := Option.bind_eq_some_iff.1 h
  obtain ⟨query, hquery, h⟩ := Option.bind_eq_some_iff.1 h
  obtain ⟨queryVector, hvector, h⟩ := Option.bind_eq_some_iff.1 h
  cases h
  have hkept : FieldsKept .sparse r ["field", "inference_id", "query", "query_vector"]
      [field "field" (.str name), field? "inference_id" .str inferenceId, field? "query" .str query,
        field? "query_vector" (fun v => .ofDict (v.map .ofSingleText)) queryVector] :=
    .cons (.required hname fun _ => Kept.of_string)
      (.cons (.maybe (by decide) hid fun _ _ => Kept.of_string)
        (.cons (.maybe (by decide) hquery fun _ _ => Kept.of_string)
          (.cons (.maybe (by decide) hvector fun _ _ hv => .of_dict hv fun _ _ => Kept.single) .nil)))
  exact .of_record (by simp) (by decide) hkept hr rfl (by decide)

theorem Kept.of_match {m : MatchQuery} (h : MatchQuery.decode j = some m) :
    Kept (.clause .matching) j m.toJson := by
  unfold MatchQuery.decode at h
  split at h
  · cases h
    exact .short _
  · obtain ⟨⟨r, options⟩, hr, h⟩ := Option.bind_eq_some_iff.1 h
    obtain ⟨query, hquery, h⟩ := Option.bind_eq_some_iff.1 h
    cases h
    have hkept : FieldsKept .matching r ["query"] [field "query" (.str query)] :=
      .cons (.required hquery fun _ => Kept.of_string) .nil
    exact .of_openRecord (by simp) (by decide) hkept hr (by decide)

theorem Kept.of_junction {d : Decoder Query} {q : Junction Query}
    (hd : ∀ j c, d j = some c → Kept (.clause .query) j c.toJson)
    (h : Query.decodeJunction d j = some q) :
    Kept (.clause .junction) j (Query.encodeJunction .ofSingleText q) := by
  obtain ⟨r, hr, h⟩ := Option.bind_eq_some_iff.1 h
  obtain ⟨must, hmust, h⟩ := Option.bind_eq_some_iff.1 h
  obtain ⟨should, hshould, h⟩ := Option.bind_eq_some_iff.1 h
  obtain ⟨filter, hfilter, h⟩ := Option.bind_eq_some_iff.1 h
  obtain ⟨mustNot, hmustNot, h⟩ := Option.bind_eq_some_iff.1 h
  cases h
  have hkept : FieldsKept .junction r ["must", "should", "filter", "must_not"]
      [fieldList "must" Query.toJson must, fieldList "should" Query.toJson should,
        fieldList "filter" Query.toJson filter, fieldList "must_not" Query.toJson mustNot] :=
    .cons (.oneOrMany (by decide) rfl hmust hd) (.cons (.oneOrMany (by decide) rfl hshould hd)
      (.cons (.oneOrMany (by decide) rfl hfilter hd)
        (.cons (.oneOrMany (by decide) rfl hmustNot hd) .nil)))
  exact .of_record (by simp) (by decide) hkept hr rfl (by decide)

theorem Kept.of_scriptScore {d : Decoder Query} {s : ScriptScore Query}
    (hd : ∀ j c, d j = some c → Kept (.clause .query) j c.toJson)
    (h : Query.decodeScriptScore d j = some s) :
    Kept (.clause .scriptScore) j (Query.encodeScriptScore .ofSingleText s) := by
  obtain ⟨r, hr, h⟩ := Option.bind_eq_some_iff.1 h
  obtain ⟨query, hquery, h⟩ := Option.bind_eq_some_iff.1 h
  obtain ⟨script, hscript, h⟩ := Option.bind_eq_some_iff.1 h
  obtain ⟨minScore, hmin, h⟩ := Option.bind_eq_some_iff.1 h
  cases h
  have hkept : FieldsKept .scriptScore r ["query", "script", "min_score"]
      [field "query" query.toJson, field "script" script.toJson,
        field? "min_score" .ofSingleText minScore] :=
    .cons (.required hquery fun j hj => hd j query hj)
      (.cons (.required hscript fun _ => Kept.of_script)
        (.cons (.maybe (by decide) hmin fun _ _ => Kept.single) .nil))
  exact .of_record (by simp) (by decide) hkept hr rfl (by decide)

end

theorem Kept.of_query {depth : Nat} {j : Json} {q : Query} (h : Query.decodeWithin depth j = some q) :
    Kept (.clause .query) j q.toJson := by
  induction depth generalizing j q with
  | zero => cases h
  | succ depth ih =>
    obtain ⟨⟨r, extra⟩, hr, h⟩ := Option.bind_eq_some_iff.1 h
    obtain ⟨junction, hjunction, h⟩ := Option.bind_eq_some_iff.1 h
    obtain ⟨matching, hmatching, h⟩ := Option.bind_eq_some_iff.1 h
    obtain ⟨matchAll, hall, h⟩ := Option.bind_eq_some_iff.1 h
    obtain ⟨scriptScore, hscore, h⟩ := Option.bind_eq_some_iff.1 h
    obtain ⟨sparse, hsparse, h⟩ := Option.bind_eq_some_iff.1 h
    obtain ⟨expansion, hexpansion, h⟩ := Option.bind_eq_some_iff.1 h
    obtain ⟨term, hterm, h⟩ := Option.bind_eq_some_iff.1 h
    obtain ⟨range, hrange, h⟩ := Option.bind_eq_some_iff.1 h
    cases h
    have hquery (j : Json) (c : Query) (hc : Query.decodeWithin depth j = some c) :
        Kept (.clause .query) j c.toJson := ih hc
    have hkept : FieldsKept .query r
        ["bool", "script_score", "match", "match_all", "sparse_vector", "text_expansion", "term", "range"]
        [field? "bool" (Query.encodeJunction .ofSingleText) junction,
          field? "script_score" (Query.encodeScriptScore .ofSingleText) scriptScore,
          field? "match" (fun m => .ofDict (m.map MatchQuery.toJson)) matching,
          field? "match_all" (encodeMatchAll .ofSingleText) matchAll,
          field? "sparse_vector" (SparseClause.encode .ofSingleText) sparse,
          field? "text_expansion" (fun t => .ofDict (t.map ModelText.toJson)) expansion,
          field? "term" .ofDict term, field? "range" .ofDict range] :=
      .cons (.maybe (by decide) hjunction fun _ _ => Kept.of_junction hquery)
        (.cons (.maybe (by decide) hscore fun _ _ => Kept.of_scriptScore hquery)
          (.cons (.maybe (by decide) hmatching fun _ _ hm => .of_dict hm fun _ _ => Kept.of_match)
            (.cons (.maybe (by decide) hall fun _ _ => Kept.of_matchAll)
              (.cons (.maybe (by decide) hsparse fun _ _ => Kept.of_sparse)
                (.cons (.maybe (by decide) hexpansion fun _ _ ht =>
                    .of_dict ht fun _ _ => Kept.of_modelText)
                  (.cons (.maybe (by decide) hterm fun _ _ => Kept.of_object)
                    (.cons (.maybe (by decide) hrange fun _ _ => Kept.of_object) .nil)))))))
    rw [Query.toJson, Query.encode_eq]
    exact .of_openRecord (by simp) (by decide) hkept hr (by decide)

section

variable {j : Json}

theorem Kept.of_builder {m : ModelText} (h : NearestSearch.decodeBuilder j = some m) :
    Kept (.clause .builder) j (NearestSearch.builderToJson m) := by
  obtain ⟨r, hr, htext⟩ := Option.bind_eq_some_iff.1 h
  have hkept : FieldsKept .builder r ["text_embedding"] [field "text_embedding" m.toJson] :=
    .cons (.required htext fun _ => Kept.of_modelText) .nil
  exact .of_record (by simp) (by decide) hkept hr rfl (by decide)

theorem Kept.of_nearest {n : NearestSearch} (h : NearestSearch.decode j = some n) :
    Kept (.clause .nearest) j (n.encode .ofSingleText) := by
  obtain ⟨r, hr, h⟩ := Option.bind_eq_some_iff.1 h
  obtain ⟨name, hname, h⟩ := Option.bind_eq_some_iff.1 h
  obtain ⟨vector, hvector, h⟩ := Option.bind_eq_some_iff.1 h
  obtain ⟨builder, hbuilder, h⟩ := Option.bind_eq_some_iff.1 h
  obtain ⟨k, hk, h⟩ := Option.bind_eq_some_iff.1 h
  obtain ⟨candidates, hcandidates, h⟩ := Option.bind_eq_some_iff.1 h
  obtain ⟨filter, hfilter, h⟩ := Option.bind_eq_some_iff.1 h
  obtain ⟨similarity, hsimilarity, h⟩ := Option.bind_eq_some_iff.1 h
  cases h
  have hkept : FieldsKept .nearest r
      ["field", "query_vector", "query_vector_builder", "k", "num_candidates", "filter", "similarity"]
      [field "field" (.str name), field? "query_vector" (fun v => .arr (v.map .ofSingleText)) vector,
        field? "query_vector_builder" NearestSearch.builderToJson builder, field? "k" .ofNat k,
        field? "num_candidates" .ofNat candidates, fieldList "filter" (Query.encode .ofSingleText) filter,
        field? "similarity" .ofSingleText similarity] :=
    .cons (.required hname fun _ => Kept.of_string)
      (.cons (.maybe (by decide) hvector fun _ _ hv => .of_list hv fun _ _ => Kept.single)
        (.cons (.maybe (by decide) hbuilder fun _ _ => Kept.of_builder)
          (.cons (.maybe (by decide) hk fun _ _ => Kept.of_natural)
            (.cons (.maybe (by decide) hcandidates fun _ _ => Kept.of_natural)
              (.cons (.oneOrMany (by decide) rfl hfilter fun _ _ => Kept.of_query)
                (.cons (.maybe (by decide) hsimilarity fun _ _ => Kept.single) .nil))))))
  exact .of_record (by simp) (by decide) hkept hr rfl (by decide)

theorem Kept.of_fusion {f : RankFusion} (h : RankFusion.decode j = some f) :
    Kept (.clause .fusion) j f.toJson := by
  obtain ⟨r, hr, h⟩ := Option.bind_eq_some_iff.1 h
  obtain ⟨constant, hconstant, h⟩ := Option.bind_eq_some_iff.1 h
  obtain ⟨window, hwindow, h⟩ := Option.bind_eq_some_iff.1 h
  cases h
  have hkept : FieldsKept .fusion r ["rank_constant", "rank_window_size"]
      [field? "rank_constant" .int constant, field? "rank_window_size" .int window] :=
    .cons (.maybe (by decide) hconstant fun _ _ => Kept.of_int64)
      (.cons (.maybe (by decide) hwindow fun _ _ => Kept.of_int64) .nil)
  exact .of_record (by simp) (by decide) hkept hr rfl (by decide)

theorem Kept.of_rank {f : Option RankFusion} (h : SearchRequest.decodeRank j = some f) :
    Kept (.clause .rank) j (SearchRequest.rankToJson f) := by
  obtain ⟨r, hr, hfusion⟩ := Option.bind_eq_some_iff.1 h
  have hkept : FieldsKept .rank r ["rrf"] [field? "rrf" RankFusion.toJson f] :=
    .cons (.maybe (by decide) hfusion fun _ _ => Kept.of_fusion) .nil
  exact .of_record (by simp) (by decide) hkept hr rfl (by decide)

variable {base : SearchRequest}

theorem Kept.of_request (h : SearchRequest.decode j = some base) {size : Option Nat}
    {minScore : Option Double} (hsize : base.size.isSome = true → size.isSome = true)
    (hmin : base.minScore.isSome = true → minScore.isSome = true) :
    Kept (.clause .request) j { base with size, minScore }.toJson := by
  obtain ⟨⟨r, extra⟩, hr, h⟩ := Option.bind_eq_some_iff.1 h
  obtain ⟨query, hquery, h⟩ := Option.bind_eq_some_iff.1 h
  obtain ⟨nearest, hnearest, h⟩ := Option.bind_eq_some_iff.1 h
  obtain ⟨rank, hrank, h⟩ := Option.bind_eq_some_iff.1 h
  obtain ⟨size₀, hsize₀, h⟩ := Option.bind_eq_some_iff.1 h
  obtain ⟨minScore₀, hmin₀, h⟩ := Option.bind_eq_some_iff.1 h
  cases h
  have hkept : FieldsKept .request r ["query", "knn", "rank", "size", "min_score"]
      [field? "query" (Query.encode .ofSingleText) query,
        fieldList "knn" (NearestSearch.encode .ofSingleText) nearest,
        field? "rank" SearchRequest.rankToJson rank, field? "size" .ofNat size,
        field? "min_score" .ofDouble minScore] :=
    .cons (.maybe (by decide) hquery fun _ _ => Kept.of_query)
      (.cons (.oneOrMany (by decide) rfl hnearest fun _ _ => Kept.of_nearest)
        (.cons (.maybe (by decide) hrank fun _ _ => Kept.of_rank)
          (.cons (.overridden (by decide) rfl hsize₀ hsize)
            (.cons (.overridden (by decide) rfl hmin₀ hmin) .nil))))
  exact .of_openRecord (by simp) (by decide) hkept hr (by decide)

theorem SearchRequest.bounds_of_decode (h : SearchRequest.decode j = some base) :
    base.size = (j.get? "size").bind (Decode.natural 64) ∧
      base.minScore = (j.get? "min_score").bind Decode.double ∧
      ∀ k ∈ SearchRequest.names, base.extra.get? k = none := by
  obtain ⟨⟨r, extra⟩, hr, h⟩ := Option.bind_eq_some_iff.1 h
  obtain ⟨query, -, h⟩ := Option.bind_eq_some_iff.1 h
  obtain ⟨nearest, -, h⟩ := Option.bind_eq_some_iff.1 h
  obtain ⟨rank, -, h⟩ := Option.bind_eq_some_iff.1 h
  obtain ⟨size, hsize, h⟩ := Option.bind_eq_some_iff.1 h
  obtain ⟨minScore, hmin, h⟩ := Option.bind_eq_some_iff.1 h
  cases h
  obtain ⟨hrecord, hobject, hextra⟩ := Decode.openRecord_eq_some hr
  have hmember {k : String} (hk : k ∈ SearchRequest.names) : r.find? k = j.get? k := by
    cases j with
    | obj ms => exact Decode.find?_of_record_obj hrecord hk
    | _ => cases hobject
  rw [← hmember (k := "size") (by decide), ← hmember (k := "min_score") (by decide)]
  exact ⟨Record.eq_bind_of_maybe hsize rfl, Record.eq_bind_of_maybe hmin rfl,
    fun k hk => (hextra k).trans (if_pos hk)⟩

theorem SearchRequest.bounds_of_toJson {r : SearchRequest}
    (h : ∀ k ∈ SearchRequest.names, r.extra.get? k = none) :
    r.toJson.get? "size" = r.size.map .ofNat ∧
      r.toJson.get? "min_score" = r.minScore.map .ofDouble := by
  have hnames : List.Forall₂ HasName SearchRequest.names (r.fields .ofSingleText) := by
    simp [SearchRequest.names, fields]
  have hnodup : SearchRequest.names.Nodup := by decide
  have hfields := Json.lookup_fields hnames hnodup
  simp only [SearchRequest.names, fields, List.forall₂_cons] at hfields
  obtain ⟨-, -, -, hsize, hmin, -⟩ := hfields
  have hsent := Json.get?_ofMembers_append (hnodup.sublist (Json.keys_sublist hnames)) r.extra
  rw [toJson, encode, hsent, hsent, h "size" (by decide), h "min_score" (by decide), Option.none_or,
    Option.none_or]
  refine ⟨hsize.trans ?_, hmin.trans ?_⟩
  · rw [field?, Option.map_map]
    rfl
  · rw [field?, Option.map_map]
    rfl

end

namespace Retriever

/-- What a raw request asks for once the bounds of the call and the configuration have their say. -/
theorem request_raw {r : Retriever} (hmode : r.mode = .raw) {text : String} {base : SearchRequest}
    (hbase : Decode.fromText SearchRequest.decode text = some base) (options : RetrieveOptions)
    (s : Session) :
    r.request text options s = (.ok { base with
      size := (options.topK.or base.size).or (some r.config.topK)
      minScore := (options.scoreThreshold.or base.minScore).or r.config.scoreThreshold }, s) := by
  have hmake : r.mode.request (options.embedder.or r.config.embedder) text options.search s =
      (.ok base, s) := by
    rw [hmode, SearchMode.request, hbase]
    rfl
  exact Action.bind_of_ok (Action.within_run hmake _) _

theorem retrieve_snd {r : Retriever} {text : String} {options : RetrieveOptions} {s : Session}
    {request : SearchRequest} (h : r.request text options s = (.ok request, s)) :
    (r.retrieve text options s).2 =
      (r.client.search (options.index.getD r.config.index) request s).2 := by
  rw [retrieve, Action.bind_of_ok h]
  exact Action.bind_lift_snd (r.client.search (options.index.getD r.config.index) request) _ s

/-- The body that is sent for a raw request holds what the request says, in the same places; the number
of hits and the least score come from the call, the request and the configuration in this order. What may
be missing from it says nothing, or is a member of a clause that keeps none but its fields. -/
theorem retrieve_raw {r : Retriever} {text : String} {given : Json} {base : SearchRequest}
    (hmode : r.mode = .raw) (hparse : Json.parseRaw text = some given)
    (hdecode : SearchRequest.decode given = some base) (options : RetrieveOptions) (s : Session) :
    ∃ body, Kept (.clause .request) given body ∧
      body.get? "size" = some (.ofNat
        ((options.topK.or ((given.get? "size").bind (Decode.natural 64))).getD r.config.topK)) ∧
      body.get? "min_score" =
        ((options.scoreThreshold.or ((given.get? "min_score").bind Decode.double)).or
          r.config.scoreThreshold).map .ofDouble ∧
      match r.client.headers "application/json" with
      | .error _ => (r.retrieve text options s).2 = s
      | .ok headers =>
        let path := options.index.getD r.config.index ++ "/_search"
        ∃ tried urls, tried <+: r.client.addresses ∧
          List.Forall₂ (fun address url => Url.join address path = .ok url) tried urls ∧
          (r.retrieve text options s).2.sent =
            s.sent ++ urls.map (fun url => ⟨.post, url.text, headers, .json body⟩) ∧
          ∀ address ∈ r.client.addresses.head?, ∀ url, Url.join address path = .ok url → tried ≠ [] := by
  have hbase : Decode.fromText SearchRequest.decode text = some base := by
    rw [Decode.fromText, hparse, Option.bind_some, hdecode]
  have hrequest := request_raw hmode hbase options s
  obtain ⟨hsize, hmin, hextra⟩ := SearchRequest.bounds_of_decode hdecode
  rw [retrieve_snd hrequest, ClientConfig.search, ← hsize, ← hmin]
  have hbounds := SearchRequest.bounds_of_toJson (r := { base with
    size := (options.topK.or base.size).or (some r.config.topK)
    minScore := (options.scoreThreshold.or base.minScore).or r.config.scoreThreshold }) hextra
  refine ⟨_, Kept.of_request hdecode (fun _ => ?_) (fun h => ?_), hbounds.1.trans ?_, hbounds.2,
    ClientConfig.executeJson_sent ..⟩
  · rw [Option.or_some]
    rfl
  · cases options.scoreThreshold <;> simp [h]
  · rw [Option.or_some]
    rfl

end Retriever

/-- A retriever that sends what it is given to one node. -/
def Retriever.passing : Retriever := ⟨.default, ⟨"i", 7, none, some .raw, none, none⟩, .raw⟩

def RetrieveOptions.unset : RetrieveOptions := ⟨none, none, none, none, .none⟩

def loneMust : Json := .obj [("query", .obj [("bool", .obj [
  ("must", .obj [("match", .obj [("title", .str "x")])]), ("minimum_should_match", .int 1)])])]

theorem Retriever.retrieve_raw_loneMust :
    Json.parseRaw loneMust.render = some loneMust ∧ (SearchRequest.decode loneMust).isSome = true ∧
      ∃ body, Kept (.clause .request) loneMust body ∧ body.get? "size" = some (.ofNat 7) ∧
        body.get? "min_score" = none := by
  have hparse : Json.parseRaw loneMust.render = some loneMust := by decide +kernel
  have hread : (SearchRequest.decode loneMust).isSome = true := by decide +kernel
  obtain ⟨base, hbase⟩ := Option.isSome_iff_exists.1 hread
  obtain ⟨body, hkept, hsize, hmin, -⟩ :=
    retrieve_raw (r := .passing) rfl hparse hbase .unset ⟨[], [], [], 0, 0⟩
  exact ⟨hparse, hread, body, hkept, hsize, hmin⟩

def under (names : List String) (j : Json) : Option Json := names.foldlM Json.get? j

/-- The bodies sent for a raw request. -/
def rawBodies (j : Json) : List Json :=
  (Retriever.passing.retrieve j.render .unset ⟨[], [], [], 0, 0⟩).2.sent.filterMap fun q =>
    match q.payload with
    | .json body => some body
    | _ => none

/-- Boolean operators keep the clause they join, now the only one of a list, but not their other member. -/
theorem rawBodies_loneMust :
    under ["query", "bool", "minimum_should_match"] loneMust = some (.int 1) ∧
      (rawBodies loneMust).map (under ["query", "bool", "minimum_should_match"]) = [none] ∧
      (rawBodies loneMust).map (under ["query", "bool", "must"]) =
        [some (.arr [.ofFields [field "match" (.ofFields [field "title" (.ofFields [
          field "query" (.str "x")])])]])] := by
  decide +kernel

end ChatRetrieval.Elastic
