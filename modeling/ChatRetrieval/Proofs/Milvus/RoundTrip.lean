import ChatRetrieval.Milvus.Indexer
import ChatRetrieval.Milvus.Retriever
import ChatRetrieval.Proofs.Json.Fields
import ChatRetrieval.Proofs.Milvus.Documents
import ChatRetrieval.Proofs.Milvus.Rest

/-!
Documents that are stored and found again. Storing writes one row for each document, which holds all of
it but for its vectors, and a search that finds the rows gives the documents back.
-/

namespace ChatRetrieval.Milvus

def ownColumns (docs : List Document) : List Column :=
  [⟨"id", .text (docs.map (·.id))⟩, ⟨"content", .text (docs.map (·.content))⟩,
    ⟨"metadata", .json (docs.map fun d => .ofDict d.metadata)⟩]

theorem defaultConverter_columns {dense sparse : Option String} {docs : List Document}
    {vectors : List (List Double)} {columns : List Column}
    (h : defaultConverter dense sparse docs vectors = .ok columns) :
    ∃ more, columns = ownColumns docs ++ more ∧
      ∀ c ∈ more, c.name ∈ dense.toList ++ sparse.toList := by
  obtain ⟨⟨rows, weights⟩, -, h⟩ := Result.bind_eq_ok h
  cases h
  refine ⟨_, List.append_assoc .., fun c hc => ?_⟩
  rw [List.mem_append, Option.mem_toList, Option.mem_toList] at hc ⊢
  refine hc.imp ?_ ?_
  all_goals
    intro hc
    obtain ⟨f, hf, rfl⟩ := Option.map_eq_some_iff.1 hc
    exact hf

section

variable {names : List String} {docs : List Document} {more : List Column}
  (hfixed : ∀ name ∈ names, name ∉ ["id", "content", "metadata"])
  (hmore : ∀ c ∈ more, c.name ∈ names)
include hfixed hmore

theorem holds_row {i : Nat} {d : Document} (hd : docs[i]? = some d) :
    Holds names d (Column.row (ownColumns docs ++ more) i) := by
  -- None of the further columns can stand in for a column of the document itself.
  have hnone : ∀ k ∈ ["id", "content", "metadata"],
      (more.map fun c => (c.name, (c.values[i]?).getD .null)).reverse.lookup k = none := by
    intro k hk
    refine lookup_eq_none_of_notMem fun hmem => ?_
    obtain ⟨m, hm, rfl⟩ := List.mem_map.1 hmem
    obtain ⟨c, hc, rfl⟩ := List.mem_map.1 (List.mem_reverse.1 hm)
    exact hfixed _ (hmore c hc) hk
  have hown : (ownColumns docs).map (fun c => (c.name, (c.values[i]?).getD .null)) =
      [("id", .str d.id), ("content", .str d.content), ("metadata", .ofDict d.metadata)] := by
    simp only [ownColumns, Column.values, List.map_cons, List.map_nil, List.getElem?_map, hd,
      Option.map_some, Option.getD_some]
  have hget : ∀ k ∈ ["id", "content", "metadata"], (Column.row (ownColumns docs ++ more) i).get? k =
      [("id", Json.str d.id), ("content", .str d.content),
        ("metadata", .ofDict d.metadata)].reverse.lookup k := by
    intro k hk
    rw [Column.row, Json.get?_ofMembers, List.map_append, List.reverse_append, List.lookup_append,
      hnone k hk, Option.none_or, hown]
  refine ⟨hget _ (by decide), hget _ (by decide), hget _ (by decide), fun k hk => ?_⟩
  have hmem := ResultSet.mem_rowKeys_ofMembers hk
  rw [List.map_append, hown, List.map_append, List.mem_append] at hmem
  refine List.mem_append.2 (hmem.imp_right fun hmem => ?_)
  rw [List.map_map] at hmem
  obtain ⟨c, hc, rfl⟩ := List.mem_map.1 hmem
  exact hmore c hc

theorem forall₂_holds {rows : List Json} (h : Column.rows (ownColumns docs ++ more) = .ok rows) :
    List.Forall₂ (Holds names) docs rows := by
  rw [ownColumns, List.cons_append, Column.rows] at h
  split at h
  · cases h
  · cases h
    have hsize : Column.size ⟨"id", .text (docs.map (·.id))⟩ = docs.length := by
      rw [Column.size, Column.values, List.length_map, List.length_map]
    rw [hsize]
    refine List.forall₂_iff_get.2 ⟨by rw [List.length_map, List.length_range], fun i hi hj => ?_⟩
    simp only [List.get_eq_getElem, List.getElem_map, List.getElem_range]
    exact holds_row hfixed hmore (List.getElem?_eq_getElem hi)

end

theorem UpsertRequest.get?_data {r : UpsertRequest} {body : Json} (h : r.toJson = .ok body) :
    ∃ rows, Column.rows r.columns = .ok rows ∧ body.get? "data" = some (.arr rows) := by
  obtain ⟨rows, hrows, hfields⟩ := Result.bind_eq_ok h
  cases hfields
  refine ⟨rows, hrows, ?_⟩
  exact Json.get?_ofFields_of_mem (.cons (Json.hasName_field "collectionName" _)
    (.cons (Json.hasName_field "data" _) (.cons (Json.hasName_field? "partitionName" _ _) .nil)))
    (by decide) (List.mem_cons_of_mem _ (List.mem_cons_self ..))

theorem ClientConfig.upsert_eq_ok {c : ClientConfig} {r : UpsertRequest} {ids : List Json}
    {s t : Session} (h : c.upsert r s = (.ok ids, t)) :
    ∃ target body rows, c.endpoint "/v2/vectordb/entities/upsert" = .ok target ∧
      Column.rows r.columns = .ok rows ∧ body.get? "data" = some (.arr rows) ∧
      t = s.asked ⟨.post, target.1, target.2, .json body⟩ 1 := by
  obtain ⟨body, u, hlift, hrest⟩ := Action.bind_eq_ok h
  obtain ⟨hbody, hsame⟩ := Action.lift_eq_ok hlift
  obtain ⟨data, v, hcall, hpure⟩ := Action.bind_eq_ok hrest
  obtain ⟨-, rfl⟩ := Action.pure_eq_ok hpure
  obtain ⟨rows, hrows, hdata⟩ := UpsertRequest.get?_data hbody
  subst hsame
  obtain ⟨target, htarget, rfl⟩ := call_eq_ok hcall
  exact ⟨target, _, rows, htarget, hrows, (get?_withDatabase (by decide)).trans hdata, rfl⟩

namespace Indexer

theorem embedDocuments_snd (embedder : Option Embedder) (docs : List Document) (s : Session) :
    ∃ embedded, (embedDocuments embedder docs s).2 = { s with embedded } := by
  cases embedder with
  | none => exact ⟨s.embedded, rfl⟩
  | some e =>
    refine ⟨s.embedded ++ [docs.map (·.content)], ?_⟩
    simp only [embedDocuments, Embedder.bind_embed]
    split
    · rfl
    · split <;> rfl

variable {x : Indexer} {c : ClientConfig} {docs : List Document} {embedder : Option Embedder}
  {partition : Option String} {ids : List String} {s t : Session}

theorem store_eq_ok (hservice : x.service = c.service)
    (h : x.store docs embedder partition s = (.ok ids, t)) :
    ∃ vectors columns, ∃ target : String × Headers, ∃ body rows,
      x.config.documentConverter docs vectors = .ok columns ∧
      Column.rows columns = .ok rows ∧ body.get? "data" = some (.arr rows) ∧
      t.sent = s.sent ++ [⟨.post, target.1, target.2, .json body⟩] := by
  obtain ⟨vectors, u, hembed, h⟩ := Action.bind_eq_ok h
  obtain ⟨columns, v, hlift, h⟩ := Action.bind_eq_ok h
  obtain ⟨written, w, hwritten, h⟩ := Action.bind_eq_ok h
  obtain ⟨-, rfl⟩ := Action.pure_eq_ok h
  obtain ⟨embedded, hsame⟩ := embedDocuments_snd (embedder.or x.config.embedder) docs s
  rw [hembed] at hsame
  obtain rfl : u = { s with embedded } := hsame
  obtain ⟨hcolumns, rfl⟩ := Action.lift_eq_ok hlift
  have hconverted : x.config.documentConverter docs vectors = .ok columns := by
    refine Result.eq_ok_of_toOption ?_
    rw [← Result.toOption_within "[Indexer.Store] failed to convert documents", hcolumns]
    rfl
  have hupsert := Action.within_eq_ok hwritten
  rw [hservice] at hupsert
  obtain ⟨target, body, rows, -, hrows, hdata, rfl⟩ := ClientConfig.upsert_eq_ok hupsert
  exact ⟨vectors, columns, target, body, rows, hconverted, hrows, hdata, rfl⟩

end Indexer

def IndexerConfig.vectorFields (c : IndexerConfig) : List String :=
  (c.vector.map (·.field)).toList ++ (c.sparse.map (·.field)).toList

theorem Indexer.forall₂_holds_of_store {x : Indexer} {docs : List Document}
    {vectors : List (List Double)} {columns : List Column} {rows : List Json}
    (hconverter : x.config.converter = none)
    (hfixed : ∀ name ∈ x.config.vectorFields, name ∉ ["id", "content", "metadata"])
    (hcolumns : x.config.documentConverter docs vectors = .ok columns)
    (hrows : Column.rows columns = .ok rows) :
    List.Forall₂ (Holds x.config.vectorFields) docs rows := by
  rw [IndexerConfig.documentConverter, hconverter] at hcolumns
  obtain ⟨more, rfl, hmore⟩ := defaultConverter_columns hcolumns
  refine forall₂_holds hfixed (fun column hcolumn => ?_) hrows
  have hname := hmore column hcolumn
  rw [IndexerConfig.vectorFields]
  rw [List.mem_append] at hname ⊢
  refine hname.imp_right fun hsparse => ?_
  rw [Option.mem_toList] at hsparse ⊢
  obtain ⟨f, hf, hfield⟩ := Option.map_eq_some_iff.1 hsparse
  exact Option.map_eq_some_iff.2 ⟨f, (Option.filter_eq_some_iff.1 hf).1, hfield⟩

theorem Retriever.searchDocuments_of_rows {r : Retriever} {c : ClientConfig}
    (hservice : r.service = c.service) (hconverter : r.config.converter = none)
    (request : SearchRequest) {s : Session} {target : String × Headers}
    (hend : c.searchEndpoint = .ok target) {rows : List Json}
    (hrows : rowsOf (s.replyTo 0) = some rows) :
    (r.searchDocuments request s).1 = .ok (ResultSet.ofRows true rows).documents := by
  have hfound := (ClientConfig.searchRows_of_endpoint request.toJson s hend).2
  rw [hrows, Option.map_some] at hfound
  rcases hrun : c.searchRows request.toJson s with ⟨result, t⟩
  rw [hrun] at hfound
  obtain rfl := Result.eq_ok_of_toOption hfound
  have hsearch : c.service.search request s = (.ok [.ofRows true rows], t) :=
    Action.bind_of_ok hrun _
  rw [searchDocuments, hservice]
  have hwithin := Action.within_run hsearch "failed to search"
  rw [Action.bind_of_ok hwithin]
  change r.convertFirst [.ofRows true rows] = _
  rw [convertFirst, RetrieverConfig.convert, hconverter]
  rfl

/-- Documents that were stored come back from a search that finds their rows. -/
theorem Indexer.store_found {x : Indexer} {c : ClientConfig} (hservice : x.service = c.service)
    (hconverter : x.config.converter = none)
    (hfixed : ∀ name ∈ x.config.vectorFields, name ∉ ["id", "content", "metadata"])
    {docs : List Document} {embedder : Option Embedder} {partition : Option String}
    {ids : List String} {s t : Session}
    (hstore : x.store docs embedder partition s = (.ok ids, t)) :
    ∃ target : String × Headers, ∃ body rows,
      t.sent = s.sent ++ [⟨.post, target.1, target.2, .json body⟩] ∧
      body.get? "data" = some (.arr rows) ∧ rows.length = docs.length ∧
      ∀ hits : List Hit, (hits.map fun h => (h.document, h.row)).Perm (docs.zip rows) →
        (∀ h ∈ hits, h.distance.asDouble?.isSome = true) →
        ∃ set found, ResultSet.ofJson true (.arr (hits.map Hit.toJson)) = .ok set ∧
          (∀ config : RetrieverConfig, config.converter = none → config.convert set = .ok found) ∧
          List.Forall₂ (Hit.Gives x.config.vectorFields) hits found ∧
          ∀ (r : Retriever) (c' : ClientConfig) request u target, r.service = c'.service →
            r.config.converter = none → c'.searchEndpoint = .ok target →
            dataOf (u.replyTo 0) = some (.arr (hits.map Hit.toJson)) →
            (r.searchDocuments request u).1 = .ok found := by
  obtain ⟨vectors, columns, target, body, rows, hcolumns, hrows, hdata, hsent⟩ :=
    store_eq_ok hservice hstore
  have hall := forall₂_holds_of_store hconverter hfixed hcolumns hrows
  -- Hits are pairs of a document and its row, so the order of the hits does not matter.
  refine ⟨target, body, rows, hsent, hdata, hall.length_eq.symm, fun hits hperm hdistance => ?_⟩
  have hholds : ∀ h ∈ hits, Holds x.config.vectorFields h.document h.row := by
    intro h hh
    have hmem := hperm.mem_iff.1 (List.mem_map_of_mem hh)
    exact (List.forall₂_iff_zip.1 hall).2 hmem
  refine ⟨_, _, rfl, fun config hconfig => ?_, Hit.gives_documents hholds hdistance,
    fun r c' request u target hr hrconverter hend hreply => ?_⟩
  · rw [RetrieverConfig.convert, hconfig]
    rfl
  · refine Retriever.searchDocuments_of_rows hr hrconverter request hend ?_
    rw [rowsOf, hreply]
    rfl

def bothKinds : Indexer where
  service := (ClientConfig.ofAddress "http://milvus:19530").service
  config := { IndexerConfig.default with
    vector := some .default
    sparse := some { SparseConfig.default with metric := .ip, source := some .precomputed } }

def twoDocuments : List Document :=
  [{ Document.blank "1" "a" with
      metadata := .ofList [("id", .str "own"), ("vector", .int 7), ("year", .int 2000)]
      denseVector := some [.ofNat 1]
      sparseVector := some (.ofList [(3, .ofNat 1)]) },
    { Document.blank "2" "b" with denseVector := some [.ofNat 2] }]

theorem Indexer.store_found_twoDocuments :
    let s : Session := ⟨[answering (.obj [("upsertIds", .arr [.str "1", .str "2"])])], [], [], 0, 0⟩
    (bothKinds.store twoDocuments none none s).1.isOk = true ∧
      ∃ (rows : List Json) (hits : List Hit) (set : ResultSet) (found : List Document),
        rows.length = 2 ∧
        hits = ((twoDocuments.zip rows).map fun p => ⟨p.1, p.2, .float (.ofNat 1)⟩).reverse ∧
        ResultSet.ofJson true (.arr (hits.map Hit.toJson)) = .ok set ∧
        RetrieverConfig.default.convert set = .ok found ∧
        List.Forall₂ (Hit.Gives ["vector", "sparse_vector"]) hits found := by
  intro s
  have hok : (bothKinds.store twoDocuments none none s).1.isOk = true := by decide +kernel
  have hfixed : ∀ name ∈ bothKinds.config.vectorFields, name ∉ ["id", "content", "metadata"] := by
    decide
  rcases hstore : bothKinds.store twoDocuments none none s with ⟨result, t⟩
  rw [hstore] at hok
  obtain ⟨ids, rfl⟩ := Result.exists_ok_of_isOk hok
  obtain ⟨-, -, rows, -, -, hlength, hfound⟩ := store_found
    (c := .ofAddress "http://milvus:19530") rfl rfl hfixed hstore
  have hperm : (((twoDocuments.zip rows).map fun p =>
      (⟨p.1, p.2, .float (.ofNat 1)⟩ : Hit)).reverse.map
        fun h => (h.document, h.row)).Perm (twoDocuments.zip rows) := by
    rw [List.map_reverse, List.map_map]
    exact (List.reverse_perm _).trans (List.Perm.of_eq (List.map_id _))
  obtain ⟨set, found, hset, hconvert, hgives, -⟩ := hfound _ hperm fun h hh => by
    obtain ⟨p, -, rfl⟩ := List.mem_map.1 (List.mem_reverse.1 hh)
    rfl
  exact ⟨hok, rows, _, set, found, hlength, rfl, hset, hconvert _ rfl, hgives⟩

end ChatRetrieval.Milvus
