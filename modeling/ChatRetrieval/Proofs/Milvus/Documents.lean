import ChatRetrieval.Milvus.ResultSet
import ChatRetrieval.Proofs.Json.Lookup
import Mathlib.Data.List.Forall2

/-!
Documents of scored rows. The columns that a result makes of its rows are put into a document one after
another, and whatever their order a field has one place it can come from.
-/

namespace ChatRetrieval.Milvus

namespace ResultSet

theorem mem_rowKeys_ofMembers {l : List (String × Json)} {k : String}
    (h : k ∈ rowKeys (.ofMembers l)) : k ∈ l.map (·.1) := by
  obtain ⟨m, hm, rfl⟩ := List.mem_map.1 h
  have hfound : (Json.ofMembers l).get? m.1 = some m.2 := by
    rw [Json.ofMembers, Json.get?, lookup_reverse (Dict.nodup_keys _),
      lookup_eq_some_iff_mem (Dict.nodup_keys _)]
    exact hm
  rw [Json.get?_ofMembers] at hfound
  exact List.mem_map_of_mem (List.mem_reverse.1 (mem_of_lookup_eq_some hfound))

theorem mem_rowKeys_of_get? {row v : Json} {k : String} (h : row.get? k = some v) :
    k ∈ rowKeys row := by
  cases row with
  | obj ms => exact List.mem_map_of_mem (List.mem_reverse.1 (mem_of_lookup_eq_some h))
  | _ => cases h

theorem mem_columnNames {rows : List Json} {k : String} :
    k ∈ columnNames rows ↔ ∃ row ∈ rows, k ∈ rowKeys row := by
  have hfold : ∀ (keys names : List String), k ∈ keys.foldl
      (fun names k => if names.contains k then names else names ++ [k]) names ↔
        k ∈ names ∨ k ∈ keys := by
    intro keys
    induction keys with
    | nil => simp
    | cons key keys ih =>
      intro names
      rw [List.foldl_cons, ih]
      by_cases hkey : names.contains key = true
      · rw [if_pos hkey]
        rw [List.contains_iff_mem] at hkey
        grind
      · rw [if_neg hkey]
        grind
  rw [columnNames, hfold, List.mem_flatMap]
  simp

section

variable (d : Document) (name : String) (v : Json)

/-- A field has its place in a document, or it is metadata of its name. -/
theorem addValue_cases :
    (name = "id" ∧ addValue d name v = { d with id := textOf v }) ∨
    (name = "content" ∧ addValue d name v = { d with content := textOf v }) ∨
    (name = "metadata" ∧ addValue d name v =
      { d with metadata := d.metadata.insertMany (metadataMembers v) }) ∨
    (name ∉ ["id", "content", "metadata"] ∧ addValue d name v = d.insertMetadata name v) := by
  unfold addValue
  by_cases hid : name = "id"
  · exact .inl ⟨hid, if_pos hid⟩
  by_cases hcontent : name = "content"
  · exact .inr (.inl ⟨hcontent, (if_neg hid).trans (if_pos hcontent)⟩)
  rw [if_neg hid, if_neg hcontent]
  by_cases hmetadata : name = "metadata"
  · exact .inr (.inr (.inl ⟨hmetadata, if_pos hmetadata⟩))
  · refine .inr (.inr (.inr ⟨?_, if_neg hmetadata⟩))
    simp [hid, hcontent, hmetadata]

theorem addValue_score : (addValue d name v).score = d.score := by
  obtain ⟨-, h⟩ | ⟨-, h⟩ | ⟨-, h⟩ | ⟨-, h⟩ := addValue_cases d name v
  · rw [h]
  · rw [h]
  · rw [h]
  · rw [h]
    rfl

theorem addValue_id : (addValue d name v).id = if name = "id" then textOf v else d.id := by
  obtain ⟨rfl, h⟩ | ⟨rfl, h⟩ | ⟨rfl, h⟩ | ⟨hname, h⟩ := addValue_cases d name v
  · rw [h, if_pos rfl]
  · rw [h, if_neg (by decide)]
  · rw [h, if_neg (by decide)]
  · rw [h, if_neg fun hid => hname (by simp [hid])]
    rfl

theorem addValue_content :
    (addValue d name v).content = if name = "content" then textOf v else d.content := by
  obtain ⟨rfl, h⟩ | ⟨rfl, h⟩ | ⟨rfl, h⟩ | ⟨hname, h⟩ := addValue_cases d name v
  · rw [h, if_neg (by decide)]
  · rw [h, if_pos rfl]
  · rw [h, if_neg (by decide)]
  · rw [h, if_neg fun hcontent => hname (by simp [hcontent])]
    rfl

theorem addValue_metadata {k : String} (hk : k = name → k ∈ ["id", "content", "metadata"]) :
    (addValue d name v).metadata.get? k =
      (if name = "metadata" then (metadataMembers v).reverse.lookup k else none).or
        (d.metadata.get? k) := by
  obtain ⟨rfl, h⟩ | ⟨rfl, h⟩ | ⟨rfl, h⟩ | ⟨hname, h⟩ := addValue_cases d name v
  · rw [h, if_neg (by decide), Option.none_or]
  · rw [h, if_neg (by decide), Option.none_or]
  · rw [h, if_pos rfl]
    exact Dict.get?_insertMany_eq ..
  · have hne : k ≠ name := by
      rintro rfl
      exact hname (hk rfl)
    rw [h, if_neg fun hmetadata => hname (by simp [hmetadata]), Option.none_or]
    exact Dict.get?_insert_of_ne _ _ hne

theorem addValue_metadata_self {k : String} (hk : k ∉ ["id", "content", "metadata"]) :
    (addValue d k v).metadata.get? k = some v := by
  obtain ⟨rfl, -⟩ | ⟨rfl, -⟩ | ⟨rfl, -⟩ | ⟨-, h⟩ := addValue_cases d k v
  · exact absurd (by decide) hk
  · exact absurd (by decide) hk
  · exact absurd (by decide) hk
  · rw [h]
    exact Dict.get?_insert_self ..

end

theorem foldl_addValue (value : String → Json) (names : List String) (d : Document) :
    let e := names.foldl (fun d name => addValue d name (value name)) d
    e.score = d.score ∧
      e.id = (if "id" ∈ names then textOf (value "id") else d.id) ∧
      e.content = (if "content" ∈ names then textOf (value "content") else d.content) ∧
      ∀ k, (k ∈ names → k ∈ ["id", "content", "metadata"]) → e.metadata.get? k =
        (if "metadata" ∈ names then (metadataMembers (value "metadata")).reverse.lookup k
          else none).or (d.metadata.get? k) := by
  induction names generalizing d with
  | nil => exact ⟨rfl, rfl, rfl, fun k _ => rfl⟩
  | cons name names ih =>
    obtain ⟨hscore, hid, hcontent, hmetadata⟩ := ih (addValue d name (value name))
    refine ⟨hscore.trans (addValue_score ..), hid.trans ?_, hcontent.trans ?_, fun k hk => ?_⟩
    · rw [addValue_id]
      by_cases hname : name = "id"
      · subst hname
        simp
      · simp [hname, Ne.symm hname]
    · rw [addValue_content]
      by_cases hname : name = "content"
      · subst hname
        simp
      · simp [hname, Ne.symm hname]
    · refine (hmetadata k fun hmem => hk (List.mem_cons_of_mem _ hmem)).trans ?_
      rw [addValue_metadata _ _ _ fun hname => hk (hname ▸ List.mem_cons_self ..)]
      by_cases hname : name = "metadata"
      · subst hname
        rw [if_pos rfl, if_pos (List.mem_cons_self ..)]
        split
        · rw [← Option.or_assoc, Option.or_self]
        · rw [Option.none_or]
      · simp [hname, Ne.symm hname]

/-- What a row gives under these names, null standing for what it lacks. -/
def gathered (scored : Bool) (names : List String) (row : Json) : Document :=
  (names.filter fun k => !(scored && k == distanceKey)).foldl
    (fun d name => addValue d name ((row.get? name).getD .null))
    { Document.blank "" "" with score := if scored then some (rowScore row).toDouble else none }

theorem document_ofRows {scored : Bool} {rows : List Json} {row : Json} {i : Nat}
    (h : rows[i]? = some row) :
    (ofRows scored rows).document i = gathered scored (columnNames rows) row := by
  have hvalue : ∀ d name, addColumn i d (column rows name) =
      addValue d name ((row.get? name).getD .null) := by
    intro d name
    have hrow : (column rows name).values[i]? = some ((row.get? name).getD .null) := by
      rw [column, List.getElem?_map, h]
      rfl
    rw [addColumn, hrow]
    rfl
  have hscore : ((ofRows scored rows).scores[i]?).map Single.toDouble =
      if scored then some (rowScore row).toDouble else none := by
    cases scored with
    | false => rfl
    | true =>
      rw [ofRows, if_pos rfl, List.getElem?_map, h]
      rfl
  rw [document, hscore, gathered]
  simp only [ofRows, List.foldl_map, hvalue]

end ResultSet

/-- The row holds the document, and all else it holds has one of these names. -/
structure Holds (names : List String) (d : Document) (row : Json) : Prop where
  id : row.get? "id" = some (.str d.id)
  content : row.get? "content" = some (.str d.content)
  metadata : row.get? "metadata" = some (.ofDict d.metadata)
  keys : ∀ k ∈ ResultSet.rowKeys row, k ∈ ["id", "content", "metadata"] ++ names

structure Hit where
  document : Document
  row : Json
  distance : Json

namespace Hit

def toJson (h : Hit) : Json :=
  match h.row with
  | .obj ms => .ofMembers (ms ++ [(distanceKey, h.distance)])
  | row => row

/-- A document made from a hit: the stored one with a score, but for metadata of these names. -/
structure Gives (names : List String) (h : Hit) (e : Document) : Prop where
  id : e.id = h.document.id
  content : e.content = h.document.content
  score : ∃ x, h.distance.asDouble? = some x ∧ e.score = some x.toSingle.toDouble
  metadata : ∀ k ∉ names, e.metadata.get? k = h.document.metadata.get? k

variable {names : List String} {h : Hit}

theorem get?_toJson (hrow : Holds names h.document h.row) (k : String) :
    h.toJson.get? k = if k = distanceKey then some h.distance else h.row.get? k := by
  have hid := hrow.id
  unfold toJson
  split
  · rename_i ms hobj
    rw [Json.get?_ofMembers_concat, hobj]
  · rename_i hobj
    cases hj : h.row with
    | obj ms => exact absurd hj (hobj ms)
    | _ => rw [hj] at hid; cases hid

theorem mem_rowKeys_toJson (hrow : Holds names h.document h.row) {k : String}
    (hk : k ∈ ResultSet.rowKeys h.toJson) :
    k = distanceKey ∨ k ∈ ["id", "content", "metadata"] ++ names := by
  unfold toJson at hk
  split at hk
  · rename_i ms hobj
    have hmem := ResultSet.mem_rowKeys_ofMembers hk
    rw [List.map_append, List.mem_append] at hmem
    rcases hmem with hmem | hmem
    · exact .inr (hrow.keys k (hobj ▸ hmem))
    · exact .inl (List.mem_singleton.1 hmem)
  · exact .inr (hrow.keys k hk)

section

variable {hits : List Hit} (hholds : ∀ h ∈ hits, Holds names h.document h.row)
include hholds

theorem gives_document (hh : h ∈ hits) (hdistance : h.distance.asDouble?.isSome = true) {i : Nat}
    (hi : hits[i]? = some h) :
    Gives names h ((ResultSet.ofRows true (hits.map toJson)).document i) := by
  have hrow : (hits.map toJson)[i]? = some h.toJson := by rw [List.getElem?_map, hi, Option.map_some]
  have hown := hholds h hh
  have hid : h.toJson.get? "id" = some (.str h.document.id) := (get?_toJson hown _).trans hown.id
  have hcontent : h.toJson.get? "content" = some (.str h.document.content) :=
    (get?_toJson hown _).trans hown.content
  have hmetadata : h.toJson.get? "metadata" = some (.ofDict h.document.metadata) :=
    (get?_toJson hown _).trans hown.metadata
  have hscore : ∃ x, h.distance.asDouble? = some x ∧ ResultSet.rowScore h.toJson = x.toSingle := by
    obtain ⟨x, hx⟩ := Option.isSome_iff_exists.1 hdistance
    refine ⟨x, hx, ?_⟩
    rw [ResultSet.rowScore, get?_toJson hown, if_pos rfl, Option.bind_some, hx]
  -- Which columns there are is up to all hits; here only two facts about them count.
  generalize hcolumns : ((ResultSet.columnNames (hits.map toJson)).filter
    fun k => !(true && k == distanceKey)) = columns
  have hfound : ∀ k v, k ≠ distanceKey → h.toJson.get? k = some v → k ∈ columns := by
    intro k v hk hv
    rw [← hcolumns, List.mem_filter, ResultSet.mem_columnNames]
    exact ⟨⟨_, List.mem_map_of_mem hh, ResultSet.mem_rowKeys_of_get? hv⟩, by simpa using hk⟩
  have hothers : ∀ k ∉ names, k ∈ columns → k ∈ ["id", "content", "metadata"] := by
    intro k hk hmem
    rw [← hcolumns, List.mem_filter, ResultSet.mem_columnNames] at hmem
    obtain ⟨⟨_, hrow, hkey⟩, hdistance⟩ := hmem
    obtain ⟨g, hg, rfl⟩ := List.mem_map.1 hrow
    rcases mem_rowKeys_toJson (hholds g hg) hkey with rfl | hkey
    · cases hdistance
    · exact (List.mem_append.1 hkey).resolve_right hk
  rw [ResultSet.document_ofRows hrow, ResultSet.gathered, hcolumns]
  obtain ⟨hs, hi, hc, hm⟩ := ResultSet.foldl_addValue
    (fun name => (h.toJson.get? name).getD .null) columns
    { Document.blank "" "" with score := some (ResultSet.rowScore h.toJson).toDouble }
  refine ⟨hi.trans ?_, hc.trans ?_, ?_, fun k hk => (hm k (hothers k hk)).trans ?_⟩
  · rw [if_pos (hfound _ _ (by decide) hid), hid]
    rfl
  · rw [if_pos (hfound _ _ (by decide) hcontent), hcontent]
    rfl
  · obtain ⟨x, hx, hrounded⟩ := hscore
    exact ⟨x, hx, hs.trans (by rw [hrounded])⟩
  · rw [if_pos (hfound _ _ (by decide) hmetadata), hmetadata]
    exact (Option.or_none).trans (Json.get?_ofDict h.document.metadata k)

theorem gives_documents (hdistance : ∀ h ∈ hits, h.distance.asDouble?.isSome = true) :
    List.Forall₂ (Gives names) hits (ResultSet.ofRows true (hits.map toJson)).documents := by
  have hlength : (ResultSet.ofRows true (hits.map toJson)).documents.length = hits.length := by
    rw [ResultSet.documents, List.length_map, List.length_range, ResultSet.ofRows, List.length_map]
  refine List.forall₂_iff_get.2 ⟨hlength.symm, fun i hi hj => ?_⟩
  have hmem : hits[i] ∈ hits := List.getElem_mem hi
  have hdocument := gives_document hholds hmem (hdistance _ hmem) (List.getElem?_eq_getElem hi)
  simpa only [List.get_eq_getElem, ResultSet.documents, List.getElem_map, List.getElem_range]
    using hdocument

end

end Hit

end ChatRetrieval.Milvus
