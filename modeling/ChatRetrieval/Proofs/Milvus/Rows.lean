import ChatRetrieval.Milvus.Retriever
import ChatRetrieval.Proofs.Milvus.Documents

/-!
The rows of one reply. A result keeps its rows as columns over the names of all of them, so a row is
read as if it said null under every name that it lacks and another row has.
-/

namespace ChatRetrieval.Milvus

namespace ResultSet

variable {scored : Bool} {names : List String} {row : Json} {k : String}

def alone (scored : Bool) (row : Json) : Document := (ofRows scored [row]).document 0

/-- The row with null under each of these names that it lacks. -/
def padded (names : List String) (row : Json) : Json :=
  .obj (names.map fun k => (k, (row.get? k).getD .null))

/-- A name whose column becomes metadata of that name. -/
def Extra (scored : Bool) (k : String) : Prop :=
  k ∉ ["id", "content", "metadata"] ∧ ¬(scored = true ∧ k = distanceKey)

def rowMetadata (row : Json) : List (String × Json) :=
  metadataMembers ((row.get? "metadata").getD .null)

theorem alone_eq (scored : Bool) (row : Json) :
    alone scored row = gathered scored (columnNames [row]) row := document_ofRows rfl

theorem foldl_addName {keys : List String} (h : (names ++ keys).Nodup) :
    keys.foldl (fun names k => if names.contains k then names else names ++ [k]) names =
      names ++ keys := by
  induction keys generalizing names with
  | nil => rw [List.foldl_nil, List.append_nil]
  | cons key keys ih =>
    have hnew : key ∉ names := by
      intro hmem
      exact (List.nodup_append.1 h).2.2 key hmem key (List.mem_cons_self ..) rfl
    have hrest : ((names ++ [key]) ++ keys).Nodup := by
      rwa [List.append_assoc, List.singleton_append]
    rw [List.foldl_cons, if_neg (by simpa using hnew), ih hrest, List.append_assoc,
      List.singleton_append]

theorem columnNames_singleton (h : (rowKeys row).Nodup) : columnNames [row] = rowKeys row := by
  rw [columnNames, List.flatMap_singleton, foldl_addName (by rwa [List.nil_append]), List.nil_append]

theorem nodup_columnNames (rows : List Json) : (columnNames rows).Nodup := by
  have hfold : ∀ (keys names : List String), names.Nodup → (keys.foldl
      (fun names k => if names.contains k then names else names ++ [k]) names).Nodup := by
    intro keys
    induction keys with
    | nil => exact fun _ h => h
    | cons key keys ih =>
      intro names h
      rw [List.foldl_cons]
      apply ih
      split
      · exact h
      · rename_i hkey
        rw [List.contains_iff_mem] at hkey
        refine List.nodup_append.2 ⟨h, by simp, ?_⟩
        rintro k hk _ hlast rfl
        exact hkey (List.mem_singleton.1 hlast ▸ hk)
  exact hfold _ _ List.nodup_nil

theorem rowKeys_subset_columnNames {rows : List Json} (h : row ∈ rows) :
    rowKeys row ⊆ columnNames rows := by
  intro k hk
  exact mem_columnNames.2 ⟨row, h, hk⟩

theorem mem_columnNames_singleton : k ∈ columnNames [row] ↔ k ∈ rowKeys row := by
  rw [mem_columnNames]
  simp

theorem rowKeys_subset_own : rowKeys row ⊆ columnNames [row] :=
  rowKeys_subset_columnNames (List.mem_singleton_self row)

theorem get?_eq_none_of_lacking (h : k ∉ rowKeys row) : row.get? k = none :=
  Option.eq_none_iff_forall_ne_some.2 fun _ hv => h (mem_rowKeys_of_get? hv)

section padding

theorem rowKeys_padded : rowKeys (padded names row) = names := by
  simp only [rowKeys, padded, List.map_map, Function.comp_def, List.map_id']

theorem get?_padded : (padded names row).get? k =
    if k ∈ names then some ((row.get? k).getD .null) else none := by
  have hlookup : ∀ l : List String, (l.map fun k => (k, (row.get? k).getD .null)).lookup k =
      if k ∈ l then some ((row.get? k).getD .null) else none := by
    intro l
    induction l with
    | nil => rfl
    | cons name l ih =>
      rw [List.map_cons, lookup_cons_eq_ite, ih]
      by_cases hk : k = name
      · subst hk
        rw [if_pos rfl, if_pos (List.mem_cons_self ..)]
      · rw [if_neg hk]
        simp only [List.mem_cons, hk, false_or]
  rw [padded, Json.get?, ← List.map_reverse, hlookup]
  simp only [List.mem_reverse]

theorem rowScore_padded (h : rowKeys row ⊆ names) : rowScore (padded names row) = rowScore row := by
  have hdistance : ((padded names row).get? distanceKey).bind Json.asDouble? =
      (row.get? distanceKey).bind Json.asDouble? := by
    by_cases hmem : distanceKey ∈ names
    · -- A null is no score, and neither is nothing.
      rw [get?_padded, if_pos hmem]
      cases row.get? distanceKey <;> rfl
    · rw [get?_padded, if_neg hmem, get?_eq_none_of_lacking fun hkey => hmem (h hkey)]
  rw [rowScore, rowScore, hdistance]

theorem gathered_padded (h : rowKeys row ⊆ names) :
    gathered scored names (padded names row) = gathered scored names row := by
  rw [gathered, gathered, rowScore_padded h]
  apply List.foldl_ext
  intro d name hname
  rw [get?_padded, if_pos (List.mem_filter.1 hname).1, Option.getD_some]

theorem document_eq_alone {rows : List Json} {i : Nat} (h : rows[i]? = some row) :
    (ofRows scored rows).document i = alone scored (padded (columnNames rows) row) := by
  have hnames : columnNames [padded (columnNames rows) row] = columnNames rows := by
    rw [columnNames_singleton (rowKeys_padded ▸ nodup_columnNames rows), rowKeys_padded]
  rw [document_ofRows h, alone_eq, hnames,
    gathered_padded (rowKeys_subset_columnNames (List.mem_of_getElem? h))]

theorem documents_ofRows (scored : Bool) (rows : List Json) :
    (ofRows scored rows).documents =
      rows.map fun row => alone scored (padded (columnNames rows) row) := by
  have hlength : (ofRows scored rows).documents.length = rows.length := by
    rw [documents, List.length_map, List.length_range, ofRows]
  refine List.ext_getElem (by rw [hlength, List.length_map]) fun i hi _ => ?_
  simp only [documents, List.getElem_map, List.getElem_range]
  exact document_eq_alone (List.getElem?_eq_getElem (hlength ▸ hi))

end padding

section gathering

theorem addValue_vectors (d : Document) (name : String) (v : Json) :
    (addValue d name v).denseVector = d.denseVector ∧
      (addValue d name v).sparseVector = d.sparseVector := by
  obtain ⟨-, h⟩ | ⟨-, h⟩ | ⟨-, h⟩ | ⟨-, h⟩ := addValue_cases d name v
  · rw [h]
    exact ⟨rfl, rfl⟩
  · rw [h]
    exact ⟨rfl, rfl⟩
  · rw [h]
    exact ⟨rfl, rfl⟩
  · rw [h]
    exact ⟨rfl, rfl⟩

theorem foldl_addValue_vectors (value : String → Json) (names : List String) (d : Document) :
    let e := names.foldl (fun d name => addValue d name (value name)) d
    e.denseVector = d.denseVector ∧ e.sparseVector = d.sparseVector := by
  induction names generalizing d with
  | nil => exact ⟨rfl, rfl⟩
  | cons name names ih =>
    obtain ⟨hdense, hsparse⟩ := ih (addValue d name (value name))
    obtain ⟨hdense', hsparse'⟩ := addValue_vectors d name (value name)
    exact ⟨hdense.trans hdense', hsparse.trans hsparse'⟩

theorem foldl_addValue_extra (value : String → Json) (hk : k ∉ ["id", "content", "metadata"])
    (hmember : k ∉ (metadataMembers (value "metadata")).map (·.1)) (names : List String)
    (d : Document) :
    (names.foldl (fun d name => addValue d name (value name)) d).metadata.get? k =
      if k ∈ names then some (value k) else d.metadata.get? k := by
  induction names generalizing d with
  | nil => rfl
  | cons name names ih =>
    have hstep : (addValue d name (value name)).metadata.get? k =
        if k = name then some (value k) else d.metadata.get? k := by
      by_cases hname : k = name
      · subst hname
        rw [if_pos rfl]
        exact addValue_metadata_self d (value k) hk
      · rw [addValue_metadata _ _ _ fun h => absurd h hname, if_neg hname]
        split
        · rename_i hmetadata
          subst hmetadata
          rw [lookup_eq_none_of_notMem, Option.none_or]
          rwa [List.map_reverse, List.mem_reverse]
        · rw [Option.none_or]
    rw [List.foldl_cons, ih, hstep]
    by_cases hname : k = name
    · rw [if_pos hname, ite_self, if_pos (hname ▸ List.mem_cons_self ..)]
    · simp only [List.mem_cons, hname, false_or, if_false]

theorem mem_kept : k ∈ names.filter (fun k => !(scored && k == distanceKey)) ↔
    k ∈ names ∧ ¬(scored = true ∧ k = distanceKey) := by
  rw [List.mem_filter]
  cases scored <;> simp

theorem mem_kept_of_fixed (hk : k ∈ ["id", "content", "metadata"]) :
    k ∈ names.filter (fun k => !(scored && k == distanceKey)) ↔ k ∈ names := by
  have hdistance : k ≠ distanceKey := by
    rintro rfl
    exact absurd hk (by decide)
  rw [mem_kept]
  simp [hdistance]

theorem gathered_fields (scored : Bool) (names : List String) (row : Json) :
    let e := gathered scored names row
    e.score = (if scored then some (rowScore row).toDouble else none) ∧
      e.id = (if "id" ∈ names then textOf ((row.get? "id").getD .null) else "") ∧
      e.content = (if "content" ∈ names then textOf ((row.get? "content").getD .null) else "") ∧
      ∀ k, (k ∈ names → ¬Extra scored k) → e.metadata.get? k =
        if "metadata" ∈ names then (rowMetadata row).reverse.lookup k else none := by
  obtain ⟨hscore, hid, hcontent, hmetadata⟩ :=
    foldl_addValue (fun name => (row.get? name).getD .null)
      (names.filter fun k => !(scored && k == distanceKey))
      { Document.blank "" "" with score := if scored then some (rowScore row).toDouble else none }
  simp only [mem_kept_of_fixed (k := "id") (by decide)] at hid
  simp only [mem_kept_of_fixed (k := "content") (by decide)] at hcontent
  simp only [mem_kept_of_fixed (k := "metadata") (by decide)] at hmetadata
  refine ⟨hscore, hid, hcontent, fun k hk => (hmetadata k fun hmem => ?_).trans Option.or_none⟩
  obtain ⟨hname, hkept⟩ := mem_kept.1 hmem
  by_contra hfixed
  exact hk hname ⟨hfixed, hkept⟩

theorem gathered_id : (gathered scored names row).id =
    if "id" ∈ names then textOf ((row.get? "id").getD .null) else "" :=
  (gathered_fields scored names row).2.1

theorem gathered_content : (gathered scored names row).content =
    if "content" ∈ names then textOf ((row.get? "content").getD .null) else "" :=
  (gathered_fields scored names row).2.2.1

theorem gathered_metadata (hrow : rowKeys row ⊆ names) (hk : k ∈ names → ¬Extra scored k) :
    (gathered scored names row).metadata.get? k = (rowMetadata row).reverse.lookup k := by
  refine ((gathered_fields scored names row).2.2.2 k hk).trans ?_
  by_cases hmem : "metadata" ∈ names
  · exact if_pos hmem
  · rw [if_neg hmem, rowMetadata, get?_eq_none_of_lacking fun hkey => hmem (hrow hkey)]
    rfl

theorem gathered_extra (hk : k ∈ names) (hextra : Extra scored k)
    (hmember : k ∉ (rowMetadata row).map (·.1)) :
    (gathered scored names row).metadata.get? k = some ((row.get? k).getD .null) := by
  have hfound := foldl_addValue_extra (fun name => (row.get? name).getD .null) hextra.1 hmember
  refine (hfound _ _).trans ?_
  exact if_pos (mem_kept.2 ⟨hk, hextra.2⟩)

/-- What is gathered under other names differs in id, content or metadata, or not at all. -/
theorem gathered_eq_iff {names' : List String} :
    gathered scored names row = gathered scored names' row ↔
      (gathered scored names row).id = (gathered scored names' row).id ∧
      (gathered scored names row).content = (gathered scored names' row).content ∧
      ∀ k, (gathered scored names row).metadata.get? k =
        (gathered scored names' row).metadata.get? k := by
  constructor
  · intro h
    rw [h]
    exact ⟨rfl, rfl, fun _ => rfl⟩
  · rintro ⟨hid, hcontent, hmetadata⟩
    have hsame : ∀ names, (gathered scored names row).score =
          (if scored then some (rowScore row).toDouble else none) ∧
        (gathered scored names row).denseVector = none ∧
        (gathered scored names row).sparseVector = none := by
      intro names
      exact ⟨(gathered_fields scored names row).1, foldl_addValue_vectors _ _ _⟩
    obtain ⟨hscore, hdense, hsparse⟩ := hsame names
    obtain ⟨hscore', hdense', hsparse'⟩ := hsame names'
    have hall := Dict.ext_get? hmetadata
    generalize gathered scored names row = a at *
    generalize gathered scored names' row = b at *
    cases a
    cases b
    simp_all

end gathering

/-- Metadata has a member that is the name of a column as well, so that the later of the two stays. -/
def Clashes (scored : Bool) (names : List String) (row : Json) : Prop :=
  ∃ k ∈ names, Extra scored k ∧ k ∈ (rowMetadata row).map (·.1)

theorem notMem_rowMetadata (hclash : ¬Clashes scored names row) (hk : k ∈ names)
    (hextra : Extra scored k) : k ∉ (rowMetadata row).map (·.1) :=
  fun hmem => hclash ⟨k, hk, hextra, hmem⟩

theorem textOf_null_ne : textOf .null ≠ "" := by decide

theorem gathered_ne_of_lacking (hclash : ¬Clashes scored names row) (hk : k ∈ names)
    (hkey : k ∉ rowKeys row) (hmetadata : k ≠ "metadata")
    (hdistance : ¬(scored = true ∧ k = distanceKey)) :
    gathered scored names row ≠ gathered scored (columnNames [row]) row := by
  have hnull : (row.get? k).getD .null = .null := by
    rw [get?_eq_none_of_lacking hkey]
    rfl
  have hown : k ∉ columnNames [row] := mt mem_columnNames_singleton.1 hkey
  -- Wherever the name has its place, its null shows there, and the row alone leaves the place empty.
  intro heq
  by_cases hid : k = "id"
  · subst hid
    have hshown := congrArg Document.id heq
    rw [gathered_id, gathered_id, if_pos hk, if_neg hown, hnull] at hshown
    exact textOf_null_ne hshown
  by_cases hcontent : k = "content"
  · subst hcontent
    have hshown := congrArg Document.content heq
    rw [gathered_content, gathered_content, if_pos hk, if_neg hown, hnull] at hshown
    exact textOf_null_ne hshown
  have hextra : Extra scored k := ⟨by simp [hid, hcontent, hmetadata], hdistance⟩
  have hmember := notMem_rowMetadata hclash hk hextra
  have hshown := congrArg (fun d => d.metadata.get? k) heq
  rw [gathered_extra hk hextra hmember,
    gathered_metadata rowKeys_subset_own fun hmem => absurd hmem hown,
    lookup_eq_none_of_notMem (by rwa [List.map_reverse, List.mem_reverse])] at hshown
  cases hshown

theorem gathered_eq_of_lacking (hrow : rowKeys row ⊆ names) (hclash : ¬Clashes scored names row)
    (hlacks : ∀ k ∈ names, k ∈ rowKeys row ∨ k = "metadata" ∨ (scored = true ∧ k = distanceKey)) :
    gathered scored names row = gathered scored (columnNames [row]) row := by
  have hfixed : ∀ k ∈ ["id", "content"], k ∈ names ↔ k ∈ columnNames [row] := by
    intro k hk
    rw [mem_columnNames_singleton]
    refine ⟨fun hmem => (hlacks k hmem).resolve_right ?_, fun hmem => hrow hmem⟩
    rintro (rfl | ⟨-, rfl⟩)
    · exact absurd hk (by decide)
    · exact absurd hk (by decide)
  rw [gathered_eq_iff, gathered_id, gathered_id, gathered_content, gathered_content]
  simp only [hfixed "id" (by decide), hfixed "content" (by decide), true_and]
  -- Metadata comes from the column of its name if there is one, else from the metadata of the row.
  intro k
  by_cases hextra : k ∈ names ∧ Extra scored k
  · obtain ⟨hk, hextra⟩ := hextra
    have hkey : k ∈ rowKeys row := by
      refine (hlacks k hk).resolve_right ?_
      rintro (rfl | hdistance)
      · exact hextra.1 (by decide)
      · exact hextra.2 hdistance
    have hmember := notMem_rowMetadata hclash hk hextra
    rw [gathered_extra hk hextra hmember,
      gathered_extra (mem_columnNames_singleton.2 hkey) hextra hmember]
  · have hnotExtra : k ∈ names → ¬Extra scored k := fun hk h => hextra ⟨hk, h⟩
    rw [gathered_metadata hrow hnotExtra,
      gathered_metadata rowKeys_subset_own fun hk =>
        hnotExtra (hrow (mem_columnNames_singleton.1 hk))]

/-- Nulls show wherever they are put but in the metadata and in the score. -/
theorem alone_padded_eq_iff (hnodup : names.Nodup) (hrow : rowKeys row ⊆ names)
    (hclash : ¬Clashes scored names row) :
    alone scored (padded names row) = alone scored row ↔
      ∀ k ∈ names, k ∈ rowKeys row ∨ k = "metadata" ∨ (scored = true ∧ k = distanceKey) := by
  have hnames : columnNames [padded names row] = names := by
    rw [columnNames_singleton (rowKeys_padded ▸ hnodup), rowKeys_padded]
  rw [alone_eq, alone_eq, hnames, gathered_padded hrow]
  constructor
  · intro heq k hk
    by_contra hlacking
    push Not at hlacking
    obtain ⟨hkey, hmetadata, hdistance⟩ := hlacking
    exact gathered_ne_of_lacking hclash hk hkey hmetadata (fun h => hdistance h.1 h.2) heq
  · exact gathered_eq_of_lacking hrow hclash

/-- A reply gives one document a row, in order: that of the row alone once null stands under every
name that other rows have and it lacks. Rows of the same names come out as alone; a row that lacks a
name comes out otherwise just if that name is not the metadata's or the score's. -/
theorem convert_ofJson (scored : Bool) (rows : List Json) :
    ∃ set, ofJson scored (.arr rows) = .ok set ∧
      RetrieverConfig.default.convert set =
        .ok (rows.map fun row => alone scored (padded (columnNames rows) row)) ∧
      ∀ row ∈ rows,
        (columnNames [row] = columnNames rows →
          alone scored (padded (columnNames rows) row) = alone scored row) ∧
        (¬Clashes scored (columnNames rows) row →
          (alone scored (padded (columnNames rows) row) = alone scored row ↔
            ∀ k ∈ columnNames rows,
              k ∈ rowKeys row ∨ k = "metadata" ∨ (scored = true ∧ k = distanceKey))) := by
  refine ⟨ofRows scored rows, rfl, congrArg Except.ok (documents_ofRows scored rows), ?_⟩
  intro row hrow
  have hsub := rowKeys_subset_columnNames hrow
  refine ⟨fun hnames => ?_, alone_padded_eq_iff (nodup_columnNames rows) hsub⟩
  obtain ⟨i, hi⟩ := List.mem_iff_getElem?.1 hrow
  rw [← document_eq_alone hi, document_ofRows hi, alone_eq, hnames]

/-- A row without an id after one that has it: the second document has an id and a year, which it lacks
if its row is alone. -/
theorem documents_shows_padding :
    let first := Json.obj [("id", .str "a"), ("content", .str "first"), ("year", .int 2001)]
    let second := Json.obj [("content", .str "second")]
    (ofRows false [first, second]).documents[1]? =
        some ((Document.blank "null" "second").insertMetadata "year" .null) ∧
      alone false second = Document.blank "" "second" := by
  decide +kernel

end ResultSet

end ChatRetrieval.Milvus
