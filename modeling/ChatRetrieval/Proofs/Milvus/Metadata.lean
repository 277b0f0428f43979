import ChatRetrieval.Proofs.Milvus.Rows

/-!
The metadata of one document. It is filled from two sides, by the columns of the row's own fields and by the
members of the row's metadata; where both have the same name, the side that comes later stays, which is
the only thing that the order of the columns decides.
-/

namespace ChatRetrieval.Milvus

namespace ResultSet

def cells (r : ResultSet) (row : Nat) : List (String × Json) :=
  r.columns.filterMap fun c => (c.values[row]?).map (c.name, ·)

def own? (cells : List (String × Json)) (k : String) : Option Json :=
  if k ∈ ["id", "content", "metadata"] then none else cells.lookup k

def member? (cells : List (String × Json)) (k : String) : Option Json :=
  (cells.lookup "metadata").bind fun v => (metadataMembers v).reverse.lookup k

/-- The column of a name stands in front of the metadata. -/
def Precedes (cells : List (String × Json)) (k : String) : Prop :=
  [k, "metadata"].Sublist (cells.map (·.1))

instance (cells : List (String × Json)) (k : String) : Decidable (Precedes cells k) :=
  inferInstanceAs (Decidable (List.Sublist _ _))

def addCell (d : Document) (cell : String × Json) : Document := addValue d cell.1 cell.2

section

variable {cells : List (String × Json)} {k name : String}

theorem own?_cons_of_ne (v : Json) (h : k ≠ name) : own? ((name, v) :: cells) k = own? cells k := by
  rw [own?, own?, lookup_cons_eq_ite, if_neg h]

theorem own?_of_fixed (h : k ∈ ["id", "content", "metadata"]) : own? cells k = none := if_pos h

theorem own?_eq_none (h : k ∉ cells.map (·.1)) : own? cells k = none := by
  rw [own?, lookup_eq_none_of_notMem h, ite_self]

theorem member?_cons_of_ne (v : Json) (h : name ≠ "metadata") :
    member? ((name, v) :: cells) k = member? cells k := by
  rw [member?, member?, lookup_cons_eq_ite, if_neg (Ne.symm h)]

theorem member?_eq_none (h : "metadata" ∉ cells.map (·.1)) : member? cells k = none := by
  rw [member?, lookup_eq_none_of_notMem h, Option.bind_none]

theorem not_precedes (h : k ∉ cells.map (·.1) ∨ "metadata" ∉ cells.map (·.1)) : ¬Precedes cells k := by
  intro hprecedes
  have hsub := hprecedes.subset
  rcases h with hk | hmetadata
  · exact hk (hsub (List.mem_cons_self ..))
  · exact hmetadata (hsub (List.mem_cons_of_mem _ (List.mem_singleton_self _)))

theorem precedes_cons_self (v : Json) :
    Precedes ((k, v) :: cells) k ↔ "metadata" ∈ cells.map (·.1) ∨ Precedes cells k := by
  rw [Precedes, Precedes, List.map_cons, List.sublist_cons_iff]
  simp [or_comm]

theorem precedes_cons_of_ne (v : Json) (h : k ≠ name) :
    Precedes ((name, v) :: cells) k ↔ Precedes cells k := by
  rw [Precedes, Precedes, List.map_cons, List.sublist_cons_iff]
  simp [h]

theorem get?_foldl_addCell (hnames : (cells.map (·.1)).Nodup) (d : Document) (k : String) :
    (cells.foldl addCell d).metadata.get? k =
      (if Precedes cells k then (member? cells k).or (own? cells k)
        else (own? cells k).or (member? cells k)).or (d.metadata.get? k) := by
  induction cells generalizing d with
  | nil =>
    rw [own?_eq_none List.not_mem_nil, member?_eq_none List.not_mem_nil, Option.none_or, ite_self,
      Option.none_or]
    rfl
  | cons cell cells ih =>
    obtain ⟨name, v⟩ := cell
    obtain ⟨hname, hrest⟩ := List.nodup_cons.1 hnames
    rw [List.foldl_cons, ih hrest, addCell]
    dsimp only
    by_cases hmetadata : name = "metadata"
    · -- Nothing behind the metadata stands in front of it.
      subst hmetadata
      have hown : own? (("metadata", v) :: cells) k = own? cells k := by
        by_cases hk : k = "metadata"
        · subst hk
          rw [own?_of_fixed (by decide), own?_of_fixed (by decide)]
        · exact own?_cons_of_ne v hk
      have hlater : ¬Precedes (("metadata", v) :: cells) k := by
        by_cases hk : k = "metadata"
        · subst hk
          exact (precedes_cons_self v).not.2 (not_or.2 ⟨hname, not_precedes (.inr hname)⟩)
        · exact (precedes_cons_of_ne v hk).not.2 (not_precedes (.inr hname))
      have hmember : member? (("metadata", v) :: cells) k = (metadataMembers v).reverse.lookup k := by
        rw [member?, List.lookup_cons_self, Option.bind_some]
      rw [if_neg (not_precedes (.inr hname)), if_neg hlater, hown, hmember, member?_eq_none hname,
        addValue_metadata d _ v fun hk => by rw [hk]; decide, if_pos rfl, Option.or_none, Option.or_assoc]
    by_cases hk : k = name
    · subst hk
      rw [if_neg (not_precedes (.inl hname)), own?_eq_none hname, Option.none_or,
        member?_cons_of_ne v hmetadata]
      by_cases hfixed : k ∈ ["id", "content", "metadata"]
      · rw [own?_of_fixed hfixed, addValue_metadata d k v fun _ => hfixed, if_neg hmetadata,
          Option.none_or, Option.none_or, Option.or_none, ite_self]
      · rw [own?, if_neg hfixed, List.lookup_cons_self, addValue_metadata_self d v hfixed]
        by_cases hlater : "metadata" ∈ cells.map (·.1)
        · rw [if_pos ((precedes_cons_self v).2 (.inl hlater)), Option.or_assoc, Option.some_or]
        · rw [if_neg ((precedes_cons_self v).not.2 (not_or.2 ⟨hlater, not_precedes (.inl hname)⟩)),
            member?_eq_none hlater, Option.none_or, Option.or_none, Option.some_or]
    · rw [own?_cons_of_ne v hk, member?_cons_of_ne v hmetadata,
        addValue_metadata d name v fun h => absurd h hk, if_neg hmetadata, Option.none_or]
      simp only [precedes_cons_of_ne v hk]

theorem map_lookup_keys (hnames : (cells.map (·.1)).Nodup) :
    (cells.map (·.1)).map (fun name => (name, (cells.lookup name).getD .null)) = cells := by
  rw [List.map_map]
  refine (List.map_congr_left fun cell hcell => ?_).trans (List.map_id cells)
  have hfound : cells.lookup cell.1 = some cell.2 := (lookup_eq_some_iff_mem hnames).2 hcell
  simp only [Function.comp_apply, hfound, Option.getD_some, id_eq]

theorem foldl_addCell_others (hnames : (cells.map (·.1)).Nodup) (d : Document) :
    let e := cells.foldl addCell d
    e.score = d.score ∧ e.denseVector = d.denseVector ∧ e.sparseVector = d.sparseVector ∧
      e.id = (if "id" ∈ cells.map (·.1) then textOf ((cells.lookup "id").getD .null) else d.id) ∧
      e.content = (if "content" ∈ cells.map (·.1) then textOf ((cells.lookup "content").getD .null)
        else d.content) := by
  have hfold : cells.foldl addCell d = (cells.map (·.1)).foldl
      (fun d name => addValue d name ((cells.lookup name).getD .null)) d := by
    conv_lhs => rw [← map_lookup_keys hnames, List.foldl_map]
    rfl
  obtain ⟨hscore, hid, hcontent, -⟩ :=
    foldl_addValue (fun name => (cells.lookup name).getD .null) (cells.map (·.1)) d
  obtain ⟨hdense, hsparse⟩ :=
    foldl_addValue_vectors (fun name => (cells.lookup name).getD .null) (cells.map (·.1)) d
  rw [hfold]
  exact ⟨hscore, hdense, hsparse, hid, hcontent⟩

end

section

variable {r : ResultSet} {row : Nat}

theorem document_eq_foldl (r : ResultSet) (row : Nat) : r.document row =
    (r.cells row).foldl addCell
      { Document.blank "" "" with score := (r.scores[row]?).map Single.toDouble } := by
  rw [document, cells, List.foldl_filterMap]
  refine List.foldl_ext _ _ _ fun d c _ => ?_
  rw [addColumn]
  cases c.values[row]? <;> rfl

theorem nodup_cells (hnames : (r.columns.map (·.name)).Nodup) :
    ((r.cells row).map (·.1)).Nodup := by
  rw [List.Nodup, List.pairwise_map] at hnames ⊢
  rw [cells, List.pairwise_filterMap]
  refine hnames.imp fun {c c'} hne cell hcell cell' hcell' => ?_
  obtain ⟨v, -, rfl⟩ := Option.map_eq_some_iff.1 hcell
  obtain ⟨v', -, rfl⟩ := Option.map_eq_some_iff.1 hcell'
  exact hne

theorem foldl_addCell_perm {cells cells' : List (String × Json)} (hperm : cells'.Perm cells)
    (hnames : (cells.map (·.1)).Nodup) (d : Document) :
    cells'.foldl addCell d =
      { cells.foldl addCell d with metadata := (cells'.foldl addCell d).metadata } := by
  have hnames' : (cells'.map (·.1)).Nodup := (hperm.map (·.1)).nodup_iff.2 hnames
  have hmem (k : String) : k ∈ cells'.map (·.1) ↔ k ∈ cells.map (·.1) := (hperm.map (·.1)).mem_iff
  obtain ⟨hscore, hdense, hsparse, hid, hcontent⟩ := foldl_addCell_others hnames d
  obtain ⟨hscore', hdense', hsparse', hid', hcontent'⟩ := foldl_addCell_others hnames' d
  simp only [hmem, lookup_perm hperm hnames'] at hid' hcontent'
  generalize cells.foldl addCell d = a at *
  generalize cells'.foldl addCell d = b at *
  cases a
  cases b
  simp_all

theorem own?_perm {cells cells' : List (String × Json)} (hperm : cells'.Perm cells)
    (hnames : (cells'.map (·.1)).Nodup) (k : String) : own? cells' k = own? cells k := by
  rw [own?, own?, lookup_perm hperm hnames]

theorem member?_perm {cells cells' : List (String × Json)} (hperm : cells'.Perm cells)
    (hnames : (cells'.map (·.1)).Nodup) (k : String) : member? cells' k = member? cells k := by
  rw [member?, member?, lookup_perm hperm hnames]

theorem merge_eq_iff {α : Type} (own member : Option α) (p p' : Prop) [Decidable p] [Decidable p'] :
    ((if p' then member.or own else own.or member) = if p then member.or own else own.or member) ↔
      ∀ v w, own = some v → member = some w → v ≠ w → (p' ↔ p) := by
  cases own with
  | none => simp
  | some v =>
    cases member with
    | none => simp
    | some w =>
      by_cases hp : p <;> by_cases hp' : p' <;> simp [hp, hp', eq_comm]

theorem cells_perm {r r' : ResultSet} (h : r'.columns.Perm r.columns) (row : Nat) :
    (r'.cells row).Perm (r.cells row) := h.filterMap _

theorem own?_cells (hnames : (r.columns.map (·.name)).Nodup) {c : ResultColumn} (hc : c ∈ r.columns)
    (hname : c.name ∉ ["id", "content", "metadata"]) {v : Json} (hv : c.values[row]? = some v) :
    own? (r.cells row) c.name = some v := by
  have hcell : (c.name, v) ∈ r.cells row := List.mem_filterMap.2 ⟨c, hc, by rw [hv, Option.map_some]⟩
  rw [own?, if_neg hname]
  exact (lookup_eq_some_iff_mem (nodup_cells hnames)).2 hcell

theorem get?_document (hnames : (r.columns.map (·.name)).Nodup) (row : Nat) (k : String) :
    (r.document row).metadata.get? k =
      if Precedes (r.cells row) k then (member? (r.cells row) k).or (own? (r.cells row) k)
      else (own? (r.cells row) k).or (member? (r.cells row) k) := by
  rw [document_eq_foldl, get?_foldl_addCell (nodup_cells hnames)]
  exact Option.or_none

/-- Another order of the columns gives the same document just if it turns no column and member of one
name and different values round. -/
theorem document_perm_iff (hnames : (r.columns.map (·.name)).Nodup) {r' : ResultSet}
    (hscores : r'.scores = r.scores) (hperm : r'.columns.Perm r.columns) :
    r'.document row = r.document row ↔ ∀ k v w, own? (r.cells row) k = some v →
      member? (r.cells row) k = some w → v ≠ w →
        (Precedes (r'.cells row) k ↔ Precedes (r.cells row) k) := by
  have hnames' : (r'.columns.map (·.name)).Nodup := (hperm.map (·.name)).nodup_iff.2 hnames
  have hcells := cells_perm hperm row
  have hmetadata : r'.document row = r.document row ↔
      ∀ k, (r'.document row).metadata.get? k = (r.document row).metadata.get? k := by
    refine ⟨fun h k => by rw [h], fun h => ?_⟩
    have hsame := Dict.ext_get? h
    rw [document_eq_foldl r, document_eq_foldl r', hscores] at hsame ⊢
    rw [foldl_addCell_perm hcells (nodup_cells hnames), hsame]
  rw [hmetadata]
  refine forall_congr' fun k => ?_
  rw [get?_document hnames', get?_document hnames, own?_perm hcells (nodup_cells hnames'),
    member?_perm hcells (nodup_cells hnames'), merge_eq_iff]

end

/-- Each other column is found as metadata of its name, unless the row's metadata comes later and has a
member of that name with another value, and under any other name the members of the row's metadata are
found. Another order of the columns gives the same document just if it turns no column and member of
one name and different values round. -/
theorem documents_merge (r : ResultSet) (hnames : (r.columns.map (·.name)).Nodup) (row : Nat)
    (hrow : row < r.size) :
    ∃ d, r.documents[row]? = some d ∧
      (∀ c ∈ r.columns, c.name ∉ ["id", "content", "metadata"] → ∀ v, c.values[row]? = some v →
        (d.metadata.get? c.name = some v ↔ ∀ w, member? (r.cells row) c.name = some w → w ≠ v →
          ¬Precedes (r.cells row) c.name)) ∧
      (∀ k, own? (r.cells row) k = none → d.metadata.get? k = member? (r.cells row) k) ∧
      ∀ r' : ResultSet, r'.size = r.size → r'.scores = r.scores → r'.columns.Perm r.columns →
        (r'.documents[row]? = some d ↔ ∀ k v w, own? (r.cells row) k = some v →
          member? (r.cells row) k = some w → v ≠ w →
            (Precedes (r'.cells row) k ↔ Precedes (r.cells row) k)) := by
  have hdocument {r : ResultSet} (h : row < r.size) : r.documents[row]? = some (r.document row) := by
    rw [documents, List.getElem?_map, List.getElem?_range h, Option.map_some]
  refine ⟨r.document row, hdocument hrow, ?_, ?_, ?_⟩
  · intro c hc hname v hv
    rw [get?_document hnames, own?_cells hnames hc hname hv]
    cases member? (r.cells row) c.name with
    | none => simp
    | some w => by_cases hlater : Precedes (r.cells row) c.name <;> simp [hlater]
  · intro k hk
    rw [get?_document hnames, hk, Option.none_or, Option.or_none, ite_self]
  · intro r' hsize hscores hperm
    rw [hdocument (hsize ▸ hrow), Option.some_inj, document_perm_iff hnames hscores hperm]

def book : ResultSet where
  size := 1
  scores := []
  columns := [⟨"author", [.str "Ann"]⟩,
    ⟨"metadata", [.obj [("author", .str "Bob"), ("shelf", .int 3)]]⟩, ⟨"year", [.int 2001]⟩]

theorem documents_merge_book :
    (book.columns.map (·.name)).Nodup ∧ 0 < book.size ∧
      ∃ d, book.documents[0]? = some d ∧ d.metadata.get? "year" = some (.int 2001) ∧
        d.metadata.get? "shelf" = some (.int 3) ∧ d.metadata.get? "author" ≠ some (.str "Ann") := by
  have hnames : (book.columns.map (·.name)).Nodup := by decide
  have hrow : 0 < book.size := by decide
  obtain ⟨d, hd, hown, hmember, -⟩ := documents_merge book hnames 0 hrow
  have hyear := hown ⟨"year", [.int 2001]⟩ (by decide) (by decide) (.int 2001) rfl
  have hauthor := hown ⟨"author", [.str "Ann"]⟩ (by decide) (by decide) (.str "Ann") rfl
  have hunshared : member? (book.cells 0) "year" = none := by decide
  refine ⟨hnames, hrow, d, hd, hyear.2 fun w hw => ?_, hmember "shelf" (by decide), fun hfound => ?_⟩
  · cases hunshared.symm.trans hw
  · exact hauthor.1 hfound (.str "Bob") (by decide) (by decide) (by decide)

/-- The metadata of a row hides the author in the row itself, and with the columns the other way round it
does not. -/
theorem documents_hides_column :
    let author : ResultColumn := ⟨"author", [.str "Ann"]⟩
    let metadata : ResultColumn := ⟨"metadata", [.obj [("author", .str "Bob")]]⟩
    let row := Json.obj [("author", .str "Ann"), ("metadata", .obj [("author", .str "Bob")])]
    ofRows false [row] = ⟨1, [], [author, metadata]⟩ ∧
      (⟨1, [], [author, metadata]⟩ : ResultSet).documents =
        [(Document.blank "" "").insertMetadata "author" (.str "Bob")] ∧
      (⟨1, [], [metadata, author]⟩ : ResultSet).documents =
        [(Document.blank "" "").insertMetadata "author" (.str "Ann")] := by
  decide +kernel

end ResultSet

end ChatRetrieval.Milvus
