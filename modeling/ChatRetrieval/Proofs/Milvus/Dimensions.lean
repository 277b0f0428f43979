import ChatRetrieval.Proofs.Milvus.Storing

/-!
The dimension of a column of dense vectors. A column declares one for all of its rows, and the rows have it
only as far as the vectors have one length: what is declared is the length of the first.
-/

namespace ChatRetrieval.Milvus

/-- The vectors that are used as made for documents: those that are as many. -/
def madeFor (docs : List Document) (vectors : List (List Double)) : Option (List (List Double)) :=
  if vectors.length = docs.length then some vectors else none

theorem madeFor_covers (docs : List Document) (vectors : List (List Double)) :
    Covers (madeFor docs vectors) docs := by
  intro used hused
  rw [madeFor] at hused
  split at hused
  · rename_i hlength
    cases hused
    exact hlength
  · cases hused

theorem gatherVectors_of_length_ne {n : Nat} {vectors : List (List Double)} (hn : 0 < n)
    (hlength : vectors.length ≠ n) (dense sparse : Bool) (k : Nat) (l : List Document) :
    gatherVectors n vectors dense sparse k l = gatherVectors n [] dense sparse k l := by
  have hown : ∀ i d, denseVector n vectors i d = denseVector n [] i d := by
    intro i d
    have hempty : ([] : List (List Double)).length ≠ n := Nat.ne_of_lt hn
    rw [denseVector, denseVector, if_neg hlength, if_neg hempty]
  induction l generalizing k with
  | nil => rfl
  | cons d l ih => rw [gatherVectors_cons, gatherVectors_cons, hown, ih]

/-- Vectors of another number than the documents count as none. -/
theorem defaultConverter_madeFor (dense sparse : Option String) (docs : List Document)
    (vectors : List (List Double)) :
    defaultConverter dense sparse docs vectors =
      defaultConverter dense sparse docs ((madeFor docs vectors).getD []) := by
  rw [madeFor]
  split
  · rfl
  · rename_i hlength
    cases docs with
    | nil => rfl
    | cons d docs =>
      have hn : 0 < (d :: docs).length := Nat.succ_pos _
      rw [defaultConverter, defaultConverter, gatherVectors_of_length_ne hn hlength]
      rfl

namespace Column

def dense? (c : Column) : Option (Nat × List (List Single)) :=
  match c.data with
  | .floats dimension rows => some (dimension, rows)
  | _ => none

/-- Each row of a column of dense vectors has the declared dimension. -/
def IsRectangular (c : Column) : Prop :=
  ∀ dimension rows, c.dense? = some (dimension, rows) → ∀ row ∈ rows, row.length = dimension

theorem forall_isRectangular_iff {columns : List Column} {dimension : Nat}
    {rows : List (List Single)} (h : columns.filterMap dense? = [(dimension, rows)]) :
    (∀ c ∈ columns, c.IsRectangular) ↔ ∀ row ∈ rows, row.length = dimension := by
  have hmem : ∀ p, (∃ c ∈ columns, c.dense? = some p) ↔ p = (dimension, rows) := by
    intro p
    rw [← List.mem_filterMap, h, List.mem_singleton]
  constructor
  · intro hall
    obtain ⟨c, hc, hdense⟩ := (hmem _).2 rfl
    exact hall c hc dimension rows hdense
  · intro hall c hc dimension' rows' hdense
    cases (hmem _).1 ⟨c, hc, hdense⟩
    exact hall

end Column

theorem defaultConverter_of_made {dense sparse : Option String} {docs : List Document}
    {vectors : List (List Double)} {columns : List Column} :
    defaultConverter dense sparse docs vectors = .ok columns ↔
      (∀ i d, docs[i]? = some d →
        Fills (madeFor docs vectors) dense.isSome sparse.isSome i d) ∧
        columns = columnsOf dense sparse (madeFor docs vectors) docs := by
  rw [defaultConverter_madeFor]
  exact defaultConverter_eq_ok_iff (madeFor_covers docs vectors)

theorem isOk_defaultConverter_iff {dense sparse : Option String} {docs : List Document}
    {vectors : List (List Double)} :
    (defaultConverter dense sparse docs vectors).isOk = true ↔
      ∀ i d, docs[i]? = some d → Fills (madeFor docs vectors) dense.isSome sparse.isSome i d := by
  constructor
  · intro hok
    obtain ⟨columns, hcolumns⟩ := Result.exists_ok_of_isOk hok
    exact (defaultConverter_of_made.1 hcolumns).1
  · intro hall
    rw [defaultConverter_of_made.2 ⟨hall, rfl⟩]
    rfl

section

variable {made : Option (List (List Double))} {docs : List Document}

theorem columnsOf_dense (field : String) (sparse : Option String) :
    (columnsOf (some field) sparse made docs).filterMap Column.dense? =
      [((((docs.mapIdx (rounded made)).head?.map List.length).getD 0), docs.mapIdx (rounded made))] := by
  rw [columnsOf]
  cases sparse <;> rfl

theorem length_rounded {i : Nat} {d : Document} {v : List Double} (h : denseSource made i d = some v) :
    (rounded made i d).length = v.length := by
  rw [rounded, h, List.length_map, Option.getD_some]

theorem getElem?_mapIdx_rounded {i : Nat} {d : Document} (hi : docs[i]? = some d) :
    (docs.mapIdx (rounded made))[i]? = some (rounded made i d) := by
  rw [List.getElem?_mapIdx, hi, Option.map_some]

theorem mem_mapIdx_rounded {row : List Single} :
    row ∈ docs.mapIdx (rounded made) ↔ ∃ i d, docs[i]? = some d ∧ row = rounded made i d := by
  rw [List.mem_iff_getElem?]
  refine exists_congr fun i => ?_
  rw [List.getElem?_mapIdx, Option.map_eq_some_iff]
  simp only [eq_comm]

theorem forall_length_eq_head_iff {α : Type} (rows : List (List α)) :
    (∀ row ∈ rows, row.length = (rows.head?.map List.length).getD 0) ↔
      ∀ row ∈ rows, ∀ other ∈ rows, row.length = other.length := by
  cases rows with
  | nil => exact iff_of_true nofun nofun
  | cons first rows =>
    constructor
    · intro h row hrow other hother
      exact (h row hrow).trans (h other hother).symm
    · intro h row hrow
      exact h row hrow first (List.mem_cons_self ..)

theorem columnsOf_isRectangular_iff (field : String) (sparse : Option String)
    (hall : ∀ i d, docs[i]? = some d → ∃ v, denseSource made i d = some v) :
    (∀ c ∈ columnsOf (some field) sparse made docs, c.IsRectangular) ↔ ∀ i d v j e w,
      docs[i]? = some d → denseSource made i d = some v →
      docs[j]? = some e → denseSource made j e = some w → v.length = w.length := by
  rw [Column.forall_isRectangular_iff (columnsOf_dense field sparse), forall_length_eq_head_iff]
  constructor
  · intro heq i d v j e w hi hv hj hw
    rw [← length_rounded hv, ← length_rounded hw]
    exact heq _ (mem_mapIdx_rounded.2 ⟨i, d, hi, rfl⟩) _ (mem_mapIdx_rounded.2 ⟨j, e, hj, rfl⟩)
  · intro heq row hrow other hother
    obtain ⟨i, d, hi, rfl⟩ := mem_mapIdx_rounded.1 hrow
    obtain ⟨j, e, hj, rfl⟩ := mem_mapIdx_rounded.1 hother
    obtain ⟨v, hv⟩ := hall i d hi
    obtain ⟨w, hw⟩ := hall j e hj
    rw [length_rounded hv, length_rounded hw]
    exact heq i d v j e w hi hv hj hw

end

/-- Documents are converted just if each has what its fields need, and then there is one column of dense
vectors, with the vector of each document in its row as it was made or as the document brings it. The
declared dimension is the length of the first, so rows have it exactly if all vectors are equally
long. -/
theorem defaultConverter_dimension (field : String) (sparse : Option String) (docs : List Document)
    (vectors : List (List Double)) :
    let made := madeFor docs vectors
    let run := defaultConverter (some field) sparse docs vectors
    (run.isOk = true ↔ ∀ i d, docs[i]? = some d → Fills made true sparse.isSome i d) ∧
      ∀ columns, run = .ok columns →
        ∃ dimension rows, ⟨field, .floats dimension rows⟩ ∈ columns ∧
          columns.filterMap Column.dense? = [(dimension, rows)] ∧
          rows.length = docs.length ∧
          (∀ i d, docs[i]? = some d → ∃ v, v ≠ [] ∧ denseSource made i d = some v ∧
            rows[i]? = some (v.map Double.toSingle) ∧ (i = 0 → v.length = dimension)) ∧
          ((∀ c ∈ columns, c.IsRectangular) ↔ ∀ i d v j e w,
            docs[i]? = some d → denseSource made i d = some v →
            docs[j]? = some e → denseSource made j e = some w → v.length = w.length) := by
  intro made run
  refine ⟨isOk_defaultConverter_iff, fun columns hcolumns => ?_⟩
  obtain ⟨hall, rfl⟩ := defaultConverter_of_made.1 hcolumns
  have hsource : ∀ i d, docs[i]? = some d → ∃ v, denseSource made i d = some v ∧ v ≠ [] :=
    fun i d hi => (hall i d hi).dense rfl
  refine ⟨_, _, ?_, columnsOf_dense field sparse, List.length_mapIdx, ?_, ?_⟩
  · rw [columnsOf]
    exact List.mem_append_left _ (List.mem_append_right _ (List.mem_singleton_self _))
  · intro i d hi
    obtain ⟨v, hv, hne⟩ := hsource i d hi
    have hrow : (docs.mapIdx (rounded made))[i]? = some (rounded made i d) :=
      getElem?_mapIdx_rounded hi
    refine ⟨v, hne, hv, ?_, ?_⟩
    · rw [hrow, rounded, hv, Option.getD_some]
    · rintro rfl
      rw [List.head?_eq_getElem?, hrow, Option.map_some, Option.getD_some, length_rounded hv]
  · exact columnsOf_isRectangular_iff field sparse fun i d hi =>
      (hsource i d hi).imp fun v hv => hv.1

/-- An embedder that gives two numbers for one document and one for another is taken at its word. -/
theorem defaultConverter_ragged :
    let one := Double.ofNat 1
    let converted := defaultConverter (some "vector") none [.blank "1" "a", .blank "2" "b"]
      [[one, one], [one]]
    ∃ columns, converted = .ok columns ∧
      ⟨"vector", .floats 2 [[one.toSingle, one.toSingle], [one.toSingle]]⟩ ∈ columns ∧
      ¬∀ c ∈ columns, c.IsRectangular := by
  intro one converted
  obtain ⟨columns, hconverted, hmem⟩ : ∃ columns, converted = .ok columns ∧
      ⟨"vector", .floats 2 [[one.toSingle, one.toSingle], [one.toSingle]]⟩ ∈ columns :=
    ⟨_, rfl, List.mem_append_left _ (List.mem_append_right _ (List.mem_singleton_self _))⟩
  refine ⟨columns, hconverted, hmem, fun hall => ?_⟩
  have hrow := hall _ hmem _ _ rfl [one.toSingle] (List.mem_cons_of_mem _ (List.mem_singleton_self _))
  exact absurd hrow (by decide)

end ChatRetrieval.Milvus
