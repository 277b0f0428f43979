import ChatRetrieval.Milvus.Indexer
import ChatRetrieval.Proofs.Result

/-!
The vectors of documents. All of them come from one place, dense ones either from an embedder or from the
documents, and each stays with its own document; one that is missing or wrong is a failure of all.
-/

namespace ChatRetrieval.Milvus

/-- A dimension of a sparse vector that can be written. -/
def Fits (i : Int) : Prop := 0 ≤ i ∧ i < Nat.pow 2 32

instance (i : Int) : Decidable (Fits i) := inferInstanceAs (Decidable (_ ∧ _))

def narrowed (entries : List (Int × Double)) : SparseVector :=
  ⟨entries.map fun e => e.1.toNat, entries.map fun e => e.2.toSingle⟩

/-- The entries of the sparse vector a document brings. -/
def sparseSource (d : Document) : List (Int × Double) := (d.sparseVector.getD .empty).entries

/-- The vector of the document at an index: of those that were made for all documents if they were,
or else its own. -/
def denseSource (made : Option (List (List Double))) (i : Nat) (d : Document) :
    Option (List Double) :=
  match made with
  | some vectors => vectors[i]?
  | none => d.denseVector

def rounded (made : Option (List (List Double))) (i : Nat) (d : Document) : List Single :=
  ((denseSource made i d).getD []).map Double.toSingle

section sparse

theorem sparseEntries_eq_ok_iff {l : List (Int × Double)} {v : SparseVector} :
    sparseEntries l = .ok v ↔ (∀ e ∈ l, Fits e.1) ∧ v = narrowed l := by
  induction l generalizing v with
  | nil =>
    constructor
    · rintro ⟨⟩
      exact ⟨nofun, rfl⟩
    · rintro ⟨-, rfl⟩
      rfl
  | cons e l ih =>
    obtain ⟨i, w⟩ := e
    rw [sparseEntries, List.forall_mem_cons]
    split
    · rename_i hfits
      constructor
      · intro h
        obtain ⟨rest, hrest, rfl⟩ := Result.map_eq_ok h
        obtain ⟨hall, rfl⟩ := ih.1 hrest
        exact ⟨⟨hfits, hall⟩, rfl⟩
      · rintro ⟨⟨-, hall⟩, rfl⟩
        rw [ih.2 ⟨hall, rfl⟩]
        rfl
    · rename_i hfits
      exact iff_of_false nofun fun h => hfits h.1.1

theorem sparseVector_eq_ok_iff {d : Document} {v : SparseVector} :
    sparseVector d = .ok v ↔ (∀ e ∈ sparseSource d, Fits e.1) ∧ v = narrowed (sparseSource d) := by
  unfold sparseVector sparseSource
  cases d.sparseVector with
  | none =>
    constructor
    · rintro ⟨⟩
      exact ⟨nofun, rfl⟩
    · rintro ⟨-, rfl⟩
      rfl
  | some entries => exact sparseEntries_eq_ok_iff

theorem pairwise_indices {d : Document} (h : ∀ e ∈ sparseSource d, Fits e.1) :
    (narrowed (sparseSource d)).indices.Pairwise (· < ·) := by
  rw [narrowed, List.pairwise_map]
  -- No two dimensions fall together, since none is below zero.
  refine (d.sparseVector.getD .empty).sorted.imp_of_mem fun {a b} ha hb hlt => ?_
  have hlt : a.1 < b.1 := Int.compare_eq_lt.1 hlt
  have ha := (h a ha).1
  have hb := (h b hb).1
  omega

end sparse

section dense

variable {made : Option (List (List Double))} {docs : List Document}

/-- Vectors were made for all the documents, if any were. -/
def Covers (made : Option (List (List Double))) (docs : List Document) : Prop :=
  ∀ vectors ∈ made, vectors.length = docs.length

theorem source_eq (hmade : Covers made docs) {i : Nat} {d : Document} (hi : docs[i]? = some d) :
    (if (made.getD []).length = docs.length then (made.getD [])[i]? else d.denseVector) =
      denseSource made i d := by
  cases made with
  | some vectors => exact if_pos (hmade vectors rfl)
  | none =>
    -- Where there is a document, no vectors at all are too few.
    have hlt : i < docs.length := (List.getElem?_eq_some_iff.1 hi).1
    exact if_neg (Nat.ne_of_lt (Nat.zero_lt_of_lt hlt))

theorem denseVector_eq_ok_iff (hmade : Covers made docs) {i : Nat} {d : Document}
    (hi : docs[i]? = some d) {row : List Single} :
    denseVector docs.length (made.getD []) i d = .ok row ↔
      (∃ v, denseSource made i d = some v ∧ v ≠ []) ∧ row = rounded made i d := by
  rw [denseVector, source_eq hmade hi, rounded]
  cases hsource : denseSource made i d with
  | none => exact iff_of_false nofun fun h => nomatch h.1
  | some v =>
    cases v with
    | nil =>
      refine iff_of_false nofun ?_
      rintro ⟨⟨_, ⟨⟩, hne⟩, -⟩
      exact hne rfl
    | cons x v =>
      constructor
      · rintro ⟨⟩
        exact ⟨⟨_, rfl, List.cons_ne_nil _ _⟩, rfl⟩
      · rintro ⟨-, rfl⟩
        rfl

/-- The document at an index has what its fields need. -/
structure Fills (made : Option (List (List Double))) (dense sparse : Bool) (i : Nat) (d : Document) :
    Prop where
  dense : dense = true → ∃ v, denseSource made i d = some v ∧ v ≠ []
  sparse : sparse = true → ∀ e ∈ sparseSource d, Fits e.1

theorem own_eq_ok_iff {α : Type} {r : Result α} {p : Prop} {v : α} (hr : ∀ a, r = .ok a ↔ p ∧ a = v)
    (wanted : Bool) (own : List α) :
    (if wanted then r.map ([·]) else .ok []) = (.ok own : Result (List α)) ↔
      (wanted = true → p) ∧ own = if wanted then [v] else [] := by
  cases wanted with
  | false =>
    constructor
    · rintro ⟨⟩
      exact ⟨nofun, rfl⟩
    · rintro ⟨-, rfl⟩
      rfl
  | true =>
    constructor
    · intro h
      obtain ⟨a, ha, rfl⟩ := Result.map_eq_ok h
      obtain ⟨hp, rfl⟩ := (hr a).1 ha
      exact ⟨fun _ => hp, rfl⟩
    · rintro ⟨hp, rfl⟩
      rw [if_pos rfl, (hr v).2 ⟨hp rfl, rfl⟩]
      rfl

theorem forall_getElem?_cons {α : Type} {p : Nat → α → Prop} {a : α} {l : List α} :
    (∀ i x, (a :: l)[i]? = some x → p i x) ↔ p 0 a ∧ ∀ i x, l[i]? = some x → p (i + 1) x := by
  constructor
  · intro h
    exact ⟨h 0 a rfl, fun i x hx => h (i + 1) x hx⟩
  · rintro ⟨hfirst, hlater⟩ i x hx
    cases i with
    | zero =>
      cases hx
      exact hfirst
    | succ i => exact hlater i x hx

theorem gatherVectors_cons (n : Nat) (vectors : List (List Double)) (dense sparse : Bool) (k : Nat)
    (d : Document) (rest : List Document) :
    gatherVectors n vectors dense sparse k (d :: rest) =
      ((if dense then (denseVector n vectors k d).map ([·]) else .ok []) >>= fun own =>
        (if sparse then
          (Result.within ("failed to convert sparse vector for document " ++ Text.decimal k)
            (sparseVector d)).map ([·])
        else .ok []) >>= fun weights =>
          gatherVectors n vectors dense sparse (k + 1) rest >>= fun more =>
            .ok (own ++ more.1, weights ++ more.2)) := by
  rw [gatherVectors]
  cases sparseVector d <;> cases dense <;> cases sparse <;> rfl

theorem gatherVectors_eq_ok_iff (hmade : Covers made docs) {dense sparse : Bool} {k : Nat}
    {l : List Document} (hl : docs.drop k = l) {rows : List (List Single)}
    {weights : List SparseVector} :
    gatherVectors docs.length (made.getD []) dense sparse k l = .ok (rows, weights) ↔
      (∀ i d, l[i]? = some d → Fills made dense sparse (k + i) d) ∧
        rows = (if dense then l.mapIdx fun i d => rounded made (k + i) d else []) ∧
        weights = (if sparse then l.map fun d => narrowed (sparseSource d) else []) := by
  -- The rest of the documents is the list from `k` on, so that indices keep their meaning.
  induction l generalizing k rows weights with
  | nil =>
    constructor
    · rintro ⟨⟩
      exact ⟨nofun, (ite_self _).symm, (ite_self _).symm⟩
    · rintro ⟨-, rfl, rfl⟩
      rw [List.mapIdx_nil, List.map_nil, ite_self, ite_self]
      rfl
  | cons d l ih =>
    have hd : docs[k]? = some d := by
      rw [← Nat.add_zero k, ← List.getElem?_drop, hl]
      rfl
    have hrest : docs.drop (k + 1) = l := by
      rw [← List.drop_drop, hl, List.drop_one, List.tail_cons]
    have hshift : ∀ i, k + 1 + i = k + (i + 1) := fun i => by omega
    have hall : (∀ i e, (d :: l)[i]? = some e → Fills made dense sparse (k + i) e) ↔
        Fills made dense sparse k d ∧
          ∀ i e, l[i]? = some e → Fills made dense sparse (k + 1 + i) e := by
      simp only [hshift]
      exact forall_getElem?_cons
    have hdense := own_eq_ok_iff (fun _ => denseVector_eq_ok_iff hmade hd) dense
    have hsparse := own_eq_ok_iff
      (r := Result.within ("failed to convert sparse vector for document " ++ Text.decimal k)
        (sparseVector d))
      (fun _ => Result.within_eq_ok_iff.trans sparseVector_eq_ok_iff) sparse
    rw [hall, gatherVectors_cons]
    constructor
    · intro h
      obtain ⟨own, hown, h⟩ := Result.bind_eq_ok h
      obtain ⟨ownWeights, hownWeights, h⟩ := Result.bind_eq_ok h
      obtain ⟨⟨more, others⟩, hmore, h⟩ := Result.bind_eq_ok h
      cases h
      obtain ⟨hsource, rfl⟩ := (hdense _).1 hown
      obtain ⟨hfits, rfl⟩ := (hsparse _).1 hownWeights
      obtain ⟨hlater, rfl, rfl⟩ := (ih hrest).1 hmore
      refine ⟨⟨⟨hsource, hfits⟩, hlater⟩, ?_, ?_⟩
      · cases dense <;> simp [List.mapIdx_cons, hshift]
      · cases sparse <;> rfl
    · rintro ⟨⟨hfirst, hlater⟩, rfl, rfl⟩
      rw [(hdense _).2 ⟨hfirst.dense, rfl⟩, Result.ok_bind, (hsparse _).2 ⟨hfirst.sparse, rfl⟩,
        Result.ok_bind, (ih hrest).2 ⟨hlater, rfl, rfl⟩, Result.ok_bind]
      cases dense <;> cases sparse <;> simp [List.mapIdx_cons, hshift]

end dense

end ChatRetrieval.Milvus
