/-!
Finite maps kept as a list of entries with strictly increasing keys, so that two maps with the same
lookups are the same value. Later writes win.
-/

namespace ChatRetrieval

universe u v

/-- Entries in strictly increasing key order. -/
structure Dict (κ : Type u) (α : Type v) [Ord κ] where
  entries : List (κ × α)
  sorted : entries.Pairwise fun a b => compare a.1 b.1 = .lt

namespace Dict

variable {κ : Type u} {α : Type v} [Ord κ]

/-- Writes `v` under `k` into a sorted list. -/
def insertEntry (k : κ) (v : α) : List (κ × α) → List (κ × α)
  | [] => [(k, v)]
  | (k', v') :: r =>
    match compare k k' with
    | .lt => (k, v) :: (k', v') :: r
    | .eq => (k, v) :: r
    | .gt => (k', v') :: insertEntry k v r

theorem mem_insertEntry {k : κ} {v : α} {l : List (κ × α)} {e : κ × α}
    (h : e ∈ insertEntry k v l) : e = (k, v) ∨ e ∈ l := by
  induction l with
  | nil => simpa [insertEntry] using h
  | cons a r ih =>
    obtain ⟨k', v'⟩ := a
    unfold insertEntry at h
    split at h
    · simpa using h
    · simp only [List.mem_cons] at h ⊢
      exact h.imp_right Or.inr
    · simp only [List.mem_cons] at h ⊢
      rcases h with h | h
      · exact Or.inr (Or.inl h)
      · exact (ih h).imp_right Or.inr

theorem sorted_insertEntry [Std.TransOrd κ] [Std.LawfulEqOrd κ] (k : κ) (v : α)
    {l : List (κ × α)} (h : l.Pairwise fun a b => compare a.1 b.1 = .lt) :
    (insertEntry k v l).Pairwise fun a b => compare a.1 b.1 = .lt := by
  induction l with
  | nil => simp [insertEntry]
  | cons a r ih =>
    obtain ⟨k', v'⟩ := a
    have hr := List.pairwise_cons.1 h
    unfold insertEntry
    split
    · rename_i hlt
      refine List.pairwise_cons.2 ⟨fun e he => ?_, h⟩
      rcases List.mem_cons.1 he with rfl | he
      · exact hlt
      · exact Std.TransCmp.lt_trans hlt (hr.1 e he)
    · rename_i heq
      have hk : k = k' := Std.LawfulEqCmp.eq_of_compare heq
      subst hk
      exact List.pairwise_cons.2 ⟨hr.1, hr.2⟩
    · rename_i hgt
      refine List.pairwise_cons.2 ⟨fun e he => ?_, ih hr.2⟩
      rcases mem_insertEntry he with rfl | he
      · exact Std.OrientedCmp.lt_of_gt hgt
      · exact hr.1 e he

def empty : Dict κ α := ⟨[], List.Pairwise.nil⟩

instance : Inhabited (Dict κ α) := ⟨empty⟩

instance [DecidableEq κ] [DecidableEq α] : DecidableEq (Dict κ α) := fun a b =>
  if h : a.entries = b.entries then
    isTrue (by cases a; cases b; cases h; rfl)
  else isFalse fun e => h (e ▸ rfl)

def isEmpty (d : Dict κ α) : Bool := d.entries.isEmpty

def keys (d : Dict κ α) : List κ := d.entries.map (·.1)

def values (d : Dict κ α) : List α := d.entries.map (·.2)

/-- The value under `k` in a list of entries. -/
def findEntry (k : κ) : List (κ × α) → Option α
  | [] => none
  | (k', v) :: r => if compare k k' = .eq then some v else findEntry k r

def get? (d : Dict κ α) (k : κ) : Option α := findEntry k d.entries

def contains (d : Dict κ α) (k : κ) : Bool := (d.get? k).isSome

/-- Removes the entry under `k`. -/
def erase (d : Dict κ α) (k : κ) : Dict κ α :=
  ⟨d.entries.filter fun e => compare k e.1 != .eq, d.sorted.filter _⟩

/-- Replaces every value by a function of it. -/
def map {β : Type v} (f : α → β) (d : Dict κ α) : Dict κ β :=
  ⟨d.entries.map fun e => (e.1, f e.2), by
    rw [List.pairwise_map]; exact d.sorted⟩

variable [Std.TransOrd κ] [Std.LawfulEqOrd κ]

def insert (d : Dict κ α) (k : κ) (v : α) : Dict κ α :=
  ⟨insertEntry k v d.entries, sorted_insertEntry k v d.sorted⟩

/-- Writes the pairs in order, so the last one under a key stays. -/
def insertMany (d : Dict κ α) (pairs : List (κ × α)) : Dict κ α :=
  pairs.foldl (fun d e => d.insert e.1 e.2) d

def ofList (pairs : List (κ × α)) : Dict κ α := empty.insertMany pairs

/-- The entries of both; those of `other` win. -/
def union (d other : Dict κ α) : Dict κ α := d.insertMany other.entries

end Dict

end ChatRetrieval
