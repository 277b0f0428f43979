/-!
How many pieces of one size a number of items takes, when only the last one need not be full.
-/

namespace ChatRetrieval

def pieces (size n : Nat) : Nat := (n + size - 1) / size

variable {size n : Nat}

theorem pieces_zero (hsize : 1 ≤ size) : pieces size 0 = 0 := by
  rw [pieces, Nat.zero_add]
  exact Nat.div_eq_of_lt (Nat.sub_lt hsize Nat.one_pos)

theorem pieces_step (hsize : 1 ≤ size) (hn : 0 < n) :
    pieces size (n - min size n) + 1 = pieces size n := by
  rcases Nat.le_total size n with hfull | hrest
  · have hnext : n - size + size - 1 + size = n + size - 1 := by omega
    rw [Nat.min_eq_left hfull, pieces, pieces, ← Nat.add_div_right _ hsize, hnext]
  · -- What is left fits into one piece.
    have hone : n + size - 1 = n - 1 + size := by omega
    rw [Nat.min_eq_right hrest, Nat.sub_self, pieces_zero hsize, pieces, hone,
      Nat.add_div_right _ hsize, Nat.div_eq_of_lt (by omega)]

theorem pieces_sub (hsize : 1 ≤ size) (hn : 0 < n) : pieces size (n - size) + 1 = pieces size n := by
  have hrest : n - min size n = n - size := by omega
  rw [← pieces_step hsize hn, hrest]

theorem pieces_pos (hsize : 1 ≤ size) (hn : 0 < n) : 1 ≤ pieces size n := by
  rw [← pieces_step hsize hn]
  exact Nat.le_add_left ..

end ChatRetrieval
