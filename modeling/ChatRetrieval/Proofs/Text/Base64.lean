import ChatRetrieval.Text.Base64
import Mathlib.Tactic.Common

/-!
Base64 has one text for each list of bytes, so what is read from a text is written as that text again.
-/

namespace ChatRetrieval.Text.Base64

theorem toNat_le_of_le {c d : Char} (h : c ≤ d) : c.toNat ≤ d.toNat := by
  rwa [Char.le_def, UInt32.le_iff_toNat_le] at h

theorem digit_of_value? {c : Char} {n : Nat} (h : value? c = some n) : digit n = c ∧ n < 64 := by
  unfold value? at h
  unfold digit
  split at h
  · rename_i hc
    cases h
    have hlow : 65 ≤ c.toNat := toNat_le_of_le hc.1
    have hhigh : c.toNat ≤ 90 := toNat_le_of_le hc.2
    have hletter : c.toNat - 65 < 26 := by omega
    rw [if_pos hletter, Nat.sub_add_cancel hlow, Char.ofNat_toNat]
    exact ⟨rfl, by omega⟩
  · split at h
    · rename_i hc
      cases h
      have hlow : 97 ≤ c.toNat := toNat_le_of_le hc.1
      have hhigh : c.toNat ≤ 122 := toNat_le_of_le hc.2
      have hcapital : ¬c.toNat - 97 + 26 < 26 := by omega
      have hletter : c.toNat - 97 + 26 < 52 := by omega
      rw [if_neg hcapital, if_pos hletter, Nat.add_sub_cancel, Nat.sub_add_cancel hlow,
        Char.ofNat_toNat]
      exact ⟨rfl, by omega⟩
    · split at h
      · rename_i hc
        cases h
        have hlow : 48 ≤ c.toNat := toNat_le_of_le hc.1
        have hhigh : c.toNat ≤ 57 := toNat_le_of_le hc.2
        have hcapital : ¬c.toNat - 48 + 52 < 26 := by omega
        have hletter : ¬c.toNat - 48 + 52 < 52 := by omega
        have hdecimal : c.toNat - 48 + 52 < 62 := by omega
        rw [if_neg hcapital, if_neg hletter, if_pos hdecimal, Nat.add_sub_cancel,
          Nat.sub_add_cancel hlow, Char.ofNat_toNat]
        exact ⟨rfl, by omega⟩
      · split at h
        · cases h
          exact ⟨by simp_all, by decide⟩
        · split at h
          · cases h
            exact ⟨by simp_all, by decide⟩
          · cases h

theorem encodeBytes_of_decodeChars {cs : List Char} {bytes : List Nat}
    (h : decodeChars cs = some bytes) : encodeBytes bytes = cs := by
  induction cs using decodeChars.induct generalizing bytes with
  | case1 =>
    cases h
    rfl
  | case2 w x =>
    rw [decodeChars] at h
    simp only [Option.bind_eq_bind, Option.bind_eq_some_iff] at h
    obtain ⟨i, hi, j, hj, h⟩ := h
    obtain ⟨rfl, hi⟩ := digit_of_value? hi
    obtain ⟨rfl, hj⟩ := digit_of_value? hj
    split at h
    · cases h
      rw [encodeBytes]
      have hfirst : (i * 4 + j / 16) / 4 = i := by omega
      have hsecond : (i * 4 + j / 16) % 4 * 16 = j := by omega
      rw [hfirst, hsecond]
    · cases h
  | case3 w x y hpad =>
    rw [decodeChars] at h
    · simp only [Option.bind_eq_bind, Option.bind_eq_some_iff] at h
      obtain ⟨i, hi, j, hj, k, hk, h⟩ := h
      obtain ⟨rfl, hi⟩ := digit_of_value? hi
      obtain ⟨rfl, hj⟩ := digit_of_value? hj
      obtain ⟨rfl, hk⟩ := digit_of_value? hk
      split at h
      · cases h
        rw [encodeBytes]
        have hfirst : (i * 4 + j / 16) / 4 = i := by omega
        have hsecond : (i * 4 + j / 16) % 4 * 16 + (j % 16 * 16 + k / 4) / 16 = j := by omega
        have hthird : (j % 16 * 16 + k / 4) % 16 * 4 = k := by omega
        rw [hfirst, hsecond, hthird]
      · cases h
    · exact hpad
  | case4 w x y z rest hone htwo ih =>
    rw [decodeChars] at h
    · simp only [Option.bind_eq_bind, Option.bind_eq_some_iff] at h
      obtain ⟨i, hi, j, hj, k, hk, l, hl, more, hmore, h⟩ := h
      obtain ⟨rfl, hi⟩ := digit_of_value? hi
      obtain ⟨rfl, hj⟩ := digit_of_value? hj
      obtain ⟨rfl, hk⟩ := digit_of_value? hk
      obtain ⟨rfl, hl⟩ := digit_of_value? hl
      cases h
      rw [encodeBytes, ih hmore]
      have hfirst : (i * 4 + j / 16) / 4 = i := by omega
      have hsecond : (i * 4 + j / 16) % 4 * 16 + (j % 16 * 16 + k / 4) / 16 = j := by omega
      have hthird : (j % 16 * 16 + k / 4) % 16 * 4 + (k % 4 * 64 + l) / 64 = k := by omega
      have hfourth : (k % 4 * 64 + l) % 64 = l := by omega
      rw [hfirst, hsecond, hthird, hfourth]
    · exact hone
    · exact htwo
  | case5 cs hnil hone htwo hfour =>
    rw [decodeChars] at h
    · cases h
    all_goals assumption

theorem encode_of_decode? {s : String} {bytes : List Nat} (h : decode? s = some bytes) :
    encode bytes = s := by
  rw [encode, encodeBytes_of_decodeChars h, String.ofList_toList]

end ChatRetrieval.Text.Base64
