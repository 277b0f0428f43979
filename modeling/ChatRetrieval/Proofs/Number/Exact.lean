import ChatRetrieval.Number.Binary
import Mathlib.Tactic.Ring

/-!
Values that need no rounding. A fraction whose value some word has rounds to that word, so a finite single
comes back from the double it is widened to.
-/

namespace ChatRetrieval

theorem log2_mul_two_pow {m : Nat} (hm : 0 < m) (k : Nat) : (m * 2 ^ k).log2 = m.log2 + k := by
  have hne : m ≠ 0 := Nat.ne_of_gt hm
  have hpos : 0 < m * 2 ^ k := Nat.mul_pos hm (Nat.two_pow_pos k)
  have hlow := Nat.mul_le_mul_right (2 ^ k) (Nat.log2_self_le hne)
  have hhigh := Nat.mul_lt_mul_of_pos_right (@Nat.lt_log2_self m) (Nat.two_pow_pos k)
  rw [← Nat.pow_add] at hlow hhigh
  rw [Nat.log2_eq_iff (Nat.ne_of_gt hpos)]
  refine ⟨hlow, ?_⟩
  rwa [Nat.add_right_comm]

namespace BinaryFormat

variable {f : BinaryFormat}

/-- Parts as a word has them: the significand fits, and it is full unless the step is the least. -/
structure Parts (f : BinaryFormat) (m step : Nat) : Prop where
  lt : m < 2 ^ f.precision
  full : step = 0 ∨ 2 ^ (f.precision - 1) ≤ m

theorem scaledLog_eq {num den whole : Nat} (hden : 0 < den) (hwhole : 0 < whole)
    (hvalue : num * 2 ^ f.leastExponent = whole * den) : f.scaledLog num den = whole.log2 := by
  have hwhole' : whole ≠ 0 := Nat.ne_of_gt hwhole
  have hden' : den ≠ 0 := Nat.ne_of_gt hden
  have hge : den ≤ whole * den := Nat.le_mul_of_pos_left den hwhole
  have hlow : whole.log2 + den.log2 ≤ (whole * den).log2 := by
    rw [Nat.le_log2 (Nat.mul_ne_zero hwhole' hden'), Nat.pow_add]
    exact Nat.mul_le_mul (Nat.log2_self_le hwhole') (Nat.log2_self_le hden')
  have hhigh : (whole * den).log2 < whole.log2 + 1 + (den.log2 + 1) := by
    rw [Nat.log2_lt (Nat.mul_ne_zero hwhole' hden'), Nat.pow_add]
    exact Nat.mul_lt_mul'' Nat.lt_log2_self Nat.lt_log2_self
  have hcompare (e : Nat) : whole * den < den * 2 ^ e ↔ whole.log2 < e := by
    rw [Nat.mul_comm whole, Nat.mul_lt_mul_left hden, Nat.log2_lt hwhole']
  simp only [scaledLog, Nat.pow_eq, hvalue, if_neg (Nat.not_lt.2 hge), hcompare]
  split <;> omega

/-- Parts with the value of a fraction are found exactly. -/
theorem round_eq {num den m step : Nat} (hden : 0 < den) (hparts : f.Parts m step)
    (hvalue : num * 2 ^ f.leastExponent = m * 2 ^ step * den) :
    f.round num den = min (step * f.fieldUnit + m) f.infinity := by
  have hstep : f.scaledLog num den - (f.precision - 1) = step := by
    rcases Nat.eq_zero_or_pos m with rfl | hm
    · have hzero : step = 0 := hparts.full.resolve_right (by simp)
      rw [Nat.zero_mul, Nat.zero_mul] at hvalue
      simp only [scaledLog, Nat.pow_eq, hvalue, if_pos hden, Nat.zero_sub, hzero]
    · have hlt : m.log2 < f.precision := (Nat.log2_lt (Nat.ne_of_gt hm)).2 hparts.lt
      rw [scaledLog_eq hden (Nat.mul_pos hm (Nat.two_pow_pos step)) hvalue, log2_mul_two_pow hm]
      rcases hparts.full with hzero | hfull
      · omega
      · have hge : f.precision - 1 ≤ m.log2 := (Nat.le_log2 (Nat.ne_of_gt hm)).2 hfull
        omega
  have hquotient : halfEven (num * 2 ^ f.leastExponent) (den * 2 ^ step) = m := by
    have hpos : 0 < den * 2 ^ step := Nat.mul_pos hden (Nat.two_pow_pos step)
    have hexact : num * 2 ^ f.leastExponent = m * (den * 2 ^ step) := by
      rw [hvalue]
      ring
    simp only [halfEven, hexact, Nat.mul_div_cancel _ hpos, Nat.mul_mod_left, Nat.mul_zero, if_pos hpos]
  simp only [round, hstep, Nat.pow_eq, hquotient]

theorem round_zero {den : Nat} (hden : 0 < den) : f.round 0 den = 0 := by
  have hparts : f.Parts 0 0 := ⟨Nat.two_pow_pos _, Or.inl rfl⟩
  rw [round_eq hden hparts (by simp), Nat.zero_mul, Nat.zero_add, Nat.zero_min]

theorem fieldUnit_eq (f : BinaryFormat) : f.fieldUnit = 2 ^ (f.precision - 1) := rfl

theorem fieldUnit_add_self (hprecision : 0 < f.precision) :
    f.fieldUnit + f.fieldUnit = 2 ^ f.precision := by
  rw [fieldUnit_eq, ← Nat.two_mul, ← Nat.pow_succ', Nat.succ_eq_add_one, Nat.sub_add_cancel hprecision]

theorem parts_spec (hprecision : 0 < f.precision) (word : Nat) :
    f.Parts (f.parts word).1 (f.parts word).2 ∧
      (f.parts word).2 * f.fieldUnit + (f.parts word).1 = word := by
  have hunit : 0 < f.fieldUnit := Nat.two_pow_pos _
  have hdouble := fieldUnit_add_self hprecision
  have hmod := Nat.mod_lt word hunit
  have hword := Nat.div_add_mod' word f.fieldUnit
  simp only [parts]
  split
  · rename_i hfield
    refine ⟨⟨by omega, Or.inl rfl⟩, ?_⟩
    rw [hfield] at hword
    simpa using hword
  · rename_i hfield
    refine ⟨⟨by omega, Or.inr (Nat.le_add_left _ _)⟩, ?_⟩
    obtain ⟨field, hsucc⟩ := Nat.exists_eq_succ_of_ne_zero hfield
    rw [hsucc] at hword ⊢
    rw [Nat.succ_mul] at hword
    simp only [Nat.succ_sub_one]
    omega

theorem ratio_eq {word m step : Nat} (h : f.parts word = (m, step)) :
    f.ratio word = (m * 2 ^ step, 2 ^ f.leastExponent) := by
  rw [ratio, h]
  rfl

theorem parts_eq {m step : Nat} (hprecision : 0 < f.precision) (h : f.Parts m step)
    (hfull : f.fieldUnit ≤ m) : f.parts (step * f.fieldUnit + m) = (m, step) := by
  have hunit : 0 < f.fieldUnit := Nat.two_pow_pos _
  have hlt : m < f.fieldUnit + f.fieldUnit := by
    rw [fieldUnit_add_self hprecision]
    exact h.lt
  have hword : step * f.fieldUnit + m = (m - f.fieldUnit) + f.fieldUnit * (step + 1) := by
    rw [Nat.mul_succ, Nat.mul_comm]
    omega
  have hsmall : m - f.fieldUnit < f.fieldUnit := by omega
  have hfield : (step * f.fieldUnit + m) / f.fieldUnit = step + 1 := by
    rw [hword, Nat.add_mul_div_left _ _ hunit, Nat.div_eq_of_lt hsmall, Nat.zero_add]
  have hfraction : (step * f.fieldUnit + m) % f.fieldUnit = m - f.fieldUnit := by
    rw [hword, Nat.add_mul_mod_self_left, Nat.mod_eq_of_lt hsmall]
  simp only [parts, hfield, hfraction, if_neg (Nat.succ_ne_zero step), Nat.sub_add_cancel hfull,
    Nat.add_sub_cancel]

theorem parts_double {m step : Nat} (hm : 0 < m) (h : single.Parts m step) :
    double.Parts (m * 2 ^ (52 - m.log2)) (step + 873 + m.log2) ∧
      double.fieldUnit ≤ m * 2 ^ (52 - m.log2) := by
  have hlog : m.log2 < 24 := (Nat.log2_lt (Nat.ne_of_gt hm)).2 h.lt
  have hlow := Nat.mul_le_mul_right (2 ^ (52 - m.log2)) (Nat.log2_self_le (Nat.ne_of_gt hm))
  have hhigh := Nat.mul_lt_mul_of_pos_right (@Nat.lt_log2_self m) (Nat.two_pow_pos (52 - m.log2))
  rw [← Nat.pow_add] at hlow hhigh
  have hlow' : m.log2 + (52 - m.log2) = 52 := by omega
  have hhigh' : m.log2 + 1 + (52 - m.log2) = 53 := by omega
  rw [hlow'] at hlow
  rw [hhigh'] at hhigh
  exact ⟨⟨hhigh, Or.inr hlow⟩, hlow⟩

/-- Every finite word of the smaller format has its value in the larger one, and rounding that value to the
smaller format gives the word again. -/
theorem round_single_double {word : Nat} (hword : word < single.infinity) :
    ∃ wide, double.round (single.ratio word).1 (single.ratio word).2 = wide ∧
      wide < double.infinity ∧
      single.round (double.ratio wide).1 (double.ratio wide).2 = word := by
  obtain ⟨hparts, hsum⟩ := @parts_spec single (by decide) word
  obtain ⟨m, step, hm⟩ : ∃ m step, single.parts word = (m, step) := ⟨_, _, rfl⟩
  have hratio := ratio_eq hm
  rw [hm] at hparts hsum
  rw [hratio]
  rcases Nat.eq_zero_or_pos m with rfl | hpos
  · obtain rfl : step = 0 := hparts.full.resolve_right (by simp)
    obtain rfl : 0 = word := by simpa using hsum
    refine ⟨0, ?_, by decide, ?_⟩
    · rw [Nat.zero_mul, round_zero (Nat.two_pow_pos single.leastExponent)]
    · have hparts : double.parts 0 = (0, 0) := rfl
      rw [ratio_eq hparts, Nat.zero_mul, round_zero (Nat.two_pow_pos double.leastExponent)]
  · obtain ⟨hwide, hfull⟩ := parts_double hpos hparts
    have hstep : step < 255 := by
      have hle : step * single.fieldUnit ≤ word := hsum ▸ Nat.le_add_right _ _
      exact Nat.lt_of_mul_lt_mul_right (Nat.lt_of_le_of_lt hle hword)
    have hlog : m.log2 < 24 := (Nat.log2_lt (Nat.ne_of_gt hpos)).2 hparts.lt
    have hfinite : (step + 873 + m.log2) * double.fieldUnit + m * 2 ^ (52 - m.log2) <
        double.infinity := by
      have hlt := hwide.lt
      have hunit : double.fieldUnit = 2 ^ 52 := rfl
      have hinfinity : double.infinity = 2047 * 2 ^ 52 := rfl
      have hprecision : double.precision = 53 := rfl
      rw [hprecision] at hlt
      rw [hunit, hinfinity]
      omega
    have hvalue : m * 2 ^ step * 2 ^ double.leastExponent =
        m * 2 ^ (52 - m.log2) * 2 ^ (step + 873 + m.log2) * 2 ^ single.leastExponent := by
      have hdouble : double.leastExponent = 1074 := rfl
      have hsingle : single.leastExponent = 149 := rfl
      rw [Nat.mul_assoc, Nat.mul_assoc, Nat.mul_assoc, ← Nat.pow_add, ← Nat.pow_add, ← Nat.pow_add]
      congr 2
      omega
    have hround := round_eq (Nat.two_pow_pos single.leastExponent) hwide hvalue
    rw [Nat.min_eq_left hfinite.le] at hround
    refine ⟨_, hround, hfinite, ?_⟩
    have hwideRatio : double.ratio ((step + 873 + m.log2) * double.fieldUnit + m * 2 ^ (52 - m.log2)) =
        (m * 2 ^ (52 - m.log2) * 2 ^ (step + 873 + m.log2), 2 ^ double.leastExponent) :=
      ratio_eq (parts_eq (by decide) hwide hfull)
    rw [hwideRatio, round_eq (Nat.two_pow_pos double.leastExponent) hparts hvalue.symm, hsum]
    exact Nat.min_eq_left hword.le

end BinaryFormat

theorem Double.toNat_ofWord (negative : Bool) {word : Nat} (h : word < BinaryFormat.double.infinity) :
    (ofWord negative word).bits.toNat = word + if negative then signBit else 0 := by
  have hinfinity : BinaryFormat.double.infinity < 2 ^ 63 := by decide
  have hsign : signBit = 2 ^ 63 := rfl
  rw [ofWord, UInt64.toNat_ofNat_of_lt']
  rw [hsign, UInt64.size]
  split <;> omega

theorem Double.word_ofWord (negative : Bool) {word : Nat} (h : word < BinaryFormat.double.infinity) :
    (ofWord negative word).word = word := by
  have hinfinity : BinaryFormat.double.infinity < signBit := by decide
  rw [Double.word, toNat_ofWord negative h]
  cases negative with
  | false => exact Nat.mod_eq_of_lt (by simpa using h.trans hinfinity)
  | true => rw [if_pos rfl, Nat.add_mod_right, Nat.mod_eq_of_lt (h.trans hinfinity)]

theorem Double.isNegative_ofWord (negative : Bool) {word : Nat}
    (h : word < BinaryFormat.double.infinity) : (ofWord negative word).isNegative = negative := by
  have hinfinity : BinaryFormat.double.infinity < signBit := by decide
  rw [isNegative, toNat_ofWord negative h]
  cases negative with
  | false => exact decide_eq_false (by simpa using h.trans hinfinity)
  | true => exact decide_eq_true (Nat.le_add_left _ _)

theorem Single.ofWord_word (s : Single) : ofWord s.isNegative s.word = s := by
  have hsize : s.bits.toNat < 2 ^ 32 := s.bits.toNat_lt
  have hsign : signBit = 2 ^ 31 := rfl
  have hword : s.word + (if s.isNegative then signBit else 0) = s.bits.toNat := by
    simp only [word, isNegative, decide_eq_true_eq, hsign]
    split <;> omega
  rw [ofWord, hword, UInt32.ofNat_toNat]

theorem Single.isFinite_toDouble {s : Single} (h : s.isFinite = true) : s.toDouble.isFinite = true := by
  obtain ⟨wide, hround, hwide, -⟩ := BinaryFormat.round_single_double (of_decide_eq_true h)
  rw [toDouble, if_pos h, Double.ofRatio, Single.ratio, hround, Double.isFinite,
    Double.word_ofWord _ hwide]
  exact decide_eq_true hwide

theorem Single.toSingle_toDouble {s : Single} (h : s.isFinite = true) : s.toDouble.toSingle = s := by
  obtain ⟨wide, hround, hwide, hback⟩ := BinaryFormat.round_single_double (of_decide_eq_true h)
  have hdouble : s.toDouble = Double.ofWord s.isNegative wide := by
    rw [toDouble, if_pos h, Double.ofRatio, Single.ratio, hround]
  have hfinite : s.toDouble.isFinite = true := isFinite_toDouble h
  rw [Double.toSingle, if_pos hfinite, hdouble, Double.isNegative_ofWord _ hwide, Double.ratio,
    Double.word_ofWord _ hwide, ofRatio, hback, ofWord_word]

end ChatRetrieval
