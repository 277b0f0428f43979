import ChatRetrieval.Json.Printer
import ChatRetrieval.Json.Reader
import ChatRetrieval.Proofs.Text.Cuts
import Mathlib.Data.List.TakeWhile

/-!
Numbers inside a longer text. What stands behind a number in a value never continues it, so a number is
read alike alone and in place; whole numbers read back from their decimal text.
-/

namespace ChatRetrieval.Json

/-- Text that can stand behind a value: none, a comma or a closing mark. -/
def Closing (rest : List Char) : Prop := ∀ c ∈ rest.head?, c = ',' ∨ c = ']' ∨ c = '\x7d'

theorem closing_nil : Closing [] := fun _ h => nomatch h

theorem Closing.head_ne {c d : Char} {r : List Char} (h : Closing (c :: r))
    (hd : d ≠ ',' ∧ d ≠ ']' ∧ d ≠ '\x7d') : c ≠ d := by
  rintro rfl
  rcases h c rfl with rfl | rfl | rfl
  · exact hd.1 rfl
  · exact hd.2.1 rfl
  · exact hd.2.2 rfl

namespace Number

theorem isDigit_eq (c : Char) : isDigit c = c.isDigit := by
  rw [Bool.eq_iff_iff]
  simp only [isDigit, Char.isDigit, decide_eq_true_eq, Bool.and_eq_true, Char.le_def]

variable {rest : List Char}

theorem not_isDigit_of_closing (h : Closing rest) : ∀ c ∈ rest.head?, isDigit c = false := by
  intro c hc
  rcases h c hc with rfl | rfl | rfl <;> decide

def digitRun? (cs : List Char) : Option (List Char × List Char) :=
  match cs.takeWhile isDigit with
  | [] => none
  | ds => some (ds, cs.dropWhile isDigit)

theorem digitRun?_append (h : Closing rest) {cs ds r : List Char}
    (hrun : digitRun? cs = some (ds, r)) : digitRun? (cs ++ rest) = some (ds, r ++ rest) := by
  unfold digitRun? at hrun ⊢
  rw [Text.takeWhile_append (not_isDigit_of_closing h),
    Text.dropWhile_append (not_isDigit_of_closing h)]
  cases ht : cs.takeWhile isDigit with
  | nil => simp [ht] at hrun
  | cons t ts =>
    simp only [ht, Option.some.injEq, Prod.mk.injEq] at hrun ⊢
    exact ⟨hrun.1, congrArg (· ++ rest) hrun.2⟩

def exponentSign : List Char → Bool × List Char
  | '-' :: r => (true, r)
  | '+' :: r => (false, r)
  | r => (false, r)

def exponentDigits (negative : Bool) (cs : List Char) : Option ((Bool × List Char) × List Char) :=
  match cs.takeWhile isDigit with
  | [] => none
  | ds => some ((negative, ds), cs.dropWhile isDigit)

theorem scanExponent_eq (cs : List Char) :
    scanExponent cs = exponentDigits (exponentSign cs).1 (exponentSign cs).2 := rfl

theorem exponentDigits_eq (negative : Bool) (cs : List Char) :
    exponentDigits negative cs = (digitRun? cs).map fun p => ((negative, p.1), p.2) := by
  unfold exponentDigits digitRun?
  cases cs.takeWhile isDigit <;> rfl

theorem exponentSign_append (c : Char) (cs more : List Char) :
    exponentSign (c :: cs ++ more) =
      ((exponentSign (c :: cs)).1, (exponentSign (c :: cs)).2 ++ more) := by
  rw [List.cons_append]
  by_cases hminus : c = '-'
  · subst hminus
    rfl
  · by_cases hplus : c = '+'
    · subst hplus
      rfl
    · have hnone : ∀ r : List Char, exponentSign (c :: r) = (false, c :: r) := fun r => by
        unfold exponentSign
        split
        · rename_i heq
          exact absurd (List.cons.inj heq).1 hminus
        · rename_i heq
          exact absurd (List.cons.inj heq).1 hplus
        · rfl
      rw [hnone, hnone, List.cons_append]

theorem scanExponent_append (h : Closing rest) {cs r : List Char} {e : Bool × List Char}
    (hscan : scanExponent cs = some (e, r)) :
    scanExponent (cs ++ rest) = some (e, r ++ rest) := by
  cases cs with
  | nil => cases hscan
  | cons c cs =>
    rw [scanExponent_eq, exponentDigits_eq] at hscan
    obtain ⟨⟨ds, r'⟩, hrun, heq⟩ := Option.map_eq_some_iff.1 hscan
    obtain ⟨rfl, rfl⟩ := Prod.mk.inj heq
    rw [scanExponent_eq, exponentSign_append, exponentDigits_eq, digitRun?_append h hrun,
      Option.map_some]

def fraction? : List Char → Option (Option (List Char) × List Char)
  | '.' :: r => (digitRun? r).map fun p => (some p.1, p.2)
  | r => some (none, r)

def scanRest (negative : Bool) (whole : List Char) (fraction : Option (List Char))
    (cs : List Char) : Option (Literal × List Char) :=
  match cs with
  | c :: r =>
    if c = 'e' ∨ c = 'E' then do
      let (e, rest) ← scanExponent r
      return (⟨negative, whole, fraction, some e⟩, rest)
    else return (⟨negative, whole, fraction, none⟩, cs)
  | [] => return (⟨negative, whole, fraction, none⟩, [])

theorem scanTail_eq (negative : Bool) (whole cs : List Char) :
    scanTail negative whole cs =
      (fraction? cs).bind fun p => scanRest negative whole p.1 p.2 := by
  by_cases hpoint : ∃ r, cs = '.' :: r
  · obtain ⟨r, rfl⟩ := hpoint
    simp only [scanTail, fraction?, digitRun?]
    cases r.takeWhile isDigit <;> rfl
  · have hfraction : fraction? cs = some (none, cs) := by
      unfold fraction?
      split
      · exact absurd ⟨_, rfl⟩ hpoint
      · rfl
    rw [hfraction, Option.bind_some]
    unfold scanTail
    split
    · exact absurd ⟨_, rfl⟩ hpoint
    · rfl

theorem fraction?_append (h : Closing rest) {cs r : List Char} {f : Option (List Char)}
    (hf : fraction? cs = some (f, r)) : fraction? (cs ++ rest) = some (f, r ++ rest) := by
  have hnone {c : Char} (hc : c ≠ '.') (t : List Char) : fraction? (c :: t) = some (none, c :: t) := by
    unfold fraction?
    split
    · rename_i heq
      exact absurd (List.cons.inj heq).1 hc
    · rfl
  cases cs with
  | nil =>
    cases hf
    cases rest with
    | nil => rfl
    | cons c t => exact hnone (h.head_ne (by decide)) t
  | cons c t =>
    by_cases hc : c = '.'
    · subst hc
      obtain ⟨⟨ds, r'⟩, hrun, heq⟩ := Option.map_eq_some_iff.1 hf
      obtain ⟨rfl, rfl⟩ := Prod.mk.inj heq
      rw [List.cons_append, fraction?, digitRun?_append h hrun, Option.map_some]
    · rw [hnone hc, Option.some.injEq, Prod.mk.injEq] at hf
      obtain ⟨rfl, rfl⟩ := hf
      exact hnone hc (t ++ rest)

theorem scanRest_append (h : Closing rest) {negative : Bool} {whole cs r : List Char}
    {fraction : Option (List Char)} {l : Literal}
    (hscan : scanRest negative whole fraction cs = some (l, r)) :
    scanRest negative whole fraction (cs ++ rest) = some (l, r ++ rest) := by
  cases cs with
  | nil =>
    cases hscan
    cases rest with
    | nil => rfl
    | cons c t =>
      have hc : ¬ (c = 'e' ∨ c = 'E') :=
        not_or.2 ⟨h.head_ne (by decide), h.head_ne (by decide)⟩
      rw [List.nil_append, scanRest, if_neg hc]
      rfl
  | cons c t =>
    rw [List.cons_append, scanRest]
    rw [scanRest] at hscan
    by_cases hc : c = 'e' ∨ c = 'E'
    · rw [if_pos hc] at hscan ⊢
      obtain ⟨⟨e, r'⟩, he, heq⟩ := Option.bind_eq_some_iff.1 hscan
      cases heq
      rw [scanExponent_append h he]
      rfl
    · rw [if_neg hc] at hscan ⊢
      cases hscan
      rfl

theorem scanTail_append (h : Closing rest) {negative : Bool} {whole cs r : List Char} {l : Literal}
    (hscan : scanTail negative whole cs = some (l, r)) :
    scanTail negative whole (cs ++ rest) = some (l, r ++ rest) := by
  rw [scanTail_eq] at hscan
  obtain ⟨⟨f, r'⟩, hf, hrest⟩ := Option.bind_eq_some_iff.1 hscan
  rw [scanTail_eq, fraction?_append h hf, Option.bind_some, scanRest_append h hrest]

def sign : List Char → Bool × List Char
  | '-' :: r => (true, r)
  | r => (false, r)

theorem sign_of_ne {c : Char} (hc : c ≠ '-') (t : List Char) : sign (c :: t) = (false, c :: t) := by
  unfold sign
  split
  · rename_i heq
    exact absurd (List.cons.inj heq).1 hc
  · rfl

def scanUnsigned (negative : Bool) (cs : List Char) : Option (Literal × List Char) :=
  match cs.takeWhile isDigit with
  | [] => none
  | '0' :: _ :: _ => none
  | ds => scanTail negative ds (cs.dropWhile isDigit)

theorem scan_eq (cs : List Char) : scan cs = scanUnsigned (sign cs).1 (sign cs).2 := rfl

def hasLeadingZero : List Char → Bool
  | '0' :: _ :: _ => true
  | _ => false

theorem scanUnsigned_eq (negative : Bool) (cs : List Char) :
    scanUnsigned negative cs = (digitRun? cs).bind fun p =>
      if hasLeadingZero p.1 then none else scanTail negative p.1 p.2 := by
  unfold scanUnsigned digitRun?
  cases cs.takeWhile isDigit with
  | nil => rfl
  | cons d ds =>
    rw [Option.bind_some]
    unfold hasLeadingZero
    split <;> rename_i heq
    · cases heq
    · obtain ⟨rfl, rfl⟩ := List.cons.inj heq
      rfl
    · split
      · rename_i d' ds' heq'
        exact absurd heq' (heq d' ds')
      · rfl

theorem scan_append (h : Closing rest) {cs r : List Char} {l : Literal}
    (hscan : scan cs = some (l, r)) : scan (cs ++ rest) = some (l, r ++ rest) := by
  rw [scan_eq, scanUnsigned_eq] at hscan
  obtain ⟨⟨ds, r₁⟩, hrun, htail⟩ := Option.bind_eq_some_iff.1 hscan
  have hsign : sign (cs ++ rest) = ((sign cs).1, (sign cs).2 ++ rest) := by
    cases cs with
    | nil => cases hrun
    | cons c t =>
      by_cases hc : c = '-'
      · subst hc
        rfl
      · rw [List.cons_append, sign_of_ne hc, sign_of_ne hc, List.cons_append]
  rw [scan_eq, hsign, scanUnsigned_eq, digitRun?_append h hrun, Option.bind_some]
  by_cases hzero : hasLeadingZero ds
  · simp only [if_pos hzero, reduceCtorEq] at htail
  · rw [if_neg hzero] at htail ⊢
    exact scanTail_append h htail

theorem read_append (h : Closing rest) {cs r : List Char} {v : Json}
    (hread : read cs = some (v, r)) : read (cs ++ rest) = some (v, r ++ rest) := by
  obtain ⟨⟨l, r'⟩, hscan, hvalue⟩ := Option.bind_eq_some_iff.1 hread
  obtain ⟨w, hw, heq⟩ := Option.bind_eq_some_iff.1 hvalue
  cases heq
  rw [read, scan_append h hscan]
  simp only [Option.bind_eq_bind, Option.bind_some, hw]
  rfl

theorem head_of_read {c : Char} {t r : List Char} {v : Json} (hread : read (c :: t) = some (v, r)) :
    c = '-' ∨ isDigit c = true := by
  obtain ⟨⟨l, r'⟩, hscan, -⟩ := Option.bind_eq_some_iff.1 hread
  by_cases hc : c = '-'
  · exact Or.inl hc
  · rw [scan_eq, sign_of_ne hc, scanUnsigned_eq] at hscan
    obtain ⟨⟨ds, r₁⟩, hrun, -⟩ := Option.bind_eq_some_iff.1 hscan
    refine Or.inr ?_
    by_contra hd
    rw [digitRun?, List.takeWhile_cons_of_neg hd] at hrun
    cases hrun

theorem natOfDigits_toDigits (n : Nat) : natOfDigits (Nat.toDigits 10 n) = n :=
  Nat.ofDigitChars_ten_toDigits

theorem digitRun?_toDigits (n : Nat) :
    digitRun? (Nat.toDigits 10 n) = some (Nat.toDigits 10 n, []) := by
  have hall : ∀ c ∈ Nat.toDigits 10 n, isDigit c = true := fun c hc => by
    rw [isDigit_eq]
    exact Nat.isDigit_of_mem_toDigits (by decide) (by decide) hc
  unfold digitRun?
  rw [List.takeWhile_eq_self_iff.2 hall, List.dropWhile_eq_nil_iff.2 hall]
  cases hd : Nat.toDigits 10 n with
  | nil => exact absurd hd Nat.toDigits_ne_nil
  | cons d ds => rfl

theorem head_toDigits_ne_zero {n : Nat} (h : 0 < n) : (Nat.toDigits 10 n).head? ≠ some '0' := by
  induction n using Nat.strongRecOn with
  | ind n ih =>
    by_cases hn : n < 10
    · have hdigit : ∀ d < 10, 0 < d → d.digitChar ≠ '0' := by decide
      rw [Nat.toDigits_of_lt_base hn, List.head?_cons, ne_eq, Option.some.injEq]
      exact hdigit n hn h
    · have hfront := ih (n / 10) (by omega) (by omega)
      rw [Nat.toDigits_of_base_le (by decide) (by omega)]
      cases hd : Nat.toDigits 10 (n / 10) with
      | nil => exact absurd hd Nat.toDigits_ne_nil
      | cons d ds => rwa [hd] at hfront

theorem hasLeadingZero_toDigits (n : Nat) : hasLeadingZero (Nat.toDigits 10 n) = false := by
  unfold hasLeadingZero
  split
  · rename_i hd
    rcases Nat.eq_zero_or_pos n with rfl | hn
    · cases hd
    · exact absurd (congrArg List.head? hd) (head_toDigits_ne_zero hn)
  · rfl

theorem scan_intText (n : Int) :
    scan (intText n) = some (⟨decide (n < 0), Nat.toDigits 10 n.natAbs, none, none⟩, []) := by
  have hsign : sign (intText n) = (decide (n < 0), Nat.toDigits 10 n.natAbs) := by
    unfold intText
    by_cases hn : n < 0
    · simp only [if_pos hn, decide_eq_true hn, sign]
    · rw [if_neg hn, decide_eq_false hn]
      cases hd : Nat.toDigits 10 n.natAbs with
      | nil => exact absurd hd Nat.toDigits_ne_nil
      | cons d ds =>
        refine sign_of_ne ?_ ds
        rintro rfl
        have hdigit : '-' ∈ Nat.toDigits 10 n.natAbs := hd ▸ List.mem_cons_self ..
        exact absurd (Nat.isDigit_of_mem_toDigits (by decide) (by decide) hdigit) (by decide)
  rw [scan_eq, hsign, scanUnsigned_eq, digitRun?_toDigits, Option.bind_some,
    hasLeadingZero_toDigits]
  rfl

/-- A number that stays whole: it has 64 bits, the sign being one of them if it is negative. -/
def StaysWhole (n : Int) : Prop :=
  if n < 0 then n.natAbs ≤ Nat.pow 2 63 else n.natAbs ≤ maxSignificand

theorem read_intText {n : Int} (h : StaysWhole n) : read (intText n) = some (int n, []) := by
  have hvalue : value ⟨decide (n < 0), Nat.toDigits 10 n.natAbs, none, none⟩ = some (int n) := by
    simp only [value, natOfDigits_toDigits]
    unfold StaysWhole at h
    by_cases hn : n < 0
    · have hzero : n.natAbs ≠ 0 := by omega
      have hnegate : -(n.natAbs : Int) = n := by omega
      rw [if_pos hn] at h
      rw [decide_eq_true hn, if_pos rfl, if_neg hzero, if_pos h, hnegate]
    · have hself : (n.natAbs : Int) = n := by omega
      rw [if_neg hn] at h
      rw [decide_eq_false hn, if_neg Bool.false_ne_true, if_pos h, hself]
  rw [read, scan_intText]
  simp only [Option.bind_eq_bind, Option.bind_some, hvalue]
  rfl

theorem number_of_value {l : Literal} {v : Json} (h : value l = some v) :
    (∃ n : Int, v = int n ∧ StaysWhole n) ∨ ∃ d, v = float d := by
  have hfloat : (floatOf l).map float = some v → ∃ d, v = float d := fun hd => by
    obtain ⟨d, -, rfl⟩ := Option.map_eq_some_iff.1 hd
    exact ⟨d, rfl⟩
  simp only [value] at h
  split at h
  · split at h
    · split at h
      · cases h
        exact Or.inr ⟨_, rfl⟩
      · rename_i hzero
        split at h
        · rename_i hbound
          cases h
          have hneg : -(natOfDigits l.whole : Int) < 0 := by omega
          refine Or.inl ⟨_, rfl, ?_⟩
          rwa [StaysWhole, if_pos hneg, Int.natAbs_neg, Int.natAbs_natCast]
        · exact Or.inr (hfloat h)
    · split at h
      · rename_i hbound
        cases h
        have hpos : ¬ (natOfDigits l.whole : Int) < 0 := by omega
        refine Or.inl ⟨_, rfl, ?_⟩
        rwa [StaysWhole, if_neg hpos, Int.natAbs_natCast]
      · exact Or.inr (hfloat h)
  · exact Or.inr (hfloat h)

theorem number_of_read {cs r : List Char} {v : Json} (h : read cs = some (v, r)) :
    (∃ n : Int, v = int n ∧ StaysWhole n) ∨ ∃ d, v = float d := by
  obtain ⟨⟨l, r'⟩, -, hvalue⟩ := Option.bind_eq_some_iff.1 h
  obtain ⟨w, hw, heq⟩ := Option.bind_eq_some_iff.1 hvalue
  cases heq
  exact number_of_value hw

end Number

end ChatRetrieval.Json
