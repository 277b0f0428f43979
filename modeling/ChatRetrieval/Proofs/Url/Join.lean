import ChatRetrieval.Proofs.Result
import ChatRetrieval.Proofs.Text.Cuts
import ChatRetrieval.Url.Basic
import Mathlib.Data.List.DropRight

/-!
Addresses with a path behind them. A slash ends scheme and authority, so whether an address is well
formed is decided in front of the path.
-/

namespace ChatRetrieval.Url

open Text

theorem length_takeWhile_le (p : Char → Bool) (a : List Char) : (a.takeWhile p).length ≤ a.length :=
  (List.takeWhile_sublist p).length_le

theorem cutScheme_append_slash (a x : List Char) :
    cutScheme (a ++ '/' :: x) = (cutScheme a).map fun s => (s.1, s.2 ++ '/' :: x) := by
  have hstop : isSchemeChar '/' = false := by decide
  unfold cutScheme
  simp only [takeWhile_append_stop hstop,
    List.drop_append_of_le_length (length_takeWhile_le isSchemeChar a)]
  cases a.takeWhile isSchemeChar with
  | nil => rfl
  | cons d scheme =>
    cases a.drop (d :: scheme).length with
    | nil => rfl
    | cons e r =>
      by_cases he : e = ':'
      · subst he
        simp only [List.cons_append]
        split <;> rfl
      · simp only [List.cons_append]
        split
        · simp_all
        · split
          · simp_all
          · rfl

theorem isSome_withAuthority (scheme : List Char) (web : Bool) (a x y : List Char) :
    (withAuthority scheme web (a ++ '/' :: x)).isSome =
      (withAuthority scheme web (a ++ '/' :: y)).isSome := by
  have hauthority (z : List Char) :
      (a ++ '/' :: z).takeWhile (fun c => !(isSlash web c ∨ c = '?' ∨ c = '#')) =
        a.takeWhile fun c => !(isSlash web c ∨ c = '?' ∨ c = '#') :=
    takeWhile_append_stop (by simp [isSlash]) a z
  unfold withAuthority
  simp only [hauthority]
  generalize (a.takeWhile fun c => !(isSlash web c ∨ c = '?' ∨ c = '#')) = authority
  rcases cutUserInfo authority with ⟨username, password, hostPort, hasInfo⟩
  rcases cutPort false hostPort with ⟨hostText, portText⟩
  simp only [apply_ite Option.isSome, Option.bind_eq_bind, Option.isSome_bind, Option.pure_def,
    Option.isSome_some]

theorem isSome_fileUrl (scheme : List Char) {a : List Char} (ha : ∃ c ∈ a, isSlash true c = false)
    (hlength : 2 ≤ a.length) (x y : List Char) :
    (fileUrl scheme (a ++ '/' :: x)).isSome = (fileUrl scheme (a ++ '/' :: y)).isSome := by
  have hhost (z : List Char) :
      ((a ++ '/' :: z).drop 2).takeWhile (fun c => !(isSlash true c ∨ c = '?' ∨ c = '#')) =
        (a.drop 2).takeWhile fun c => !(isSlash true c ∨ c = '?' ∨ c = '#') := by
    rw [List.drop_append_of_le_length hlength]
    exact takeWhile_append_stop (by simp [isSlash]) _ z
  unfold fileUrl
  simp only [takeWhile_append_of_exists ha, hhost]
  by_cases hslashes : (a.takeWhile (isSlash true)).length = 2
  · simp only [if_pos hslashes]
    generalize (a.drop 2).takeWhile _ = hostText
    cases hostText.isEmpty with
    | true => rfl
    | false => cases webHost? hostText <;> rfl
  · simp only [if_neg hslashes]
    rfl

theorem not_isLineBreak {c : Char} (h : isTrimmed c = false) : (!isLineBreak c) = true := by
  have hne : ∀ d : Char, isTrimmed d = true → c ≠ d := by
    rintro d hd rfl
    exact Bool.false_ne_true (h.symm.trans hd)
  have htab : c ≠ '\t' := hne _ (by decide)
  have hfeed : c ≠ '\n' := hne _ (by decide)
  have hreturn : c ≠ '\r' := hne _ (by decide)
  simp [isLineBreak, htab, hfeed, hreturn]

theorem visible_append (a : List Char) {b : List Char} (hb : ∀ c ∈ b, isTrimmed c = false) :
    (Text.dropLastWhile isTrimmed ((a ++ '/' :: b).dropWhile isTrimmed)).filter
        (fun c => !isLineBreak c) =
      (a.dropWhile isTrimmed).filter (fun c => !isLineBreak c) ++ '/' :: b := by
  have hvisible : ∀ c ∈ '/' :: b, isTrimmed c = false :=
    List.forall_mem_cons.2 ⟨by decide, hb⟩
  have hlast : Text.dropLastWhile isTrimmed (a.dropWhile isTrimmed ++ '/' :: b) =
      a.dropWhile isTrimmed ++ '/' :: b := by
    refine List.rdropWhile_eq_self_iff.2 fun hne => ?_
    rw [List.getLast_append_of_ne_nil _ (List.cons_ne_nil _ _), hvisible _ (List.getLast_mem _)]
    exact Bool.false_ne_true
  rw [dropWhile_append_stop (by decide), hlast, List.filter_append,
    List.filter_eq_self.2 fun c hc => not_isLineBreak (hvisible c hc)]

section

variable {segment x y : List Char} (hsegment : ∃ c ∈ segment, isSlash true c = false)
  (hvisible : ∀ c ∈ segment, isTrimmed c = false) (hx : ∀ c ∈ x, isTrimmed c = false)
  (hy : ∀ c ∈ y, isTrimmed c = false)
include hsegment hvisible hx hy

/-- Behind the first segment of its path nothing decides whether an address is read. -/
theorem isSome_parse (a : List Char) :
    (parse (String.ofList (a ++ '/' :: (segment ++ '/' :: x)))).isSome =
      (parse (String.ofList (a ++ '/' :: (segment ++ '/' :: y)))).isSome := by
  have htail : ∀ z : List Char, (∀ c ∈ z, isTrimmed c = false) →
      ∀ c ∈ segment ++ '/' :: z, isTrimmed c = false := fun z hz =>
    List.forall_mem_append.2 ⟨hvisible, List.forall_mem_cons.2 ⟨by decide, hz⟩⟩
  unfold parse
  simp only [String.toList_ofList, visible_append a (htail x hx), visible_append a (htail y hy),
    cutScheme_append_slash]
  cases cutScheme ((a.dropWhile isTrimmed).filter fun c => !isLineBreak c) with
  | none => rfl
  | some cut =>
    obtain ⟨scheme, r⟩ := cut
    -- The first segment goes with what is read in front: it keeps the slashes of the authority apart
    -- from those of the path, and it is the host where the base ends in one slash.
    have hsplit (z : List Char) : r ++ '/' :: (segment ++ '/' :: z) =
        (r ++ '/' :: segment) ++ '/' :: z := by
      rw [List.append_assoc, List.cons_append]
    have hnamed : ∃ c ∈ r ++ '/' :: segment, isSlash true c = false := by
      obtain ⟨c, hc, hslash⟩ := hsegment
      exact ⟨c, List.mem_append_right _ (List.mem_cons_of_mem _ hc), hslash⟩
    have hlength : 2 ≤ (r ++ '/' :: segment).length := by
      obtain ⟨c, hc, -⟩ := hsegment
      have := List.length_pos_of_mem hc
      simp only [List.length_append, List.length_cons]
      omega
    simp only [Option.map_some, Option.bind_eq_bind, Option.bind_some, hsplit]
    generalize r ++ '/' :: segment = front at hnamed hlength
    by_cases hfile : scheme = "file".toList
    · simp only [if_pos hfile]
      exact isSome_fileUrl scheme hnamed hlength x y
    by_cases hweb : isWeb scheme = true
    · simp only [if_neg hfile, if_pos hweb, dropWhile_append_of_exists hnamed]
      exact isSome_withAuthority scheme true _ x y
    · simp only [if_neg hfile, if_neg hweb]
      match front, hlength with
      | c :: d :: front, _ =>
        by_cases hc : c = '/'
        · by_cases hd : d = '/'
          · subst hc hd
            exact isSome_withAuthority scheme false front x y
          · subst hc
            simp [hd]
        · simp [hc]

theorem isOk_join (base : String) {p q : String}
    (hp : p.toList.dropWhile (· == '/') = segment ++ '/' :: x)
    (hq : q.toList.dropWhile (· == '/') = segment ++ '/' :: y) :
    (join base p).isOk = (join base q).isOk := by
  have hjoined (path : String) : joined base path = String.ofList
      (Text.dropLastWhile (· == '/') base.toList ++ '/' :: path.toList.dropWhile (· == '/')) := by
    apply String.toList_injective
    simp [joined]
  have hparsed := isSome_parse hsegment hvisible hx hy (Text.dropLastWhile (· == '/') base.toList)
  rw [← hp, ← hq, ← hjoined, ← hjoined] at hparsed
  rw [join, join, Result.isOk_eq_isSome_toOption, Result.isOk_eq_isSome_toOption,
    Result.toOption_within, Result.toOption_within, Result.toOption_ofOption,
    Result.toOption_ofOption, hparsed]

end

end ChatRetrieval.Url
