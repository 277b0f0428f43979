import ChatRetrieval.Text.DataUrl
import Mathlib.Data.List.TakeWhile

/-!
Texts that are cut where they were joined. Inline media are read from the addresses they are written
as, and no other address holds any.
-/

namespace ChatRetrieval.Text

section

variable {p : Char → Bool}

section

variable {rest : List Char} (hrest : ∀ c ∈ rest.head?, p c = false)
include hrest

theorem takeWhile_append (cs : List Char) : (cs ++ rest).takeWhile p = cs.takeWhile p := by
  induction cs with
  | nil =>
    cases rest with
    | nil => rfl
    | cons c r =>
      rw [List.nil_append, List.takeWhile_nil, List.takeWhile_cons_of_neg (by simp [hrest c rfl])]
  | cons c cs ih => simp only [List.cons_append, List.takeWhile_cons, ih]

theorem dropWhile_append (cs : List Char) : (cs ++ rest).dropWhile p = cs.dropWhile p ++ rest := by
  induction cs with
  | nil =>
    cases rest with
    | nil => rfl
    | cons c r =>
      rw [List.nil_append, List.dropWhile_nil, List.nil_append,
        List.dropWhile_cons_of_neg (by simp [hrest c rfl])]
  | cons c cs ih =>
    simp only [List.cons_append, List.dropWhile_cons, ih]
    split <;> rfl

end

section

variable {c : Char} (hc : p c = false) (a x : List Char)
include hc

theorem takeWhile_append_stop : (a ++ c :: x).takeWhile p = a.takeWhile p :=
  takeWhile_append (by simpa using hc) a

theorem dropWhile_append_stop : (a ++ c :: x).dropWhile p = a.dropWhile p ++ c :: x :=
  dropWhile_append (by simpa using hc) a

end

section

variable {a : List Char} (ha : ∃ c ∈ a, p c = false) (x : List Char)
include ha

theorem takeWhile_append_of_exists : (a ++ x).takeWhile p = a.takeWhile p := by
  obtain ⟨c, hc, hp⟩ := ha
  obtain ⟨b, d, rfl⟩ := List.append_of_mem hc
  rw [List.append_assoc, List.cons_append, takeWhile_append_stop hp, takeWhile_append_stop hp]

theorem dropWhile_append_of_exists : (a ++ x).dropWhile p = a.dropWhile p ++ x := by
  obtain ⟨c, hc, hp⟩ := ha
  obtain ⟨b, d, rfl⟩ := List.append_of_mem hc
  rw [List.append_assoc, List.cons_append, dropWhile_append_stop hp, dropWhile_append_stop hp,
    List.append_assoc, List.cons_append]

end

end

@[simp] theorem after?_append (start s : String) : after? start (start ++ s) = some s := by
  have hprefix : start.toList.isPrefixOf (start ++ s).toList = true := by
    rw [List.isPrefixOf_iff_prefix, String.toList_append]
    exact List.prefix_append _ _
  rw [after?, if_pos hprefix, String.toList_append, ← String.length_toList, List.drop_left,
    String.ofList_toList]

@[simp] theorem before?_append (ending s : String) : before? ending (s ++ ending) = some s := by
  have hsuffix : ending.toList.isSuffixOf (s ++ ending).toList = true := by
    rw [List.isSuffixOf_iff_suffix, String.toList_append]
    exact List.suffix_append _ _
  rw [before?, if_pos hsuffix, String.toList_append, String.length_append, Nat.add_sub_cancel,
    ← String.length_toList, List.take_left, String.ofList_toList]

theorem cut?_append {c : Char} {front : String} (h : c ∉ front.toList) (back : String) :
    cut? c (front ++ String.singleton c ++ back) = some (front, back) := by
  have htake : (front.toList ++ c :: back.toList).takeWhile (· != c) = front.toList := by
    have hfront : ∀ x ∈ front.toList, (x != c) = true := fun x hx =>
      bne_iff_ne.2 fun hxc => h (hxc ▸ hx)
    rw [List.takeWhile_append_of_pos hfront, List.takeWhile_cons_of_neg (by simp), List.append_nil]
  have hchars : (front ++ String.singleton c ++ back).toList = front.toList ++ c :: back.toList := by
    simp [String.toList_append]
  simp only [cut?, hchars, htake, List.drop_left, String.ofList_toList]

theorem eq_of_after? {start s t : String} (h : after? start s = some t) : s = start ++ t := by
  unfold after? at h
  split at h
  · rename_i hprefix
    cases h
    obtain ⟨r, hr⟩ := List.isPrefixOf_iff_prefix.1 hprefix
    rw [← String.toList_inj, String.toList_append, String.toList_ofList, ← hr,
      ← String.length_toList, List.drop_left]
  · cases h

theorem eq_of_before? {ending s t : String} (h : before? ending s = some t) : s = t ++ ending := by
  unfold before? at h
  split at h
  · rename_i hsuffix
    cases h
    obtain ⟨r, hr⟩ := List.isSuffixOf_iff_suffix.1 hsuffix
    rw [← String.toList_inj, String.toList_append, String.toList_ofList, ← String.length_toList,
      ← String.length_toList, ← hr, List.length_append, Nat.add_sub_cancel, List.take_left]
  · cases h

theorem eq_of_cut? {c : Char} {s front back : String} (h : cut? c s = some (front, back)) :
    s = front ++ String.singleton c ++ back ∧ c ∉ front.toList := by
  have hnotMem : c ∉ s.toList.takeWhile (· != c) := fun hc => by
    simpa using List.mem_takeWhile_imp hc
  have hsplit := List.takeWhile_append_dropWhile (p := (· != c)) (l := s.toList)
  have hback : s.toList.drop (s.toList.takeWhile (· != c)).length = s.toList.dropWhile (· != c) := by
    have hdrop : (s.toList.takeWhile (· != c) ++ s.toList.dropWhile (· != c)).drop
      (s.toList.takeWhile (· != c)).length = s.toList.dropWhile (· != c) := List.drop_left
    rwa [hsplit] at hdrop
  have hhead := List.head?_dropWhile_not (· != c) s.toList
  simp only [cut?, hback] at h
  cases hrest : s.toList.dropWhile (· != c) with
  | nil =>
    rw [hrest] at h
    cases h
  | cons d r =>
    rw [hrest] at h hhead hsplit
    cases h
    obtain rfl : d = c := by simpa using hhead
    rw [String.toList_ofList]
    refine ⟨?_, hnotMem⟩
    rw [← String.toList_inj, String.toList_append, String.toList_append, String.toList_ofList,
      String.toList_ofList]
    exact hsplit.symm.trans (by simp)

namespace Inline

theorem ofUrl_url {i : Inline} (h : ',' ∉ i.mediaType.toList) : ofUrl i.url = .ok (some i) := by
  have hurl : i.url = "data:" ++ (i.mediaType ++ ";base64" ++ String.singleton ',' ++ i.data) := by
    simp only [url, String.append_assoc]
    rfl
  have hhead : ',' ∉ (i.mediaType ++ ";base64").toList := by
    rw [String.toList_append, List.mem_append, not_or]
    exact ⟨h, by decide⟩
  rw [hurl, ofUrl, after?_append]
  simp only [cut?_append hhead, before?_append]

theorem eq_of_ofUrl {url : String} {i : Inline} (h : ofUrl url = .ok (some i)) :
    url = i.url ∧ ',' ∉ i.mediaType.toList := by
  unfold ofUrl at h
  split at h
  · cases h
  · rename_i body hbody
    split at h
    · cases h
    · rename_i head data hcut
      split at h
      · cases h
      · rename_i mediaType hbefore
        cases h
        obtain ⟨rfl, hcomma⟩ := eq_of_cut? hcut
        obtain rfl := eq_of_before? hbefore
        rw [String.toList_append, List.mem_append, not_or] at hcomma
        refine ⟨?_, hcomma.1⟩
        rw [eq_of_after? hbody, Inline.url]
        simp only [String.append_assoc]
        rfl

theorem startsWith_of_ofUrl {url : String} (h : ofUrl url = .ok none) :
    startsWith "data:" url = false := by
  unfold ofUrl at h
  split at h
  · rename_i hafter
    rw [startsWith, hafter]
    rfl
  · split at h
    · cases h
    · split at h <;> cases h

theorem ofUrl_of_not_startsWith {url : String} (h : startsWith "data:" url = false) :
    ofUrl url = .ok none := by
  rw [ofUrl, Option.not_isSome_iff_eq_none.1 (Bool.eq_false_iff.1 h)]

end Inline

end ChatRetrieval.Text
