import ChatRetrieval.Proofs.Dict
import ChatRetrieval.Proofs.Json.Numeral

/-!
Reading what was printed. The compact text of a value that was read gives the value again, provided
every double in it reads back from its own text; the reader does not promise that of all doubles.
-/

namespace ChatRetrieval.Json

namespace Reader

@[simp] theorem orIllegible_some (fuel : Nat) (cs : List Char) (x : Json × List Char) :
    orIllegible fuel cs (some x) = some x := rfl

theorem orIllegible_eq_some {fuel : Nat} {read : Option (Json × List Char)} {cs r : List Char}
    {v : Json} (h : orIllegible fuel cs read = some (v, r)) :
    read = some (v, r) ∨ v = .illegible ∧ skip fuel cs = some r := by
  cases read with
  | some x => exact Or.inl h
  | none =>
    obtain ⟨_, hskip, heq⟩ := Option.map_eq_some_iff.1 h
    cases heq
    exact Or.inr ⟨rfl, hskip⟩

theorem skipSpace_cons {c : Char} (h : isSpace c = false) (r : List Char) :
    skipSpace (c :: r) = c :: r := by
  rw [skipSpace, List.dropWhile_cons_of_neg (by simp [h])]

theorem hexValue?_hexDigit : ∀ n < 16, hexValue? (hexDigit n) = some n := by decide

theorem unicodeEscape_control {c : Char} (h : c.toNat < 0x20) (r : List Char) :
    unicodeEscape ('0' :: '0' :: hexDigit (c.toNat / 16) :: hexDigit (c.toNat % 16) :: r) =
      some (c, r) := by
  have hhigh := hexValue?_hexDigit (c.toNat / 16) (by omega)
  have hlow := hexValue?_hexDigit (c.toNat % 16) (by omega)
  have hzero : hexValue? '0' = some 0 := rfl
  have hunit : ((0 * 16 + 0) * 16 + c.toNat / 16) * 16 + c.toNat % 16 = c.toNat := by omega
  have hlone : ¬ (0xDC00 ≤ c.toNat ∧ c.toNat ≤ 0xDFFF) := by omega
  have hpair : ¬ (0xD800 ≤ c.toNat ∧ c.toNat ≤ 0xDBFF) := by omega
  simp only [unicodeEscape, hexQuad, hzero, hhigh, hlow, Option.bind_eq_bind, Option.bind_some,
    hunit, if_neg hlone, if_neg hpair, Char.ofNat_toNat, Option.pure_def]

theorem stringBody_escapeChar (fuel : Nat) (acc : List Char) (c : Char) (r : List Char) :
    stringBody (fuel + 1) acc (escapeChar c ++ r) = stringBody fuel (c :: acc) r := by
  by_cases hnamed : c = '"' ∨ c = '\\' ∨ c = '\x08' ∨ c = '\x0c' ∨ c = '\n' ∨ c = '\r' ∨ c = '\t'
  · rcases hnamed with rfl | rfl | rfl | rfl | rfl | rfl | rfl <;> rfl
  · simp only [not_or] at hnamed
    obtain ⟨hquote, hslash, hback, hfeed, hline, hreturn, htab⟩ := hnamed
    simp only [escapeChar, if_neg hquote, if_neg hslash, if_neg hback, if_neg hfeed, if_neg hline,
      if_neg hreturn, if_neg htab]
    by_cases hcontrol : c.toNat < 0x20
    · have hescape : escape
          ('u' :: '0' :: '0' :: hexDigit (c.toNat / 16) :: hexDigit (c.toNat % 16) :: r) =
          some (c, r) := unicodeEscape_control hcontrol r
      rw [if_pos hcontrol]
      simp only [List.cons_append, List.nil_append, stringBody, hescape, Char.reduceEq, if_false,
        if_true]
    · rw [if_neg hcontrol, List.singleton_append, stringBody, if_neg hquote, if_neg hslash,
        if_neg hcontrol]

theorem stringBody_quoted {fuel : Nat} (s : List Char) (h : s.length < fuel) (acc r : List Char) :
    stringBody fuel acc (s.flatMap escapeChar ++ '"' :: r) =
      some (String.ofList (acc.reverse ++ s), r) := by
  induction s generalizing fuel acc with
  | nil =>
    obtain ⟨f, rfl⟩ := Nat.exists_eq_add_of_lt h
    simp [stringBody]
  | cons c s ih =>
    obtain ⟨f, rfl⟩ : ∃ f, fuel = f + 1 := ⟨fuel - 1, by omega⟩
    rw [List.flatMap_cons, List.append_assoc, stringBody_escapeChar,
      ih (by simpa using h), List.reverse_cons, List.append_assoc, List.singleton_append]

theorem length_le_escaped (s : List Char) : s.length ≤ (s.flatMap escapeChar).length := by
  have hpos : ∀ c, 1 ≤ (escapeChar c).length := by
    intro c
    unfold escapeChar
    repeat' split
    all_goals simp
  induction s with
  | nil => exact Nat.zero_le _
  | cons c s ih =>
    have hc := hpos c
    rw [List.length_cons, List.flatMap_cons, List.length_append]
    omega

theorem stringBody_quote (s : String) (r : List Char) :
    ∃ body, quote s ++ r = '"' :: body ∧
      stringBody (body.length + 1) [] body = some (s, r) := by
  have hlength := length_le_escaped s.toList
  refine ⟨s.toList.flatMap escapeChar ++ '"' :: r, by simp [quote], ?_⟩
  rw [stringBody_quoted s.toList (by rw [List.length_append]; omega), List.reverse_nil,
    List.nil_append, String.ofList_toList]

end Reader

/-- A value all of whose doubles read back from their own text. -/
inductive Rereads : Json → Prop
  | null : Rereads null
  | bool (b : Bool) : Rereads (bool b)
  | int (n : Int) : Rereads (int n)
  | float {d : Double} (h : Number.read (float d).chars = some (float d, [])) : Rereads (float d)
  | str (s : String) : Rereads (str s)
  | arr {items : List Json} (h : ∀ x ∈ items, Rereads x) : Rereads (arr items)
  | obj {members : List (String × Json)} (h : ∀ m ∈ members, Rereads m.2) : Rereads (obj members)

/-- A value that a reader can give that accepts so many levels of nesting. -/
inductive Fits : Nat → Json → Prop
  | null {depth : Nat} : Fits depth null
  | bool {depth : Nat} (b : Bool) : Fits depth (bool b)
  | int {depth : Nat} {n : Int} (h : Number.StaysWhole n) : Fits depth (int n)
  | float {depth : Nat} (d : Double) : Fits depth (float d)
  | str {depth : Nat} (s : String) : Fits depth (str s)
  | arr {depth : Nat} {items : List Json} (h : ∀ x ∈ items, Fits depth x) :
      Fits (depth + 1) (arr items)
  | obj {depth : Nat} {members : List (String × Json)} (h : ∀ m ∈ members, Fits depth m.2) :
      Fits (depth + 1) (obj members)
  | illegible {depth : Nat} : Fits depth illegible

theorem closing_itemChars (xs : List Json) (r : List Char) : Closing (itemChars xs ++ r) := by
  cases xs <;> intro c hc <;> cases hc
  · exact Or.inr (Or.inl rfl)
  · exact Or.inl rfl

theorem closing_memberChars (ms : List (String × Json)) (r : List Char) :
    Closing (memberChars ms ++ r) := by
  cases ms <;> intro c hc <;> cases hc
  · exact Or.inr (Or.inr rfl)
  · exact Or.inl rfl

namespace Reader

theorem isSpace_of_number {c : Char} (h : c = '-' ∨ Number.isDigit c = true) :
    isSpace c = false := by
  rw [← Bool.not_eq_true]
  intro hs
  simp only [isSpace, decide_eq_true_eq] at hs
  rcases hs with rfl | rfl | rfl | rfl <;> exact absurd h (by decide)

theorem value_number {fuel depth : Nat} {cs r : List Char} {v : Json}
    (h : Number.read cs = some (v, r)) : value (fuel + 1) depth cs = some (v, r) := by
  cases cs with
  | nil => cases h
  | cons c t =>
    have hhead := Number.head_of_read h
    rw [value, skipSpace_cons (isSpace_of_number hhead)]
    split
    case h_1 heq => cases heq
    case h_8 heq => exact heq ▸ h
    all_goals
      -- in all other cases the text begins with a mark that no number has
      rename_i heq
      obtain ⟨rfl, -⟩ := List.cons.inj heq
      exact absurd hhead (by decide)

theorem value_quote (fuel depth : Nat) (s : String) (r : List Char) :
    value (fuel + 1) depth (quote s ++ r) = some (str s, r) := by
  obtain ⟨body, hbody, hs⟩ := stringBody_quote s r
  rw [hbody]
  change (stringBody (body.length + 1) [] body).map (fun p => (str p.1, p.2)) = _
  rw [hs, Option.map_some]

/-- The text of the value is read as the value by a reader that accepts so many levels of nesting,
whatever closes it; it begins neither with a space nor like the end of an array. -/
structure Reads (depth : Nat) (j : Json) : Prop where
  starts : ∃ c t, j.chars = c :: t ∧ isSpace c = false ∧ c ≠ ']'
  read : ∀ fuel rest, j.chars.length ≤ fuel → Closing rest →
    value fuel depth (j.chars ++ rest) = some (j, rest)

theorem Reads.length_pos {depth : Nat} {j : Json} (h : Reads depth j) : 0 < j.chars.length := by
  obtain ⟨c, t, hchars, -⟩ := h.starts
  rw [hchars]
  exact Nat.succ_pos _

theorem items_chars {depth fuel : Nat} {x : Json} {xs : List Json}
    (h : ∀ y ∈ x :: xs, Reads depth y) (hfuel : (x.chars ++ itemChars xs).length ≤ fuel)
    (acc : List Json) (r : List Char) :
    items fuel depth acc (x.chars ++ (itemChars xs ++ r)) = some (acc.reverse ++ x :: xs, r) := by
  induction xs generalizing x fuel acc with
  | nil =>
    have hx := h x (List.mem_cons_self ..)
    simp only [itemChars, List.length_append, List.length_cons, List.length_nil] at hfuel
    obtain ⟨f, rfl⟩ : ∃ f, fuel = f + 1 := ⟨fuel - 1, by omega⟩
    have hread := hx.read f (itemChars [] ++ r) (by omega) (closing_itemChars [] r)
    rw [items, hread, orIllegible_some]
    simp only [itemChars, List.singleton_append, skipSpace_cons (c := ']') rfl, List.reverse_cons]
  | cons y ys ih =>
    have hx := h x (List.mem_cons_self ..)
    have hlength := hx.length_pos
    simp only [itemChars, List.length_append, List.length_cons] at hfuel
    obtain ⟨f, rfl⟩ : ∃ f, fuel = f + 1 := ⟨fuel - 1, by omega⟩
    have hread := hx.read f (itemChars (y :: ys) ++ r) (by omega) (closing_itemChars _ _)
    have hbound : (y.chars ++ itemChars ys).length ≤ f := by
      rw [List.length_append]
      omega
    have hrest := ih (fun z hz => h z (List.mem_cons_of_mem _ hz)) hbound (x :: acc)
    rw [items, hread, orIllegible_some]
    simp only [itemChars, List.cons_append, skipSpace_cons (c := ',') rfl, List.append_assoc]
    rw [hrest, List.reverse_cons, List.append_assoc, List.singleton_append]

theorem members_chars {depth fuel : Nat} {m : String × Json} {ms : List (String × Json)}
    (h : ∀ n ∈ m :: ms, Reads depth n.2)
    (hfuel : (quote m.1 ++ ':' :: (m.2.chars ++ memberChars ms)).length ≤ fuel)
    (acc : List (String × Json)) (r : List Char) :
    members fuel depth acc (quote m.1 ++ ':' :: (m.2.chars ++ (memberChars ms ++ r))) =
      some (acc.reverse ++ m :: ms, r) := by
  induction ms generalizing m fuel acc with
  | nil =>
    have hm := h m (List.mem_cons_self ..)
    simp only [memberChars, List.length_append, List.length_cons, List.length_nil] at hfuel
    obtain ⟨f, rfl⟩ : ∃ f, fuel = f + 1 := ⟨fuel - 1, by omega⟩
    have hread := hm.read f (memberChars [] ++ r) (by omega) (closing_memberChars [] r)
    obtain ⟨body, hbody, hkey⟩ := stringBody_quote m.1 (':' :: (m.2.chars ++ (memberChars [] ++ r)))
    rw [hbody, members, skipSpace_cons (by decide)]
    simp only [hkey, skipSpace_cons (c := ':') rfl, hread, orIllegible_some]
    simp only [memberChars, List.singleton_append, skipSpace_cons (c := '\x7d') rfl,
      List.reverse_cons]
  | cons n ns ih =>
    have hm := h m (List.mem_cons_self ..)
    simp only [memberChars, List.length_append, List.length_cons] at hfuel
    obtain ⟨f, rfl⟩ : ∃ f, fuel = f + 1 := ⟨fuel - 1, by omega⟩
    have hread := hm.read f (memberChars (n :: ns) ++ r) (by omega) (closing_memberChars _ _)
    have hbound : (quote n.1 ++ ':' :: (n.2.chars ++ memberChars ns)).length ≤ f := by
      simp only [List.length_append, List.length_cons]
      omega
    have hrest := ih (fun z hz => h z (List.mem_cons_of_mem _ hz)) hbound (m :: acc)
    obtain ⟨body, hbody, hkey⟩ :=
      stringBody_quote m.1 (':' :: (m.2.chars ++ (memberChars (n :: ns) ++ r)))
    rw [hbody, members, skipSpace_cons (by decide)]
    simp only [hkey, skipSpace_cons (c := ':') rfl, hread, orIllegible_some]
    simp only [memberChars, List.cons_append, skipSpace_cons (c := ',') rfl, List.append_assoc]
    rw [hrest, List.reverse_cons, List.append_assoc, List.singleton_append]

theorem reads_null (depth : Nat) : Reads depth null where
  starts := ⟨'n', _, rfl, rfl, by decide⟩
  read := by
    intro fuel rest hfuel _
    obtain ⟨f, rfl⟩ : ∃ f, fuel = f + 1 := ⟨fuel - 1, by simp [chars] at hfuel; omega⟩
    rfl

theorem reads_bool (depth : Nat) (b : Bool) : Reads depth (bool b) where
  starts := by cases b <;> exact ⟨_, _, rfl, rfl, by decide⟩
  read := by
    intro fuel rest hfuel _
    cases b <;>
    · obtain ⟨f, rfl⟩ : ∃ f, fuel = f + 1 := ⟨fuel - 1, by simp [chars] at hfuel; omega⟩
      rfl

theorem reads_number {depth : Nat} {j : Json} (h : Number.read j.chars = some (j, [])) :
    Reads depth j where
  starts := by
    cases hc : j.chars with
    | nil =>
      rw [hc] at h
      cases h
    | cons c t =>
      rw [hc] at h
      have hhead := Number.head_of_read h
      refine ⟨c, t, rfl, isSpace_of_number hhead, ?_⟩
      rintro rfl
      exact absurd hhead (by decide)
  read := by
    intro fuel rest hfuel hrest
    obtain ⟨f, rfl⟩ : ∃ f, fuel = f + 1 := by
      cases fuel with
      | zero =>
        rw [List.eq_nil_of_length_eq_zero (Nat.le_zero.1 hfuel)] at h
        cases h
      | succ f => exact ⟨f, rfl⟩
    exact value_number (Number.read_append hrest h)

theorem reads_str (depth : Nat) (s : String) : Reads depth (str s) where
  starts := ⟨'"', _, rfl, rfl, by decide⟩
  read := by
    intro fuel rest hfuel _
    simp only [chars, quote, List.cons_append, List.length_cons] at hfuel
    obtain ⟨f, rfl⟩ : ∃ f, fuel = f + 1 := ⟨fuel - 1, by omega⟩
    exact value_quote f depth s rest

theorem reads_arr {depth : Nat} {xs : List Json} (h : ∀ x ∈ xs, Reads depth x) :
    Reads (depth + 1) (arr xs) where
  starts := by cases xs <;> exact ⟨'[', _, rfl, rfl, by decide⟩
  read := by
    intro fuel rest hfuel _
    cases xs with
    | nil =>
      obtain ⟨f, rfl⟩ : ∃ f, fuel = f + 1 := ⟨fuel - 1, by simp [chars] at hfuel; omega⟩
      rfl
    | cons x xs =>
      simp only [chars, List.length_cons] at hfuel
      obtain ⟨f, rfl⟩ : ∃ f, fuel = f + 1 := ⟨fuel - 1, by omega⟩
      have hitems := items_chars h (Nat.le_of_succ_le_succ hfuel) [] rest
      obtain ⟨c, t, hc, hspace, hclose⟩ := (h x (List.mem_cons_self ..)).starts
      have hbracket : value (f + 1) (depth + 1) ('[' :: (x.chars ++ (itemChars xs ++ rest))) =
          (items f depth [] (x.chars ++ (itemChars xs ++ rest))).map fun p => (arr p.1, p.2) := by
        rw [hc, List.cons_append, value, skipSpace_cons (c := '[') rfl]
        simp only [skipSpace_cons hspace]
        split
        · rename_i heq
          exact absurd (List.cons.inj heq).1 hclose
        · rfl
      rw [chars, List.cons_append, List.append_assoc, hbracket, hitems]
      rfl

theorem reads_obj {depth : Nat} {ms : List (String × Json)} (h : ∀ m ∈ ms, Reads depth m.2) :
    Reads (depth + 1) (obj ms) where
  starts := by obtain _ | ⟨⟨k, x⟩, ms⟩ := ms <;> exact ⟨'\x7b', _, rfl, rfl, by decide⟩
  read := by
    intro fuel rest hfuel _
    obtain _ | ⟨⟨k, x⟩, ms⟩ := ms
    · obtain ⟨f, rfl⟩ : ∃ f, fuel = f + 1 := ⟨fuel - 1, by simp [chars] at hfuel; omega⟩
      rfl
    · simp only [chars, List.length_cons] at hfuel
      obtain ⟨f, rfl⟩ : ∃ f, fuel = f + 1 := ⟨fuel - 1, by omega⟩
      have hmembers := members_chars h (Nat.le_of_succ_le_succ hfuel) [] rest
      rw [chars, List.cons_append, List.append_assoc, List.cons_append, List.append_assoc]
      change ((members f depth [] (quote k ++ ':' :: (x.chars ++ (memberChars ms ++ rest)))).map
        fun p => (obj p.1, p.2)) = _
      rw [hmembers]
      rfl

/-- A value that fits reads back, if its doubles do. -/
theorem reads_of_fits {depth : Nat} {j : Json} (h : Fits depth j) (hj : Rereads j) :
    Reads depth j := by
  induction h with
  | null => exact reads_null _
  | bool b => exact reads_bool _ b
  | int hn => exact reads_number (Number.read_intText hn)
  | float d =>
    cases hj with
    | float hd => exact reads_number hd
  | str s => exact reads_str _ s
  | arr _ ih =>
    cases hj with
    | arr hitems => exact reads_arr fun x hx => ih x hx (hitems x hx)
  | obj _ ih =>
    cases hj with
    | obj hmembers => exact reads_obj fun m hm => ih m hm (hmembers m hm)
  | illegible => cases hj

/-- What is read with so much fuel fits the nesting that is accepted. -/
structure FitsAt (fuel : Nat) : Prop where
  value : ∀ {depth cs v r}, Reader.value fuel depth cs = some (v, r) → Fits depth v
  items : ∀ {depth acc cs xs r}, (∀ x ∈ acc, Fits depth x) →
    Reader.items fuel depth acc cs = some (xs, r) → ∀ x ∈ xs, Fits depth x
  members : ∀ {depth acc cs ms r}, (∀ m ∈ acc, Fits depth m.2) →
    Reader.members fuel depth acc cs = some (ms, r) → ∀ m ∈ ms, Fits depth m.2

section

variable {fuel depth : Nat} {cs r : List Char} (h : FitsAt fuel)
include h

theorem FitsAt.value_succ {v : Json} (hv : Reader.value (fuel + 1) depth cs = some (v, r)) :
    Fits depth v := by
  rw [Reader.value] at hv
  split at hv
  case h_1 => cases hv
  case h_2 =>
    obtain ⟨⟨s, r'⟩, -, heq⟩ := Option.map_eq_some_iff.1 hv
    cases heq
    exact .str s
  case h_3 =>
    split at hv
    · cases hv
    split at hv
    · cases hv
      exact .arr (List.forall_mem_nil _)
    · obtain ⟨⟨xs, r'⟩, hxs, heq⟩ := Option.map_eq_some_iff.1 hv
      cases heq
      exact .arr (h.items (List.forall_mem_nil _) hxs)
  case h_4 =>
    split at hv
    · cases hv
    split at hv
    · cases hv
      exact .obj (List.forall_mem_nil _)
    · obtain ⟨⟨ms, r'⟩, hms, heq⟩ := Option.map_eq_some_iff.1 hv
      cases heq
      exact .obj (h.members (List.forall_mem_nil _) hms)
  case h_8 =>
    rcases Number.number_of_read hv with ⟨n, rfl, hn⟩ | ⟨d, rfl⟩
    · exact .int hn
    · exact .float d
  all_goals
    -- the three words
    obtain ⟨_, -, heq⟩ := Option.map_eq_some_iff.1 hv
    cases heq
    constructor

theorem FitsAt.orIllegible {v : Json}
    (hv : Reader.orIllegible fuel cs (Reader.value fuel depth cs) = some (v, r)) : Fits depth v := by
  rcases orIllegible_eq_some hv with hread | ⟨rfl, -⟩
  · exact h.value hread
  · exact .illegible

theorem FitsAt.items_succ {acc xs : List Json} (hacc : ∀ x ∈ acc, Fits depth x)
    (hxs : Reader.items (fuel + 1) depth acc cs = some (xs, r)) : ∀ x ∈ xs, Fits depth x := by
  rw [Reader.items] at hxs
  split at hxs
  · cases hxs
  rename_i x r' hx
  have hall : ∀ y ∈ x :: acc, Fits depth y := List.forall_mem_cons.2 ⟨h.orIllegible hx, hacc⟩
  split at hxs
  · exact h.items hall hxs
  · cases hxs
    exact fun y hy => hall y (List.mem_reverse.1 hy)
  · cases hxs

theorem FitsAt.members_succ {acc ms : List (String × Json)} (hacc : ∀ m ∈ acc, Fits depth m.2)
    (hms : Reader.members (fuel + 1) depth acc cs = some (ms, r)) : ∀ m ∈ ms, Fits depth m.2 := by
  rw [Reader.members] at hms
  split at hms
  case h_2 => cases hms
  split at hms
  · cases hms
  rename_i k _ _
  split at hms
  case h_2 => cases hms
  split at hms
  · cases hms
  rename_i x r' hx
  have hall : ∀ m ∈ (k, x) :: acc, Fits depth m.2 := List.forall_mem_cons.2 ⟨h.orIllegible hx, hacc⟩
  split at hms
  · exact h.members hall hms
  · cases hms
    exact fun m hm => hall m (List.mem_reverse.1 hm)
  · cases hms

end

theorem fitsAt (fuel : Nat) : FitsAt fuel := by
  induction fuel with
  | zero => exact ⟨nofun, nofun, nofun⟩
  | succ fuel ih => exact ⟨ih.value_succ, ih.items_succ, ih.members_succ⟩

end Reader

theorem canonicalItems_eq_map (xs : List Json) : canonicalItems xs = xs.map canonical := by
  induction xs with
  | nil => rfl
  | cons x xs ih => rw [canonicalItems, ih, List.map_cons]

theorem canonicalMembers_eq_map (ms : List (String × Json)) :
    canonicalMembers ms = ms.map fun m => (m.1, m.2.canonical) := by
  induction ms with
  | nil => rfl
  | cons m ms ih =>
    obtain ⟨k, x⟩ := m
    rw [canonicalMembers, ih, List.map_cons]

theorem Fits.canonical {depth : Nat} {j : Json} (h : Fits depth j) : Fits depth j.canonical := by
  induction h with
  | arr _ ih =>
    rw [Json.canonical, canonicalItems_eq_map]
    refine .arr fun y hy => ?_
    obtain ⟨x, hx, rfl⟩ := List.mem_map.1 hy
    exact ih x hx
  | obj _ ih =>
    rw [Json.canonical, canonicalMembers_eq_map]
    refine .obj fun n hn => ?_
    obtain ⟨m, hm, rfl⟩ := List.mem_map.1 (Dict.mem_ofList hn)
    exact ih m hm
  | int hn => exact .int hn
  | _ => constructor

mutual

theorem canonical_canonical : (j : Json) → j.canonical.canonical = j.canonical
  | null | bool _ | int _ | float _ | str _ | illegible => rfl
  | arr items => by
    rw [canonical, canonical, canonicalItems_eq_map (canonicalItems items),
      List.map_congr_left (canonical_of_mem_canonicalItems items), List.map_id']
  | obj members => by
    have hfixed : ∀ m ∈ (Dict.ofList (canonicalMembers members)).entries, (m.1, m.2.canonical) = m := by
      intro m hm
      rw [canonical_of_mem_canonicalMembers members m (Dict.mem_ofList hm)]
    rw [canonical, ofMembers, canonical, canonicalMembers_eq_map, List.map_congr_left hfixed,
      List.map_id', ofMembers, Dict.ofList_entries]

theorem canonical_of_mem_canonicalItems :
    (items : List Json) → ∀ x ∈ canonicalItems items, x.canonical = x
  | [] => nofun
  | x :: r => List.forall_mem_cons.2 ⟨x.canonical_canonical, canonical_of_mem_canonicalItems r⟩

theorem canonical_of_mem_canonicalMembers :
    (members : List (String × Json)) → ∀ m ∈ canonicalMembers members, m.2.canonical = m.2
  | [] => nofun
  | (_, x) :: r => List.forall_mem_cons.2 ⟨x.canonical_canonical, canonical_of_mem_canonicalMembers r⟩

end

theorem areLegible_iff (xs : List Json) : areLegible xs = true ↔ ∀ x ∈ xs, x.isLegible = true := by
  induction xs with
  | nil => simp [areLegible]
  | cons x r ih => simp [areLegible, ih]

theorem areLegibleMembers_iff (ms : List (String × Json)) :
    areLegibleMembers ms = true ↔ ∀ m ∈ ms, m.2.isLegible = true := by
  induction ms with
  | nil => simp [areLegibleMembers]
  | cons m r ih => simp [areLegibleMembers, ih]

mutual

theorem isLegible_canonical : (j : Json) → j.canonical.isLegible = true
  | null | bool _ | int _ | float _ | str _ | illegible => rfl
  | arr items => (areLegible_iff _).2 (isLegible_of_mem_canonicalItems items)
  | obj members => (areLegibleMembers_iff _).2 fun m hm =>
    isLegible_of_mem_canonicalMembers members m (Dict.mem_ofList hm)

theorem isLegible_of_mem_canonicalItems :
    (items : List Json) → ∀ x ∈ canonicalItems items, x.isLegible = true
  | [] => nofun
  | x :: r => List.forall_mem_cons.2 ⟨x.isLegible_canonical, isLegible_of_mem_canonicalItems r⟩

theorem isLegible_of_mem_canonicalMembers :
    (members : List (String × Json)) → ∀ m ∈ canonicalMembers members, m.2.isLegible = true
  | [] => nofun
  | (_, x) :: r =>
    List.forall_mem_cons.2 ⟨x.isLegible_canonical, isLegible_of_mem_canonicalMembers r⟩

end

theorem isLegible_of_canonical {j : Json} (h : j.canonical = j) : j.isLegible = true :=
  h ▸ j.isLegible_canonical

theorem legible?_of_canonical {j : Json} (h : j.canonical = j) : j.legible? = some j := by
  rw [legible?, if_pos (isLegible_of_canonical h), h]

theorem legible?_eq_some {j v : Json} (h : j.legible? = some v) :
    j.isLegible = true ∧ j.canonical = v := by
  unfold legible? at h
  split at h
  · exact ⟨‹_›, Option.some.inj h⟩
  · cases h

theorem parseRaw_render {j : Json} (h : Fits Reader.maxDepth j) (hj : j.Rereads) :
    parseRaw j.render = some j := by
  have hreads := (Reader.reads_of_fits h hj).read (2 * j.chars.length + 2) [] (by omega) closing_nil
  rw [List.append_nil] at hreads
  simp only [parseRaw, render, String.toList_ofList, hreads]
  rfl

theorem fits_of_parseRaw {text : String} {j : Json} (h : parseRaw text = some j) :
    Fits Reader.maxDepth j := by
  rw [parseRaw] at h
  split at h
  · rename_i hvalue
    split at h
    · cases h
      exact (Reader.fitsAt _).value hvalue
    · cases h
  · cases h

/-- A value that a text may spell, the names in its objects in order. -/
structure Readable (j : Json) : Prop where
  fits : Fits Reader.maxDepth j
  canonical : j.canonical = j

theorem Fits.readable_canonical {j : Json} (h : Fits Reader.maxDepth j) : Readable j.canonical :=
  ⟨h.canonical, j.canonical_canonical⟩

theorem readable_of_parse {text : String} {j : Json} (h : parse text = some j) : Readable j := by
  obtain ⟨v, hv, h⟩ := Option.bind_eq_some_iff.1 h
  rw [← (legible?_eq_some h).2]
  exact (fits_of_parseRaw hv).readable_canonical

/-- A value that was read and whose doubles read back is read again from its own text. -/
theorem Readable.parse_render {j : Json} (h : Readable j) (hj : j.Rereads) :
    parse j.render = some j := by
  rw [parse, parseRaw_render h.fits hj, Option.bind_some, legible?_of_canonical h.canonical]

end ChatRetrieval.Json
