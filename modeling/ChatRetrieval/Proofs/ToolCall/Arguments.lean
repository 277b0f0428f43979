import ChatRetrieval.Message.Turn
import ChatRetrieval.Proofs.Json.RoundTrip

/-!
The arguments of a call as a value. Blank arguments stand for an empty object, and no text that spells
a value is blank.
-/

namespace ChatRetrieval

theorem Text.isBlank_of_isDigit {c : Char} (h : Json.Number.isDigit c = true) :
    Text.isBlank c = false := by
  simp only [Json.Number.isDigit, decide_eq_true_eq, Char.le_def, UInt32.le_iff_toNat_le] at h
  have hlow : 48 ≤ c.toNat := h.1
  have hhigh : c.toNat ≤ 57 := h.2
  simp only [isBlank, decide_eq_false_iff_not]
  omega

theorem Text.mem_dropWhile {p : Char → Bool} {c : Char} (hp : p c = false) {cs : List Char}
    (hc : c ∈ cs) : c ∈ cs.dropWhile p := by
  rw [← cs.takeWhile_append_dropWhile (p := p)] at hc
  refine (List.mem_append.1 hc).resolve_left fun htake => ?_
  rw [List.mem_takeWhile_imp htake] at hp
  cases hp

theorem Json.Reader.exists_not_blank {fuel depth : Nat} {cs r : List Char} {v : Json}
    (h : value fuel depth cs = some (v, r)) : ∃ c ∈ cs, Text.isBlank c = false := by
  obtain _ | fuel := fuel
  · cases h
  have hmem {c : Char} {t : List Char} (hc : skipSpace cs = c :: t) : c ∈ cs :=
    (List.dropWhile_suffix _).subset (hc ▸ List.mem_cons_self ..)
  rw [value] at h
  split at h
  case h_1 => cases h
  case h_8 c t _ _ _ _ _ _ hc =>
    refine ⟨c, hmem hc, ?_⟩
    rcases Number.head_of_read h with rfl | hdigit
    · rfl
    · exact Text.isBlank_of_isDigit hdigit
  all_goals
    rename_i hc
    exact ⟨_, hmem hc, rfl⟩

theorem Json.trim_nonempty_of_parse {text : String} {v : Json} (h : Json.parse text = some v) :
    (Text.trim text).isEmpty = false := by
  obtain ⟨raw, hraw, -⟩ := Option.bind_eq_some_iff.1 h
  simp only [Json.parseRaw] at hraw
  split at hraw
  case h_2 => cases hraw
  rename_i hvalue
  obtain ⟨c, hc, hblank⟩ := Reader.exists_not_blank hvalue
  have hmem : c ∈ (Text.trim text).toList := by
    rw [Text.trim, String.toList_ofList, Text.dropLastWhile, List.mem_reverse]
    exact Text.mem_dropWhile hblank (List.mem_reverse.2 (Text.mem_dropWhile hblank hc))
  rw [← Bool.not_eq_true, String.isEmpty_iff]
  intro hempty
  rw [hempty] at hmem
  exact List.not_mem_nil hmem

theorem ToolCall.argumentValue_of_parse {c : ToolCall} {v : Json}
    (h : Json.parse c.arguments = some v) : c.argumentValue = .ok v := by
  rw [argumentValue, if_neg (by simp [Json.trim_nonempty_of_parse h]), h]
  rfl

theorem ToolCall.argumentValue_of_render {c : ToolCall} {v : Json} (hc : c.arguments = v.render)
    (h : v.Readable) (hv : v.Rereads) : c.argumentValue = .ok v :=
  argumentValue_of_parse (by rw [hc, h.parse_render hv])

theorem ToolCall.argumentValue_of_empty {c : ToolCall} (h : c.arguments = "") :
    c.argumentValue = .ok (.obj []) := by
  rw [argumentValue, h]
  rfl

end ChatRetrieval
