import ChatRetrieval.Http.Headers
import ChatRetrieval.Proofs.Json.Lookup

/-!
Header maps as they are sent and as they are logged. A map is made by writing pairs one over the other.
Logging hides the values of four names and nothing else, before or after the map is made.
-/

namespace ChatRetrieval.Headers

def entry (p : String × String) : String × String := (Text.lower p.1, p.2)

theorem addAll_eq_ok {h : Headers} {pairs : List (String × String)} {headers : Headers}
    (hadd : h.addAll pairs = .ok headers) : headers = h.insertMany (pairs.map entry) := by
  induction pairs generalizing h with
  | nil => exact (Except.ok.inj hadd).symm
  | cons p r ih =>
    obtain ⟨name, value⟩ := p
    rw [addAll] at hadd
    unfold add at hadd
    by_cases hname : (!isValidName name) = true
    · rw [if_pos hname] at hadd
      cases hadd
    · by_cases hvalue : (!isValidValue value) = true
      · rw [if_neg hname, if_pos hvalue] at hadd
        cases hadd
      · rw [if_neg hname, if_neg hvalue] at hadd
        exact ih hadd

theorem addAll_append {h : Headers} {front back : List (String × String)} {headers : Headers}
    (hadd : h.addAll (front ++ back) = .ok headers) :
    ∃ middle, h.addAll front = .ok middle ∧ middle.addAll back = .ok headers := by
  induction front generalizing h with
  | nil => exact ⟨h, rfl, hadd⟩
  | cons p r ih =>
    rw [List.cons_append, addAll] at hadd
    rw [addAll]
    cases hp : h.add p.1 p.2 with
    | error f =>
      rw [hp] at hadd
      cases hadd
    | ok h' =>
      rw [hp] at hadd
      exact ih hadd

def shown (name value : String) : String := if name ∈ secretNames then redacted else value

theorem get?_foldl_redact (names : List String) (h : Headers) (name : String) :
    (names.foldl (fun h n => if h.contains n then h.insert n redacted else h) h).get? name =
      (h.get? name).map fun value => if name ∈ names then redacted else value := by
  induction names generalizing h with
  | nil => simp
  | cons n r ih =>
    have hstep : (if h.contains n then h.insert n redacted else h).get? name =
        (h.get? name).map fun value => if name = n then redacted else value := by
      by_cases hn : name = n
      · subst hn
        cases hget : h.get? name <;> simp [Dict.contains, hget]
      · simp only [if_neg hn, Option.map_id']
        split
        · exact Dict.get?_insert_of_ne h redacted hn
        · rfl
    rw [List.foldl_cons, ih, hstep, Option.map_map]
    congr 1
    funext value
    by_cases hn : name = n <;> simp [hn]

theorem get?_sanitized (h : Headers) (name : String) :
    h.sanitized.get? name = (h.get? name).map (shown name) :=
  get?_foldl_redact secretNames h name

/-- Logging keeps every header in its place, and all values but those of the secret names. -/
theorem entries_sanitized (h : Headers) :
    h.sanitized.entries = h.entries.map fun e => (e.1, shown e.1 e.2) := by
  let keyed : Headers := ⟨h.entries.map fun e => (e.1, shown e.1 e.2), by
    rw [List.pairwise_map]
    exact h.sorted⟩
  have hkeyed : h.sanitized = keyed := by
    refine Dict.ext_get? fun name => ?_
    rw [get?_sanitized, Dict.get?, Dict.get?, Dict.findEntry_eq_lookup, Dict.findEntry_eq_lookup]
    exact (lookup_mapKeyed shown name h.entries).symm
  exact congrArg Dict.entries hkeyed

/-- A pair as it may be logged, whatever the spelling of its name. -/
def logged (p : String × String) : String × String := (p.1, shown (Text.lower p.1) p.2)

theorem logged_of_mem {name : String} (h : Text.lower name ∈ secretNames) (value : String) :
    logged (name, value) = (name, redacted) := by
  rw [logged, shown, if_pos h]

theorem sanitized_ofPairs {pairs : List (String × String)} {headers : Headers}
    (h : ofPairs pairs = .ok headers) :
    headers.sanitized = Dict.ofList ((pairs.map logged).map entry) := by
  have hpairs : (pairs.map logged).map entry =
      (pairs.map entry).map fun m => (m.1, shown m.1 m.2) := by
    rw [List.map_map, List.map_map]
    rfl
  -- On either side the last pair of a name decides, and hiding its value keeps its name.
  refine Dict.ext_get? fun name => ?_
  rw [get?_sanitized, addAll_eq_ok h, hpairs, Dict.get?_ofList, ← List.map_reverse, lookup_mapKeyed]
  exact congrArg (Option.map (shown name)) (Dict.get?_ofList _ name)

theorem sanitized_eq_of_logged {pairs pairs' : List (String × String)} {headers headers' : Headers}
    (h : ofPairs pairs = .ok headers) (h' : ofPairs pairs' = .ok headers')
    (hlogged : pairs.map logged = pairs'.map logged) : headers.sanitized = headers'.sanitized := by
  rw [sanitized_ofPairs h, sanitized_ofPairs h', hlogged]

end ChatRetrieval.Headers
