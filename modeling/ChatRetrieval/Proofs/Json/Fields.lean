import ChatRetrieval.Proofs.Json.Decode

/-!
Fields of records. An object that was put together from fields is read as a record in which every field
is found as it was written, and the members that are no fields of the record are what is left of it.
-/

namespace ChatRetrieval

namespace Json

theorem depth_lt_arr {x : Json} {items : List Json} (h : x ∈ items) : x.depth < (arr items).depth := by
  rw [depth, Nat.lt_succ_iff]
  induction items with
  | nil => cases h
  | cons y r ih =>
    rw [depthItems]
    rcases List.mem_cons.1 h with rfl | h
    · exact Nat.le_max_left _ _
    · exact Nat.le_trans (ih h) (Nat.le_max_right _ _)

theorem depth_lt_obj {m : String × Json} {members : List (String × Json)} (h : m ∈ members) :
    m.2.depth < (obj members).depth := by
  rw [depth, Nat.lt_succ_iff]
  induction members with
  | nil => cases h
  | cons n r ih =>
    obtain ⟨k, x⟩ := n
    rw [depthMembers]
    rcases List.mem_cons.1 h with rfl | h
    · exact Nat.le_max_left _ _
    · exact Nat.le_trans (ih h) (Nat.le_max_right _ _)

theorem ofMembers_map {α : Type} {l : List (String × α)}
    (sorted : l.Pairwise fun a b => compare a.1 b.1 = .lt) (encode : α → Json) :
    ofMembers (l.map fun e => (e.1, encode e.2)) = ofDict ((⟨l, sorted⟩ : Dict String α).map encode) :=
  congrArg (fun d => obj (Dict.entries d))
    (Dict.ofList_entries ((⟨l, sorted⟩ : Dict String α).map encode))

theorem depth_lt_ofMembers_map {α : Type} {l : List (String × α)}
    (sorted : l.Pairwise fun a b => compare a.1 b.1 = .lt) (encode : α → Json) {e : String × α}
    (he : e ∈ l) : (encode e.2).depth < (ofMembers (l.map fun e => (e.1, encode e.2))).depth := by
  rw [ofMembers_map sorted]
  have hmem : (e.1, encode e.2) ∈ l.map fun e => (e.1, encode e.2) := List.mem_map_of_mem he
  exact depth_lt_obj hmem

@[simp] theorem map_snd_field (name : String) (j : Json) : (field name j).map (·.2) = some j := rfl

@[simp] theorem map_snd_field? {α : Type} (name : String) (encode : α → Json) (v : Option α) :
    (field? name encode v).map (·.2) = v.map encode := by
  cases v <;> rfl

def HasName (name : String) (f : Option (String × Json)) : Prop := ∀ m ∈ f, m.1 = name

@[simp] theorem hasName_field (name : String) (j : Json) : HasName name (field name j) := by
  rintro m ⟨⟩
  rfl

@[simp] theorem hasName_field? {α : Type} (name : String) (encode : α → Json) (v : Option α) :
    HasName name (field? name encode v) := by
  intro m hm
  obtain ⟨a, -, rfl⟩ := Option.map_eq_some_iff.1 hm
  rfl

theorem fieldList_of_ne_nil {α : Type} (name : String) (encode : α → Json) {l : List α} (h : l ≠ []) :
    fieldList name encode l = some (name, .arr (l.map encode)) :=
  if_neg (mt List.isEmpty_iff.1 h)

@[simp] theorem hasName_fieldList {α : Type} (name : String) (encode : α → Json) (l : List α) :
    HasName name (fieldList name encode l) := by
  intro m hm
  unfold fieldList at hm
  split at hm <;> cases hm
  rfl

@[simp] theorem hasName_fieldText (name text : String) : HasName name (fieldText name text) := by
  intro m hm
  unfold fieldText at hm
  split at hm <;> cases hm
  rfl

@[simp] theorem hasName_fieldDict (name : String) (d : Dict String Json) :
    HasName name (fieldDict name d) := by
  intro m hm
  unfold fieldDict at hm
  split at hm <;> cases hm
  rfl

@[simp] theorem hasName_ite {name : String} {f : Option (String × Json)} {c : Prop} [Decidable c]
    (h : HasName name f) : HasName name (if c then f else none) := by
  split
  · exact h
  · nofun

@[simp] theorem isLegible_str (s : String) : (str s).isLegible = true := rfl

theorem isLegible_arr {items : List Json} :
    (arr items).isLegible = true ↔ ∀ x ∈ items, x.isLegible = true :=
  areLegible_iff items

theorem isLegible_ofMembers {members : List (String × Json)} (h : ∀ m ∈ members, m.2.isLegible = true) :
    (ofMembers members).isLegible = true :=
  (areLegibleMembers_iff _).2 fun m hm => h m (Dict.mem_ofList hm)

theorem isLegible_ofDict {d : Dict String Json} :
    (ofDict d).isLegible = true ↔ ∀ e ∈ d.entries, e.2.isLegible = true :=
  areLegibleMembers_iff d.entries

theorem isLegible_ofDict_map {α : Type} {d : Dict String α} {encode : α → Json} :
    (ofDict (d.map encode)).isLegible = true ↔ ∀ e ∈ d.entries, (encode e.2).isLegible = true :=
  isLegible_ofDict.trans List.forall_mem_map

/-- What the field holds, if it is written, is legible. -/
def HasLegible (f : Option (String × Json)) : Prop := ∀ m ∈ f, m.2.isLegible = true

@[simp] theorem hasLegible_field (name : String) (j : Json) :
    HasLegible (field name j) ↔ j.isLegible = true := by
  simp [HasLegible, field]

@[simp] theorem hasLegible_fieldDict (name : String) (d : Dict String Json) :
    HasLegible (fieldDict name d) ↔ ∀ e ∈ d.entries, e.2.isLegible = true := by
  unfold fieldDict
  split
  · rename_i hempty
    simp [HasLegible, List.isEmpty_iff.1 hempty]
  · simp [HasLegible, isLegible_ofDict]

@[simp] theorem hasLegible_field? {α : Type} (name : String) (encode : α → Json) (v : Option α) :
    HasLegible (field? name encode v) ↔ ∀ a ∈ v, (encode a).isLegible = true := by
  cases v <;> simp [HasLegible, field?]

@[simp] theorem hasLegible_fieldList {α : Type} (name : String) (encode : α → Json) (l : List α) :
    HasLegible (fieldList name encode l) ↔ ∀ a ∈ l, (encode a).isLegible = true := by
  cases l with
  | nil => simp [HasLegible, fieldList]
  | cons a r => simp [HasLegible, fieldList, isLegible_arr]

theorem forall_isLegible_filterMap {fields : List (Option (String × Json))}
    (h : ∀ f ∈ fields, HasLegible f) : ∀ m ∈ fields.filterMap id, m.2.isLegible = true := by
  intro m hm
  obtain ⟨f, hf, hfm⟩ := List.mem_filterMap.1 hm
  exact h f hf m hfm

theorem isLegible_ofFields {fields : List (Option (String × Json))} (h : ∀ f ∈ fields, HasLegible f) :
    (ofFields fields).isLegible = true :=
  isLegible_ofMembers (forall_isLegible_filterMap h)

section

variable {keys : List String} {fields : List (Option (String × Json))}
  (h : List.Forall₂ HasName keys fields)
include h

theorem keys_sublist : ((fields.filterMap id).map (·.1)).Sublist keys := by
  induction h with
  | nil => exact .slnil
  | @cons k f keys fields hf _ ih =>
    cases f with
    | none => exact ih.cons k
    | some m =>
      obtain rfl := hf m rfl
      exact ih.cons_cons m.1

/-- Fields with distinct names are found as they were written. -/
theorem lookup_fields (hkeys : keys.Nodup) :
    List.Forall₂ (fun k f => (fields.filterMap id).lookup k = f.map (·.2)) keys fields := by
  induction h with
  | nil => exact .nil
  | @cons k f keys fields hf hrest ih =>
    rw [List.nodup_cons] at hkeys
    have hnone : (fields.filterMap id).lookup k = none :=
      lookup_eq_none_of_notMem fun hk => hkeys.1 ((keys_sublist hrest).subset hk)
    cases f with
    | none => exact .cons hnone (ih hkeys.2)
    | some m =>
      obtain rfl := hf m rfl
      have hne : ∀ k ∈ keys, k ≠ m.1 := fun k hk heq => hkeys.1 (heq ▸ hk)
      refine .cons List.lookup_cons_self
        (((List.forall₂_and_left keys fields).2 ⟨hne, ih hkeys.2⟩).imp ?_)
      rintro k f ⟨hk, hlookup⟩
      exact (lookup_cons_eq_ite m.1 m.2 _).trans ((if_neg hk).trans hlookup)

theorem get?_ofFields (hkeys : keys.Nodup) :
    List.Forall₂ (fun k f => (ofFields fields).get? k = f.map (·.2)) keys fields := by
  refine (lookup_fields h hkeys).imp fun k f hlookup => ?_
  rw [ofFields, get?_ofMembers, lookup_reverse (hkeys.sublist (keys_sublist h)), hlookup]

theorem get?_ofFields_of_notMem {k : String} (hk : k ∉ keys) : (ofFields fields).get? k = none := by
  rw [ofFields, get?_ofMembers]
  refine lookup_eq_none_of_notMem fun hmem => hk ((keys_sublist h).subset ?_)
  rwa [List.map_reverse, List.mem_reverse] at hmem

theorem get?_ofFields_of_mem (hkeys : keys.Nodup) {k : String} {v : Json}
    (hm : some (k, v) ∈ fields) : (ofFields fields).get? k = some v := by
  have hnodup := hkeys.sublist (keys_sublist h)
  rw [ofFields, get?_ofMembers, lookup_reverse hnodup, lookup_eq_some_iff_mem hnodup]
  exact List.mem_filterMap.2 ⟨_, hm, rfl⟩

end

theorem reads_of_fields (keys : List String) {fields : List (Option (String × Json))} {body : Json}
    (hbody : body = .ofFields fields) (h : List.Forall₂ HasName keys fields) (hkeys : keys.Nodup) :
    List.Forall₂ (fun k f => body.get? k = f.map (·.2)) keys fields := by
  rw [hbody]
  exact get?_ofFields h hkeys

end Json

namespace Decode

theorem occurrences_le_one {ms : List (String × Json)} (h : (ms.map (·.1)).Nodup) (k : String) :
    occurrences k ms ≤ 1 := by
  induction ms with
  | nil => exact Nat.zero_le 1
  | cons m ms ih =>
    rw [List.map_cons, List.nodup_cons] at h
    rw [occurrences, List.filter_cons]
    split
    · rename_i hk
      have hnone : (ms.filter fun n => n.1 == k) = [] := by
        rw [List.filter_eq_nil_iff]
        intro n hn hnk
        exact h.1 ((beq_iff_eq.1 hk).trans (beq_iff_eq.1 hnk).symm ▸ List.mem_map_of_mem hn)
      rw [hnone]
      exact Nat.le_refl 1
    · exact ih h.2

theorem lookup_reverse_of_occurrences {ms : List (String × Json)} {k : String}
    (h : occurrences k ms ≤ 1) : ms.reverse.lookup k = ms.lookup k := by
  have hfilter (l : List (String × Json)) : (l.filter fun m => m.1 == k).lookup k = l.lookup k :=
    @lookup_filter Json k (fun n => n == k) (beq_self_eq_true k) l
  have hreverse : (ms.filter fun m => m.1 == k).reverse = ms.filter fun m => m.1 == k := by
    generalize hl : (ms.filter fun m => m.1 == k) = l
    have hlength : l.length ≤ 1 := hl ▸ h
    match l, hlength with
    | [], _ => rfl
    | [m], _ => rfl
  rw [← hfilter, List.filter_reverse, hreverse, hfilter]

theorem find?_of_record_obj {names : List String} {ms : List (String × Json)} {r : Record}
    (h : record names (.obj ms) = some r) {k : String} (hk : k ∈ names) :
    r.find? k = (Json.obj ms).get? k := by
  rw [record] at h
  split at h
  · cases h
  · rename_i honce
    cases h
    have hle : occurrences k ms ≤ 1 := by
      rw [List.any_eq_true] at honce
      refine Nat.not_lt.1 fun hlt => honce ⟨k, hk, ?_⟩
      exact decide_eq_true hlt
    rw [Record.find?, lookup_filter (List.contains_iff_mem.2 hk), Json.get?,
      lookup_reverse_of_occurrences hle]

theorem openRecord_eq_some {names : List String} {j : Json} {r : Record} {extra : Dict String Json}
    (h : openRecord names j = some (r, extra)) :
    record names j = some r ∧ j.isObject = true ∧
      ∀ k, extra.get? k = if k ∈ names then none else (j.get? k).map Json.canonical := by
  unfold openRecord at h
  split at h
  · rename_i ms
    obtain ⟨r', hr, h⟩ := Option.bind_eq_some_iff.1 h
    obtain ⟨others, hothers, h⟩ := Option.bind_eq_some_iff.1 h
    cases h
    refine ⟨hr, rfl, fun k => ?_⟩
    obtain ⟨ns, hns, rfl⟩ := Option.map_eq_some_iff.1 hothers
    rw [← members_any_eq_some hns, Dict.get?_ofList, ← List.map_reverse, lookup_map, ← List.filter_reverse]
    split
    · rename_i hk
      have hnone : k ∉ (ms.reverse.filter fun m => !names.contains m.1).map (·.1) := by
        intro hmem
        obtain ⟨m, hm, rfl⟩ := List.mem_map.1 hmem
        have hnot := (List.mem_filter.1 hm).2
        rw [List.contains_iff_mem.2 hk] at hnot
        cases hnot
      rw [lookup_eq_none_of_notMem hnone, Option.map_none]
    · rename_i hk
      have hkeep : (!names.contains k) = true := by
        rw [Bool.not_eq_true', ← Bool.not_eq_true, List.contains_iff_mem]
        exact hk
      rw [@lookup_filter Json k (fun n => !names.contains n) hkeep]
      rfl
  · cases h

theorem depth_lt_of_record {names : List String} {j v : Json} {r : Record} {k : String}
    (h : record names j = some r) (hv : r.find? k = some v) : v.depth < j.depth := by
  unfold record at h
  split at h
  · split at h <;> cases h
    exact Json.depth_lt_obj (List.mem_filter.1 (mem_of_lookup_eq_some hv)).1
  · split at h <;> cases h
    exact Json.depth_lt_arr (List.of_mem_zip (mem_of_lookup_eq_some hv)).2
  · cases h

theorem depth_lt_of_openRecord {names : List String} {j v : Json} {r : Record}
    {extra : Dict String Json} {k : String} (h : openRecord names j = some (r, extra))
    (hv : r.find? k = some v) : v.depth < j.depth := by
  unfold openRecord at h
  split at h
  · rename_i ms
    obtain ⟨r', hr, h⟩ := Option.bind_eq_some_iff.1 h
    obtain ⟨others, -, h⟩ := Option.bind_eq_some_iff.1 h
    cases h
    exact depth_lt_of_record hr hv
  · cases h

theorem exists_record_ofMembers (names : List String) (l : List (String × Json)) :
    ∃ r, record names (.ofMembers l) = some r ∧ r.named = true ∧
      ∀ n ∈ names, r.find? n = l.reverse.lookup n := by
  have hnodup := Dict.nodup_keys (Dict.ofList l)
  refine ⟨⟨(Dict.ofList l).entries.filter fun m => names.contains m.1, true⟩, ?_, rfl, fun n hn => ?_⟩
  · rw [Json.ofMembers, record, if_neg]
    rw [List.any_eq_true]
    rintro ⟨n, -, hn⟩
    have hle := occurrences_le_one hnodup n
    simp at hn
    omega
  · rw [Record.find?, lookup_filter (List.contains_iff_mem.2 hn), ← Dict.findEntry_eq_lookup]
    exact Dict.get?_ofList l n

section

variable {keys names : List String} {fields : List (Option (String × Json))}
  (h : List.Forall₂ Json.HasName keys fields) (hkeys : keys.Nodup) (hnames : keys ⊆ names)
include h hkeys hnames

theorem exists_record_ofFields :
    ∃ r, record names (.ofFields fields) = some r ∧
      List.Forall₂ (fun k f => r.find? k = f.map (·.2)) keys fields := by
  obtain ⟨r, hr, -, hfind⟩ := exists_record_ofMembers names (fields.filterMap id)
  have hnodup : ((fields.filterMap id).map (·.1)).Nodup := hkeys.sublist (Json.keys_sublist h)
  refine ⟨r, hr, ((List.forall₂_and_left keys fields).2
    ⟨fun k hk => hk, Json.lookup_fields h hkeys⟩).imp ?_⟩
  rintro k f ⟨hk, hlookup⟩
  rw [hfind k (hnames hk), lookup_reverse hnodup, hlookup]

omit hnames in
theorem record_bind_ofFields {α : Type} {f : Record → Option α} {a : Option α}
    (hf : ∀ r, List.Forall₂ (fun k f => r.find? k = f.map (·.2)) keys fields → f r = a) :
    record keys (.ofFields fields) >>= f = a := by
  obtain ⟨r, hr, hfind⟩ := exists_record_ofFields h hkeys (List.Subset.refl keys)
  rw [hr]
  exact hf r hfind

theorem exists_openRecord {extra : Dict String Json}
    (hextra : ∀ e ∈ extra.entries, e.1 ∉ names ∧ e.2.canonical = e.2) :
    ∃ r, openRecord names (.ofMembers (fields.filterMap id ++ extra.entries)) = some (r, extra) ∧
      List.Forall₂ (fun k f => r.find? k = f.map (·.2)) keys fields := by
  let all := Dict.ofList (fields.filterMap id ++ extra.entries)
  have hnodup : ((fields.filterMap id).map (·.1)).Nodup := hkeys.sublist (Json.keys_sublist h)
  have hall (k : String) : all.get? k = (extra.get? k).or ((fields.filterMap id).lookup k) := by
    rw [Dict.get?_ofList, ← Json.get?_ofMembers, Json.get?_ofMembers_append hnodup]
  have hnot {k : String} {v : Json} (hk : extra.get? k = some v) : k ∉ names :=
    (hextra _ (Dict.get?_eq_some_iff.1 hk)).1
  have hothers : (⟨all.entries.filter fun m => !names.contains m.1, all.sorted.filter _⟩ :
      Dict String Json) = extra := by
    refine Dict.ext_get? fun k => Option.ext fun v => ?_
    rw [Dict.get?_eq_some_iff, List.mem_filter, ← Dict.get?_eq_some_iff, hall]
    simp only [Bool.not_eq_true', ← Bool.not_eq_true, List.contains_iff_mem, Option.or_eq_some_iff]
    constructor
    · rintro ⟨hk | ⟨-, hk⟩, hnames'⟩
      · exact hk
      · rw [lookup_eq_none_of_notMem fun hm => hnames' (hnames ((Json.keys_sublist h).subset hm))] at hk
        cases hk
    · exact fun hk => ⟨Or.inl hk, hnot hk⟩
  have hcanonical : ∀ m ∈ all.entries.filter fun m => !names.contains m.1, m.2.canonical = m.2 :=
    fun m hm => (hextra m (congrArg Dict.entries hothers ▸ hm)).2
  have hobject : object (.obj (all.entries.filter fun m => !names.contains m.1)) = some extra := by
    rw [object, dict, members_any_of_canonical hcanonical, Option.map_some, ← Dict.ofList_entries extra]
    exact congrArg (fun d => some (Dict.ofList (Dict.entries d))) hothers
  obtain ⟨r, hr, -, hfind⟩ := exists_record_ofMembers names (fields.filterMap id ++ extra.entries)
  refine ⟨r, ?_, ((List.forall₂_and_left keys fields).2
    ⟨fun k hk => hk, Json.lookup_fields h hkeys⟩).imp ?_⟩
  · rw [Json.ofMembers] at hr ⊢
    rw [openRecord, hr, Option.bind_eq_bind, Option.bind_some, hobject]
    rfl
  · rintro k f ⟨hk, hlookup⟩
    have hnone : extra.get? k = none := by
      rw [Option.eq_none_iff_forall_ne_some]
      exact fun v hv => hnot hv (hnames hk)
    rw [hfind k (hnames hk), ← Dict.get?_ofList]
    refine (hall k).trans ?_
    rw [hnone, Option.none_or, hlookup]

end

theorem tagged_ofFields {tag name : String} {keys : List String}
    {fields : List (Option (String × Json))} (h : List.Forall₂ Json.HasName keys fields)
    (hkeys : (tag :: keys).Nodup) (hlegible : ∀ f ∈ fields, Json.HasLegible f) :
    tagged tag (.ofFields (Json.field tag (.str name) :: fields)) = some (name, .ofFields fields) := by
  have hwhole : (Json.ofFields (Json.field tag (.str name) :: fields)).isLegible = true :=
    Json.isLegible_ofFields (List.forall_mem_cons.2 ⟨(Json.hasLegible_field _ _).2 rfl, hlegible⟩)
  have hall := List.Forall₂.cons (Json.hasName_field tag (.str name)) h
  have hnodup := hkeys.sublist (Json.keys_sublist hall)
  let all := Dict.ofList ((Json.field tag (.str name) :: fields).filterMap id)
  have hget (k : String) : all.get? k =
      if k = tag then some (.str name) else (fields.filterMap id).lookup k := by
    rw [Dict.get?_ofList, lookup_reverse hnodup]
    exact lookup_cons_eq_ite tag (.str name) (fields.filterMap id)
  have hlookup : all.entries.lookup tag = some (.str name) := by
    rw [← Dict.findEntry_eq_lookup]
    exact (hget tag).trans (if_pos rfl)
  -- A tag written twice would be refused, so it is counted before it is taken out.
  have honce : occurrences tag all.entries = 1 := by
    refine Nat.le_antisymm (occurrences_le_one all.nodup_keys tag) (List.length_pos_iff_exists_mem.2 ?_)
    exact ⟨(tag, .str name), List.mem_filter.2 ⟨mem_of_lookup_eq_some hlookup, beq_self_eq_true tag⟩⟩
  have hothers : (⟨all.entries.filter fun m => m.1 != tag, all.sorted.filter _⟩ : Dict String Json) =
      Dict.ofList (fields.filterMap id) := by
    refine Dict.ext_get? fun k => Option.ext fun v => ?_
    have hrest : ((fields.filterMap id).map (·.1)).Nodup :=
      (List.nodup_cons.1 hkeys).2.sublist (Json.keys_sublist h)
    rw [Dict.get?_eq_some_iff, List.mem_filter, ← Dict.get?_eq_some_iff, hget, Dict.get?_ofList,
      lookup_reverse hrest]
    by_cases hk : k = tag
    · have hnone : (fields.filterMap id).lookup tag = none :=
        lookup_eq_none_of_notMem fun hm => (List.nodup_cons.1 hkeys).1 ((Json.keys_sublist h).subset hm)
      rw [hk, hnone]
      simp
    · simp [hk]
  rw [tagged, buffered_of_isLegible hwhole]
  refine (if_pos honce).trans ?_
  rw [hlookup]
  exact congrArg (fun d => some (name, Json.obj (Dict.entries d))) hothers

namespace Record

variable {α : Type} {d : Decoder α} {encode : α → Json} {r : Record} {name : String}

theorem required_field {j : Json} (h : r.find? name = (Json.field name j).map (·.2)) :
    r.required name d = d j := by
  rw [required, h]
  rfl

theorem withDefault_field {fallback : α} {j : Json}
    (h : r.find? name = (Json.field name j).map (·.2)) : r.withDefault name fallback d = d j := by
  rw [withDefault, h]
  rfl

theorem text_fieldText {text : String} (h : r.find? name = (Json.fieldText name text).map (·.2)) :
    r.text name = some text := by
  rw [Record.text, withDefault, h, Json.fieldText]
  by_cases hempty : text.isEmpty
  · rw [String.isEmpty_iff.1 hempty]
    rfl
  · rw [if_neg hempty]
    rfl

theorem eq_some_of_withDefault {a fallback : α} {v : Json}
    (h : r.withDefault name fallback d = some a) (hv : r.find? name = some v) : d v = some a := by
  rw [withDefault, hv] at h
  exact h

theorem exists_of_required {a : α} (h : r.required name d = some a) : ∃ j, d j = some a := by
  obtain ⟨j, -, hj⟩ := Option.bind_eq_some_iff.1 h
  exact ⟨j, hj⟩

theorem maybe_eq_some {a : Option α} {v : Json} (h : r.maybe name d = some a)
    (hv : r.find? name = some v) : (v = .null ∧ a = none) ∨ ∃ b, a = some b ∧ d v = some b :=
  option_eq_some (eq_some_of_withDefault h hv)

theorem exists_of_maybe {a : α} (h : r.maybe name d = some (some a)) : ∃ j, d j = some a := by
  cases hv : r.find? name with
  | none =>
    rw [maybe, withDefault, hv] at h
    cases h
  | some v =>
    obtain ⟨-, hnone⟩ | ⟨b, hb, hread⟩ := maybe_eq_some h hv
    · cases hnone
    · cases hb
      exact ⟨v, hread⟩

theorem exists_of_mem_listOf {l : List α} (h : r.listOf name d = some l) {a : α} (ha : a ∈ l) :
    ∃ j, d j = some a := by
  cases hv : r.find? name with
  | none =>
    rw [listOf, withDefault, hv] at h
    cases h
    cases ha
  | some v =>
    obtain ⟨xs, -, hxs⟩ := list_eq_some (eq_some_of_withDefault h hv)
    obtain ⟨x, -, hx⟩ := exists_of_mem_items hxs ha
    exact ⟨x, hx⟩

theorem eq_bind_of_maybe {a : Option α} (h : r.maybe name d = some a) (hnull : d .null = none) :
    a = (r.find? name).bind d := by
  cases hv : r.find? name with
  | none =>
    rw [maybe, withDefault, hv] at h
    cases h
    rfl
  | some v =>
    obtain ⟨rfl, rfl⟩ | ⟨b, rfl, hb⟩ := maybe_eq_some h hv
    · exact hnull.symm
    · exact hb.symm

theorem ne_null {j : Json} {a : α} (hnull : d .null = none) (h : d j = some a) : j ≠ .null := by
  rintro rfl
  rw [hnull] at h
  cases h

theorem maybe_field?_eq {β : Type} {d : Decoder β} (g : α → β) {v : Option α}
    (h : r.find? name = (Json.field? name encode v).map (·.2)) (hnull : d .null = none)
    (hd : ∀ a ∈ v, d (encode a) = some (g a)) : r.maybe name d = some (v.map g) := by
  rw [maybe, withDefault, h]
  cases v with
  | none => rfl
  | some a =>
    refine (option_of_ne_null (ne_null hnull (hd a rfl))).trans ?_
    rw [hd a rfl]
    rfl

theorem maybe_field? {v : Option α} (h : r.find? name = (Json.field? name encode v).map (·.2))
    (hnull : d .null = none) (hd : ∀ a ∈ v, d (encode a) = some a) : r.maybe name d = some v := by
  rw [maybe_field?_eq id h hnull hd, Option.map_id_fun, id]

theorem maybe_string {v : Option String} (h : r.find? name = (Json.field? name .str v).map (·.2)) :
    r.maybe name string = some v :=
  maybe_field? h rfl fun _ _ => rfl

theorem maybe_nullable {v : Option α}
    (h : r.find? name = (Json.field name (Json.nullable encode v)).map (·.2)) (hnull : d .null = none)
    (hd : ∀ a ∈ v, d (encode a) = some a) : r.maybe name d = some v := by
  rw [maybe, withDefault_field h]
  cases v with
  | none => rfl
  | some a =>
    rw [Json.nullable, option_of_ne_null (ne_null hnull (hd a rfl)), hd a rfl]
    rfl

theorem listOf_fieldList {l : List α} (h : r.find? name = (Json.fieldList name encode l).map (·.2))
    (hd : ∀ a ∈ l, d (encode a) = some a) : r.listOf name d = some l := by
  rw [listOf, withDefault, h]
  by_cases hne : l = []
  · subst hne
    rfl
  · rw [Json.fieldList_of_ne_nil name encode hne]
    exact items_map hd

theorem listOf_int64 {l : List Int} (h : r.find? name = (Json.fieldList name .int l).map (·.2))
    (hl : ∀ n ∈ l, InInt64 n) : r.listOf name int64 = some l :=
  listOf_fieldList h fun n hn => int64_int (hl n hn)

theorem oneOrMany_fieldList {l : List α}
    (h : r.find? name = (Json.fieldList name encode l).map (·.2))
    (hd : ∀ a ∈ l, d (encode a) = some a) (hlegible : ∀ a ∈ l, (encode a).isLegible = true) :
    r.withDefault name [] (oneOrMany d) = some l := by
  rw [withDefault, h]
  by_cases hne : l = []
  · subst hne
    rfl
  · have hwhole : (Json.arr (l.map encode)).isLegible = true :=
      Json.isLegible_arr.2 (List.forall_mem_map.2 hlegible)
    rw [Json.fieldList_of_ne_nil name encode hne]
    simp only [Option.map_some, oneOrMany, buffered_of_isLegible hwhole, list, items_map hd]

theorem objectOf_fieldDict {m : Dict String Json}
    (h : r.find? name = (Json.fieldDict name m).map (·.2))
    (hm : ∀ e ∈ m.entries, e.2.canonical = e.2) : r.objectOf name = some m := by
  rw [objectOf, withDefault, h, Json.fieldDict]
  cases hempty : m.isEmpty with
  | false => exact object_ofDict hm
  | true =>
    have hnil : m.entries = [] := List.isEmpty_iff.1 hempty
    rw [← Dict.ofList_entries m, hnil]
    rfl

theorem depth_lt_of_fieldList {names : List String} {j : Json} {l : List α}
    (hr : record names j = some r) (h : r.find? name = (Json.fieldList name encode l).map (·.2)) {a : α}
    (ha : a ∈ l) : (encode a).depth < j.depth := by
  rw [Json.fieldList_of_ne_nil name encode (List.ne_nil_of_mem ha)] at h
  exact Nat.lt_trans (Json.depth_lt_arr (List.mem_map_of_mem ha)) (depth_lt_of_record hr h)

end Record

end Decode

end ChatRetrieval
