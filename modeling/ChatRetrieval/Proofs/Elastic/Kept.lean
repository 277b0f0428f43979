import ChatRetrieval.Elastic.Search
import ChatRetrieval.Proofs.Json.Fields

/-!
What becomes of a search request that is read and written again. Values stay in their places; a clause
that keeps members of other names loses none of them, and one that does not loses them all.
-/

namespace ChatRetrieval.Elastic

open Json (field field? fieldDict fieldList HasName)
open Decode (Record)

/-- The clauses of a request that have fields. -/
inductive Clause
  | request
  | query
  | junction
  | matching
  | matchAll
  | scriptScore
  | script
  | sparse
  | modelText
  | nearest
  | builder
  | rank
  | fusion
  deriving DecidableEq

/-- What a value in some place of a request is. -/
inductive Place
  /-- A value without a fixed shape. -/
  | free
  /-- A text or a number that is kept as it is. -/
  | exact
  /-- A number that other settings go before. -/
  | overridden
  | single
  | clause (c : Clause)
  | oneOrMany (c : Clause)
  | list (p : Place)
  | named (p : Place)

namespace Clause

def fields : Clause → List (String × Place)
  | request => [("query", .clause query), ("knn", .oneOrMany nearest), ("rank", .clause rank),
    ("size", .overridden), ("min_score", .overridden)]
  | query => [("bool", .clause junction), ("match", .named (.clause matching)),
    ("match_all", .clause matchAll), ("script_score", .clause scriptScore),
    ("sparse_vector", .clause sparse), ("text_expansion", .named (.clause modelText)),
    ("term", .free), ("range", .free)]
  | junction => [("must", .oneOrMany query), ("should", .oneOrMany query),
    ("filter", .oneOrMany query), ("must_not", .oneOrMany query)]
  | matching => [("query", .exact)]
  | matchAll => [("boost", .single)]
  | scriptScore => [("query", .clause query), ("script", .clause script), ("min_score", .single)]
  | script => [("source", .exact), ("params", .free)]
  | sparse => [("field", .exact), ("inference_id", .exact), ("query", .exact),
    ("query_vector", .named .single)]
  | modelText => [("model_id", .exact), ("model_text", .exact)]
  | nearest => [("field", .exact), ("query_vector", .list .single),
    ("query_vector_builder", .clause builder), ("k", .exact), ("num_candidates", .exact),
    ("filter", .oneOrMany query), ("similarity", .single)]
  | builder => [("text_embedding", .clause modelText)]
  | rank => [("rrf", .clause fusion)]
  | fusion => [("rank_constant", .exact), ("rank_window_size", .exact)]

/-- Whether a clause keeps members that are none of its fields. -/
def isOpen : Clause → Bool
  | request | query | matching => true
  | _ => false

def names (c : Clause) : List String := c.fields.map (·.1)

def place (c : Clause) (name : String) : Place := (c.fields.lookup name).getD .free

/-- The member of a name, in an array the field at its position. -/
def member? (c : Clause) (j : Json) (name : String) : Option Json :=
  match j with
  | .arr xs => (c.names.zip xs).lookup name
  | _ => j.get? name

/-- A field may be lost when it holds nothing, another member where the clause has no room for it. -/
def MayLose (c : Clause) (name : String) (v : Json) : Prop :=
  if name ∈ c.names then v = .null ∨ v = .arr [] ∨ (c = .script ∧ v = .obj []) else c.isOpen = false

end Clause

/-- The first value, read in this place, is written as the second. -/
inductive Kept : Place → Json → Json → Prop
  | free (j : Json) : Kept .free j j.canonical
  | exact (j : Json) : Kept .exact j j
  | overridden (j j' : Json) : Kept .overridden j j'
  | single {j : Json} {s : Single} (h : Decode.single j = some s) : Kept .single j (.ofSingleText s)
  | list {p : Place} {xs ys : List Json} (hlength : xs.length = ys.length)
      (h : ∀ x y, (x, y) ∈ xs.zip ys → Kept p x y) : Kept (.list p) (.arr xs) (.arr ys)
  | many {c : Clause} {xs ys : List Json} (hlength : xs.length = ys.length)
      (h : ∀ x y, (x, y) ∈ xs.zip ys → Kept (.clause c) x y) : Kept (.oneOrMany c) (.arr xs) (.arr ys)
  | lone {c : Clause} {j j' : Json} (h : Kept (.clause c) j j') : Kept (.oneOrMany c) j (.arr [j'])
  | named {p : Place} {j j' : Json} (hgiven : j.isObject = true) (hsent : j'.isObject = true)
      (hall : ∀ name v, j.get? name = some v → (j'.get? name).isSome)
      (hkept : ∀ name v v', j.get? name = some v → j'.get? name = some v' → Kept p v v') :
      Kept (.named p) j j'
  /-- A lone text is short for a match of it. -/
  | short (text : String) :
      Kept (.clause .matching) (.str text) (.ofFields [field "query" (.str text)])
  | clause {c : Clause} {j j' : Json}
      (hgiven : j.isObject = true ∨ c.isOpen = false ∧ ∃ xs, j = .arr xs) (hsent : j'.isObject = true)
      (hlost : ∀ name v, c.member? j name = some v → j'.get? name = none → c.MayLose name v)
      (hkept : ∀ name v v', c.member? j name = some v → j'.get? name = some v' →
        Kept (c.place name) v v') :
      Kept (.clause c) j j'

theorem Kept.of_items {α : Type} {p : Place} {d : Decoder α} {encode : α → Json} {xs : List Json}
    {l : List α} (h : Decode.items d xs = some l) (hd : ∀ j a, d j = some a → Kept p j (encode a)) :
    xs.length = (l.map encode).length ∧ ∀ x y, (x, y) ∈ xs.zip (l.map encode) → Kept p x y := by
  have hall : List.Forall₂ (Kept p) xs (l.map encode) := by
    rw [List.forall₂_map_right_iff]
    exact (Decode.items_eq_some h).imp fun x y hxy => hd x y hxy
  exact ⟨hall.length_eq, fun x y hxy => List.forall₂_zip hall hxy⟩

/-- A field that is written as it was read, or was dropped because it held nothing. -/
structure FieldKept (c : Clause) (name : String) (given sent : Option Json) : Prop where
  kept : ∀ v v', given = some v → sent = some v' → Kept (c.place name) v v'
  lost : ∀ v, given = some v → sent = none → c.MayLose name v

namespace FieldKept

variable {α : Type} {c : Clause} {r : Record} {name : String} {d : Decoder α} {encode : α → Json}

theorem required {a : α} (h : r.required name d = some a)
    (hd : ∀ j, d j = some a → Kept (c.place name) j (encode a)) :
    FieldKept c name (r.find? name) ((field name (encode a)).map (·.2)) where
  kept := by
    rintro v _ hv ⟨⟩
    rw [Record.required, hv] at h
    exact hd v h
  lost := by
    rintro v hv ⟨⟩

theorem maybe {a : Option α} (hname : name ∈ c.names) (h : r.maybe name d = some a)
    (hd : ∀ j a, d j = some a → Kept (c.place name) j (encode a)) :
    FieldKept c name (r.find? name) ((field? name encode a).map (·.2)) := by
  refine ⟨fun v v' hv hv' => ?_, fun v hv hnone => ?_⟩
  · obtain ⟨-, rfl⟩ | ⟨b, rfl, hb⟩ := Record.maybe_eq_some h hv
    · cases hv'
    · cases hv'
      exact hd v b hb
  · obtain ⟨hnull, -⟩ | ⟨b, rfl, -⟩ := Record.maybe_eq_some h hv
    · rw [Clause.MayLose, if_pos hname]
      exact Or.inl hnull
    · cases hnone

theorem overridden {a b : Option α} (hname : name ∈ c.names) (hplace : c.place name = .overridden)
    (h : r.maybe name d = some a) (hab : a.isSome = true → b.isSome = true) :
    FieldKept c name (r.find? name) ((field? name encode b).map (·.2)) := by
  refine ⟨fun v v' _ _ => hplace ▸ .overridden v v', fun v hv hnone => ?_⟩
  obtain ⟨hnull, -⟩ | ⟨x, rfl, -⟩ := Record.maybe_eq_some h hv
  · rw [Clause.MayLose, if_pos hname]
    exact Or.inl hnull
  · obtain ⟨y, rfl⟩ := Option.isSome_iff_exists.1 (hab rfl)
    cases hnone

theorem oneOrMany {k : Clause} {l : List α} (hname : name ∈ c.names)
    (hplace : c.place name = .oneOrMany k)
    (h : r.withDefault name [] (Decode.oneOrMany d) = some l)
    (hd : ∀ j a, d j = some a → Kept (.clause k) j (encode a)) :
    FieldKept c name (r.find? name) ((fieldList name encode l).map (·.2)) := by
  refine ⟨fun v v' hv hv' => ?_, fun v hv hnone => ?_⟩
  · have hne : l ≠ [] := by
      rintro rfl
      cases hv'
    rw [Json.fieldList_of_ne_nil name encode hne] at hv'
    cases hv'
    rw [hplace]
    obtain ⟨xs, rfl, hitems⟩ | ⟨a, rfl, ha⟩ :=
      Decode.oneOrMany_eq_some (Record.eq_some_of_withDefault h hv)
    · obtain ⟨hlength, hall⟩ := Kept.of_items hitems hd
      exact .many hlength hall
    · exact .lone (hd v a ha)
  · have hempty : l = [] := by
      by_contra hne
      rw [Json.fieldList_of_ne_nil name encode hne] at hnone
      cases hnone
    subst hempty
    obtain ⟨xs, rfl, hitems⟩ | ⟨a, ha, -⟩ :=
      Decode.oneOrMany_eq_some (Record.eq_some_of_withDefault h hv)
    · rw [Clause.MayLose, if_pos hname]
      cases Decode.items_eq_some hitems
      exact Or.inr (Or.inl rfl)
    · cases ha

theorem params {m : Dict String Json} (h : r.objectOf "params" = some m) :
    FieldKept .script "params" (r.find? "params") ((fieldDict "params" m).map (·.2)) := by
  have hread {v : Json} (hv : r.find? "params" = some v) : Decode.object v = some m :=
    Record.eq_some_of_withDefault h hv
  refine ⟨fun v v' hv hv' => ?_, fun v hv hnone => ?_⟩
  · unfold fieldDict at hv'
    split at hv'
    · cases hv'
    · cases hv'
      exact (Decode.object_eq_some (hread hv)).1 ▸ Kept.free v
  · unfold fieldDict at hnone
    split at hnone
    · rename_i hempty
      rw [Clause.MayLose, if_pos (by decide)]
      exact Or.inr (Or.inr ⟨rfl, (Decode.object_eq_some (hread hv)).2 hempty⟩)
    · cases hnone

end FieldKept

abbrev FieldsKept (c : Clause) (r : Record) (keys : List String)
    (fields : List (Option (String × Json))) : Prop :=
  List.Forall₂ (fun k f => FieldKept c k (r.find? k) (f.map (·.2))) keys fields

theorem Clause.find?_eq_member? {c : Clause} {j : Json} {r : Record}
    (h : Decode.record c.names j = some r) {name : String} (hname : name ∈ c.names) :
    r.find? name = c.member? j name := by
  cases j with
  | obj ms => exact Decode.find?_of_record_obj h hname
  | arr xs =>
    rw [Decode.record] at h
    split at h <;> cases h
    rfl
  | _ => cases h

theorem Clause.shape_of_record {c : Clause} {j : Json} {r : Record}
    (h : Decode.record c.names j = some r) : j.isObject = true ∨ ∃ xs, j = .arr xs := by
  cases j with
  | obj ms => exact Or.inl rfl
  | arr xs => exact Or.inr ⟨xs, rfl⟩
  | _ => cases h

section

variable {c : Clause} {j : Json} {r : Record} {keys : List String}
  {fields : List (Option (String × Json))} (hnames : List.Forall₂ HasName keys fields)
  (hnodup : keys.Nodup)
  (hkept : FieldsKept c r keys fields)
include hnames hnodup hkept

theorem fieldKept_lookup : ∀ k ∈ keys, FieldKept c k (r.find? k) ((fields.filterMap id).lookup k) := by
  have hboth : List.Forall₂ (fun k f =>
      FieldKept c k (r.find? k) ((fields.filterMap id).lookup k) ∧ HasName k f) keys fields := by
    have hlookup := List.Forall₂.mp (fun _ _ => And.intro) (Json.lookup_fields hnames hnodup) hnames
    refine List.Forall₂.mp (fun k f hkf hfield => ⟨?_, hkf.2⟩) hlookup hkept
    rw [hkf.1]
    exact hfield
  exact ((List.forall₂_and_left keys fields).1 hboth).1

theorem Kept.of_record (hr : Decode.record c.names j = some r) (hclosed : c.isOpen = false)
    (hkeys : keys.Perm c.names) : Kept (.clause c) j (.ofFields fields) := by
  have hsent (k : String) : (Json.ofFields fields).get? k = (fields.filterMap id).lookup k := by
    rw [Json.ofFields, Json.get?_ofMembers,
      lookup_reverse (hnodup.sublist (Json.keys_sublist hnames))]
  have hfield {k : String} (hk : k ∈ c.names) :
      FieldKept c k (c.member? j k) ((Json.ofFields fields).get? k) := by
    rw [hsent, ← Clause.find?_eq_member? hr hk]
    exact fieldKept_lookup hnames hnodup hkept k (hkeys.mem_iff.2 hk)
  have hother {k : String} (hk : k ∉ c.names) : (Json.ofFields fields).get? k = none := by
    rw [hsent]
    exact lookup_eq_none_of_notMem fun hmem =>
      hk (hkeys.mem_iff.1 ((Json.keys_sublist hnames).subset hmem))
  refine .clause ((Clause.shape_of_record hr).imp_right fun hxs => ⟨hclosed, hxs⟩) rfl
    (fun k v hv hnone => ?_) fun k v v' hv hv' => ?_
  · by_cases hk : k ∈ c.names
    · exact (hfield hk).lost v hv hnone
    · rw [Clause.MayLose, if_neg hk]
      exact hclosed
  · by_cases hk : k ∈ c.names
    · exact (hfield hk).kept v v' hv hv'
    · rw [hother hk] at hv'
      cases hv'

theorem Kept.of_openRecord {extra : Dict String Json}
    (hr : Decode.openRecord c.names j = some (r, extra)) (hkeys : keys.Perm c.names) :
    Kept (.clause c) j (.ofMembers (fields.filterMap id ++ extra.entries)) := by
  obtain ⟨hrecord, hobject, hextra⟩ := Decode.openRecord_eq_some hr
  have hmember (k : String) : c.member? j k = j.get? k := by
    cases j with
    | obj ms => rfl
    | _ => cases hobject
  have hsent := Json.get?_ofMembers_append (hnodup.sublist (Json.keys_sublist hnames)) extra
  have hfield {k : String} (hk : k ∈ c.names) : FieldKept c k (c.member? j k)
      ((Json.ofMembers (fields.filterMap id ++ extra.entries)).get? k) := by
    rw [hsent, hextra, if_pos hk, Option.none_or, ← Clause.find?_eq_member? hrecord hk]
    exact fieldKept_lookup hnames hnodup hkept k (hkeys.mem_iff.2 hk)
  have hother {k : String} (hk : k ∉ c.names) :
      (Json.ofMembers (fields.filterMap id ++ extra.entries)).get? k =
        (c.member? j k).map Json.canonical := by
    have hnone : (fields.filterMap id).lookup k = none := lookup_eq_none_of_notMem fun hmem =>
      hk (hkeys.mem_iff.1 ((Json.keys_sublist hnames).subset hmem))
    rw [hsent, hextra, if_neg hk, hnone, Option.or_none, hmember]
  refine .clause (Or.inl hobject) rfl (fun k v hv hnone => ?_) fun k v v' hv hv' => ?_
  · by_cases hk : k ∈ c.names
    · exact (hfield hk).lost v hv hnone
    · rw [hother hk, hv] at hnone
      cases hnone
  · by_cases hk : k ∈ c.names
    · exact (hfield hk).kept v v' hv hv'
    · rw [hother hk, hv] at hv'
      cases hv'
      have hplace : c.place k = .free := by
        rw [Clause.place, lookup_eq_none_of_notMem hk]
        rfl
      rw [hplace]
      exact .free v

end

end ChatRetrieval.Elastic
