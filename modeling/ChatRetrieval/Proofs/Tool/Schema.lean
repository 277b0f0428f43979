import ChatRetrieval.Proofs.Interchange

/-!
The JSON schema of parameters. The schema of an object has all that is known of its fields, at every depth:
which of them must be given is said by the object, everything else by the field's own schema. Whether the
elements of an array must be given is not said anywhere.
-/

namespace ChatRetrieval

open Decode (Record)
open Json (HasName field field? fieldList fieldText)

namespace Parameter

def type : Parameter → DataType
  | mk t _ _ _ _ _ => t

def element : Parameter → Option Parameter
  | mk _ _ _ _ e _ => e

def fields : Parameter → List (String × Parameter)
  | mk _ _ _ _ _ f => f

def marked (isRequired : Bool) : Parameter → Parameter
  | mk type description choices _ element fields => mk type description choices isRequired element fields

theorem marked_self (p : Parameter) : p.marked p.isRequired = p := by
  cases p
  rfl

@[simp] theorem marked_marked (a b : Bool) (p : Parameter) : (p.marked a).marked b = p.marked b := by
  cases p
  rfl

/-- Only objects have fields, at every depth. -/
inductive FieldsInObjects : Parameter → Prop
  | mk {type : DataType} {description : String} {choices : List String} {isRequired : Bool}
      {element : Option Parameter} {fields : List (String × Parameter)}
      (object : fields ≠ [] → type = .object) (ofElement : ∀ p ∈ element, FieldsInObjects p)
      (ofFields : ∀ f ∈ fields, FieldsInObjects f.2) :
      FieldsInObjects (.mk type description choices isRequired element fields)

mutual

/-- What a schema tells of a parameter: everything but whether array elements must be given. -/
def told : Parameter → Parameter
  | mk type description choices isRequired element fields =>
    mk type description choices isRequired (toldElement element) (toldFields fields)

def toldElement : Option Parameter → Option Parameter
  | none => none
  | some p => some (p.told.marked false)

def toldFields : List (String × Parameter) → List (String × Parameter)
  | [] => []
  | (name, p) :: r => (name, p.told) :: toldFields r

end

theorem toldElement_eq_map (element : Option Parameter) :
    toldElement element = element.map fun p => p.told.marked false := by
  cases element <;> rfl

theorem toldFields_eq_map (fields : List (String × Parameter)) :
    toldFields fields = fields.map fun f => (f.1, f.2.told) := by
  induction fields with
  | nil => rfl
  | cons f r ih =>
    obtain ⟨name, p⟩ := f
    rw [toldFields, ih, List.map_cons]

theorem isRequired_told (p : Parameter) : p.told.isRequired = p.isRequired := by
  cases p
  rfl

/-- Reads a schema nested at most so deep. Its parameter counts as one that need not be given, and its
fields are marked as the list of required names says. -/
def ofSchema : Nat → Decoder Parameter
  | 0, _ => none
  | depth + 1, j => do
    let r ← Decode.record ["type", "description", "enum", "items", "properties", "required"] j
    let type ← r.required "type" DataType.decode
    let description ← r.text "description"
    let choices ← r.listOf "enum" Decode.string
    let element ← r.maybe "items" (ofSchema depth)
    let fields ← r.withDefault "properties" Dict.empty (Decode.dict (ofSchema depth))
    let names ← r.listOf "required" Decode.string
    return mk type description choices false element
      (fields.entries.map fun f => (f.1, f.2.marked (names.contains f.1)))

theorem schemas_eq_map (fields : List (String × Parameter)) :
    schemas fields = fields.map fun f => (f.1, f.2.schema) := by
  induction fields with
  | nil => rfl
  | cons f r ih =>
    obtain ⟨name, p⟩ := f
    rw [schemas, ih, List.map_cons]

def schemaFields (type : DataType) (description : String) (choices : List String)
    (element : Option Parameter) (fields : List (String × Parameter)) : List (Option (String × Json)) := [
  field "type" (.str type.name), fieldText "description" description, fieldList "enum" .str choices,
  field? "items" schema element,
  if type = .object then field "properties" (.ofMembers (fields.map fun f => (f.1, f.2.schema))) else none,
  fieldList "required" .str (if type = .object then requiredNames fields else [])]

theorem schema_mk (type : DataType) (description : String) (choices : List String) (isRequired : Bool)
    (element : Option Parameter) (fields : List (String × Parameter)) :
    (mk type description choices isRequired element fields).schema =
      .ofFields (schemaFields type description choices element fields) := by
  rw [schema, schemaFields, schemas_eq_map]
  cases element <;> rfl

theorem hasName_schemaFields (type : DataType) (description : String) (choices : List String)
    (element : Option Parameter) (fields : List (String × Parameter)) :
    List.Forall₂ HasName ["type", "description", "enum", "items", "properties", "required"]
      (schemaFields type description choices element fields) := by
  simp [schemaFields]

section names

variable {fields : List (String × Parameter)}

theorem mem_requiredNames {name : String} :
    name ∈ requiredNames fields ↔ ∃ p, (name, p) ∈ fields ∧ p.isRequired = true := by
  rw [requiredNames, List.mem_map]
  constructor
  · rintro ⟨⟨_, p⟩, hp, rfl⟩
    exact ⟨p, List.mem_filter.1 hp⟩
  · rintro ⟨p, hp, hrequired⟩
    exact ⟨(name, p), List.mem_filter.2 ⟨hp, hrequired⟩, rfl⟩

variable (sorted : fields.Pairwise fun a b => compare a.1 b.1 = .lt)
include sorted

theorem nodup_names : (fields.map (·.1)).Nodup := (⟨fields, sorted⟩ : Dict String Parameter).nodup_keys

theorem pairwise_requiredNames : (requiredNames fields).Pairwise fun a b => compare a b = .lt :=
  List.pairwise_map.2 (sorted.filter _)

theorem contains_requiredNames {f : String × Parameter} (hf : f ∈ fields) :
    (requiredNames fields).contains f.1 = f.2.isRequired := by
  rw [Bool.eq_iff_iff, List.contains_iff_mem, mem_requiredNames]
  constructor
  · rintro ⟨p, hp, hrequired⟩
    -- Of one name there is one field.
    have hlookup := (lookup_eq_some_iff_mem (nodup_names sorted)).2 hf
    rw [(lookup_eq_some_iff_mem (nodup_names sorted)).2 hp] at hlookup
    rwa [← Option.some.inj hlookup]
  · exact fun hrequired => ⟨f.2, hf, hrequired⟩

theorem map_marked_requiredNames :
    (fields.map fun f => (f.1, f.2.told.marked false)).map
        (fun f => (f.1, f.2.marked ((requiredNames fields).contains f.1))) = toldFields fields := by
  rw [List.map_map, toldFields_eq_map]
  refine List.map_congr_left fun f hf => ?_
  show (f.1, (f.2.told.marked false).marked ((requiredNames fields).contains f.1)) = _
  rw [marked_marked, contains_requiredNames sorted hf, ← isRequired_told, marked_self]

end names

section Written

variable {type : DataType} {fields : List (String × Parameter)} (hobject : fields ≠ [] → type = .object)
include hobject

theorem written_requiredNames :
    (if type = .object then requiredNames fields else []) = requiredNames fields := by
  split
  · rfl
  · rename_i htype
    obtain rfl : fields = [] := by_contra (htype ∘ hobject)
    rfl

theorem withDefault_properties (sorted : fields.Pairwise fun a b => compare a.1 b.1 = .lt) {r : Record}
    {depth : Nat}
    (hfind : r.find? "properties" = Option.map (·.2) (if type = .object then
      field "properties" (.ofMembers (fields.map fun f => (f.1, f.2.schema))) else none))
    (hread : type = .object → ∀ f ∈ fields, ofSchema depth f.2.schema = some (f.2.told.marked false)) :
    r.withDefault "properties" Dict.empty (Decode.dict (ofSchema depth)) =
      some ((⟨fields, sorted⟩ : Dict String Parameter).map fun p => p.told.marked false) := by
  by_cases htype : type = .object
  · rw [if_pos htype] at hfind
    rw [Record.withDefault_field hfind, Json.ofMembers_map sorted]
    exact Decode.dict_ofDict_eq _ (hread htype)
  · obtain rfl : fields = [] := by_contra (htype ∘ hobject)
    rw [if_neg htype] at hfind
    rw [Record.withDefault, hfind]
    rfl

end Written

theorem ofSchema_null (depth : Nat) : ofSchema depth .null = none := by cases depth <;> rfl

/-- A schema is read back at any depth that reaches its innermost part. -/
theorem ofSchema_schema {p : Parameter} (hordered : p.Ordered) (hobjects : p.FieldsInObjects) {depth : Nat}
    (hdepth : p.schema.depth ≤ depth) : ofSchema depth p.schema = some (p.told.marked false) := by
  -- As for parameters themselves, the element and every field are read one level further down.
  induction hordered generalizing depth with
  | @mk type description choices isRequired element fields sorted _ _ ihelement ihfields =>
    obtain ⟨hobject, hofElement, hofFields⟩ := hobjects
    cases depth with
    | zero => exact absurd hdepth (Nat.not_succ_le_zero _)
    | succ depth =>
      rw [schema_mk] at hdepth ⊢
      obtain ⟨r, hr, hfind⟩ := Decode.exists_record_ofFields
        (hasName_schemaFields type description choices element fields) (by decide) (List.Subset.refl _)
      have hdeep {k : String} {v : Json} (hv : r.find? k = some v) : v.depth ≤ depth :=
        Nat.le_of_lt_succ (Nat.lt_of_lt_of_le (Decode.depth_lt_of_record hr hv) hdepth)
      simp only [schemaFields, List.forall₂_cons] at hfind
      obtain ⟨htype, hdescription, hchoices, helement, hfields, hnames, -⟩ := hfind
      have hchoices' : r.listOf "enum" Decode.string = some choices :=
        Record.listOf_fieldList hchoices fun _ _ => rfl
      have helement' : r.maybe "items" (ofSchema depth) = some (toldElement element) := by
        rw [toldElement_eq_map]
        refine Record.maybe_field?_eq _ helement (ofSchema_null depth) fun p hp => ?_
        obtain rfl := Option.mem_def.1 hp
        exact ihelement p rfl (hofElement p rfl) (hdeep helement)
      have hfields' : r.withDefault "properties" Dict.empty (Decode.dict (ofSchema depth)) =
          some ((⟨fields, sorted⟩ : Dict String Parameter).map fun p => p.told.marked false) := by
        refine withDefault_properties hobject sorted hfields fun htypeObject f hf => ?_
        rw [if_pos htypeObject] at hfields
        have hinner := Json.depth_lt_ofMembers_map sorted schema hf
        exact ihfields f hf (hofFields f hf) (hinner.le.trans (hdeep hfields))
      rw [written_requiredNames hobject] at hnames
      have hnames' : r.listOf "required" Decode.string = some (requiredNames fields) :=
        Record.listOf_fieldList hnames fun _ _ => rfl
      rw [ofSchema, hr]
      simp only [Option.bind_eq_bind, Option.bind_some, Record.required_field htype,
        DataType.decode_name, Record.text_fieldText hdescription, hchoices', helement', hfields', hnames']
      exact congrArg (fun l => some (mk type description choices false (toldElement element) l))
        (map_marked_requiredNames sorted)

/-- A step into a parameter: to the elements of an array or to a field of an object. -/
inductive Step where
  | element
  | field (name : String)

/-- The parameter a step leads to. -/
def inner? : Parameter → Step → Option Parameter
  | p, .element => p.element
  | p, .field name => p.fields.lookup name

def schemaInner? : Json → Step → Option Json
  | j, .element => j.get? "items"
  | j, .field name => j.get? "properties" >>= (·.get? name)

section Within

variable {p q : Parameter}

theorem Ordered.pairwise_fields (h : p.Ordered) : p.fields.Pairwise fun a b => compare a.1 b.1 = .lt := by
  obtain ⟨sorted, -, -⟩ := h
  exact sorted

theorem FieldsInObjects.type_eq (h : p.FieldsInObjects) (hfields : p.fields ≠ []) : p.type = .object := by
  obtain ⟨object, -, -⟩ := h
  exact object hfields

theorem Ordered.inner? (h : p.Ordered) {s : Step} (hq : p.inner? s = some q) : q.Ordered := by
  obtain ⟨-, ofElement, ofFields⟩ := h
  cases s with
  | element => exact ofElement q hq
  | field name => exact ofFields _ (mem_of_lookup_eq_some hq)

theorem FieldsInObjects.inner? (h : p.FieldsInObjects) {s : Step} (hq : p.inner? s = some q) :
    q.FieldsInObjects := by
  obtain ⟨-, ofElement, ofFields⟩ := h
  cases s with
  | element => exact ofElement q hq
  | field name => exact ofFields _ (mem_of_lookup_eq_some hq)

theorem get?_schema (p : Parameter) :
    p.schema.get? "items" = p.element.map schema ∧
    (p.type = .object →
      p.schema.get? "properties" = some (.ofMembers (p.fields.map fun f => (f.1, f.2.schema))) ∧
      p.schema.get? "required" = (fieldList "required" .str (requiredNames p.fields)).map (·.2)) := by
  obtain ⟨type, description, choices, isRequired, element, fields⟩ := p
  have hget := Json.get?_ofFields (hasName_schemaFields type description choices element fields) (by decide)
  rw [← schema_mk type description choices isRequired] at hget
  simp only [schemaFields, List.forall₂_cons] at hget
  obtain ⟨-, -, -, hitems, hproperties, hrequired, -⟩ := hget
  refine ⟨hitems.trans ?_, fun htype => ?_⟩
  · rw [field?, Option.map_map]
    rfl
  · have htype : type = .object := htype
    rw [if_pos htype] at hproperties hrequired
    exact ⟨hproperties, hrequired⟩

theorem schemaInner?_schema (hordered : p.Ordered) (hobjects : p.FieldsInObjects) {s : Step}
    (h : p.inner? s = some q) : schemaInner? p.schema s = some q.schema := by
  cases s with
  | element =>
    rw [schemaInner?, (get?_schema p).1, show p.element = some q from h]
    rfl
  | field name =>
    have hlookup : p.fields.lookup name = some q := h
    have htype := hobjects.type_eq (List.ne_nil_of_mem (mem_of_lookup_eq_some hlookup))
    rw [schemaInner?, ((get?_schema p).2 htype).1, Option.bind_eq_bind, Option.bind_some,
      Json.ofMembers_map hordered.pairwise_fields, Json.get?_ofDict, Dict.get?_map, Dict.get?,
      Dict.findEntry_eq_lookup, hlookup]
    rfl

theorem foldlM_schemaInner?_schema (hordered : p.Ordered) (hobjects : p.FieldsInObjects) {path : List Step}
    (h : path.foldlM Parameter.inner? p = some q) :
    path.foldlM schemaInner? p.schema = some q.schema ∧ q.Ordered ∧ q.FieldsInObjects := by
  induction path generalizing p with
  | nil =>
    obtain rfl := Option.some.inj h
    exact ⟨rfl, hordered, hobjects⟩
  | cons s path ih =>
    rw [List.foldlM_cons] at h ⊢
    obtain ⟨r, hr, h⟩ := Option.bind_eq_some_iff.1 h
    rw [schemaInner?_schema hordered hobjects hr]
    exact ih (hordered.inner? hr) (hobjects.inner? hr) h

end Within

/-- In the schema of an object with these fields, these names are the ones that must be given. -/
structure Requires (fields : List (String × Parameter)) (schema : Json) (names : List String) : Prop where
  written : schema.get? "required" = if names = [] then none else some (.ofStrings names)
  sorted : names.Pairwise fun a b => compare a b = .lt
  nodup : names.Nodup
  exactly : ∀ name, name ∈ names ↔ ∃ p, (name, p) ∈ fields ∧ p.isRequired = true
  known : ∀ name ∈ names, ∃ j, schemaInner? schema (.field name) = some j

theorem requires_requiredNames {p : Parameter} (hordered : p.Ordered) (hobjects : p.FieldsInObjects)
    (hp : p.type = .object) : Requires p.fields p.schema (requiredNames p.fields) where
  written := by
    rw [((get?_schema p).2 hp).2]
    split
    · rename_i hnames
      rw [hnames]
      rfl
    · rename_i hnames
      rw [Json.fieldList_of_ne_nil _ _ hnames]
      rfl
  sorted := pairwise_requiredNames hordered.pairwise_fields
  nodup := (nodup_names hordered.pairwise_fields).sublist ((List.filter_sublist ..).map _)
  exactly _ := mem_requiredNames
  known name hname := by
    obtain ⟨q, hq, -⟩ := mem_requiredNames.1 hname
    have hlookup := (lookup_eq_some_iff_mem (nodup_names hordered.pairwise_fields)).2 hq
    exact ⟨q.schema, schemaInner?_schema hordered hobjects hlookup⟩

end Parameter

namespace ToolParams

open Parameter

def root (params : List (String × Parameter)) : Parameter := .mk .object "" [] false none params

theorem toSchema_described (params : List (String × Parameter)) :
    (described params).toSchema = (root params).schema := rfl

def ofSchema? (j : Json) : Option (List (String × Parameter)) := (ofSchema j.depth j).map (·.fields)

/-- The schema of a tool's parameters tells them all, whatever they hold, and of every object among them, at
any depth, it lists the names that must be given. -/
theorem ofSchema?_toSchema {params : List (String × Parameter)}
    (sorted : params.Pairwise fun a b => compare a.1 b.1 = .lt) (ordered : ∀ p ∈ params, p.2.Ordered)
    (objects : ∀ p ∈ params, p.2.FieldsInObjects) :
    ofSchema? (described params).toSchema = some (toldFields params) ∧
    ∀ (path : List Step) (q : Parameter), path.foldlM inner? (root params) = some q → q.type = .object →
      ∃ (schema : Json) (names : List String),
        path.foldlM schemaInner? (described params).toSchema = some schema ∧
        Requires q.fields schema names := by
  have hordered : (root params).Ordered := .mk sorted nofun ordered
  have hobjects : (root params).FieldsInObjects := .mk (fun _ => rfl) nofun objects
  rw [toSchema_described]
  refine ⟨?_, fun path q hq htype => ?_⟩
  · rw [ofSchema?, ofSchema_schema hordered hobjects le_rfl]
    rfl
  · obtain ⟨hschema, hq'⟩ := foldlM_schemaInner?_schema hordered hobjects hq
    exact ⟨q.schema, requiredNames q.fields, hschema, requires_requiredNames hq'.1 hq'.2 htype⟩

def legFields : List (String × Parameter) :=
  [("from", .mk .string "" [] true none []), ("seats", .mk .integer "how many" [] false none [])]

def tripParams : List (String × Parameter) :=
  [("city", .mk .string "city name" ["x", "y"] true none []),
    ("legs", .mk .array "" [] false (some (.mk .object "" [] true none legFields)) [])]

theorem ofSchema?_toSchema_trip :
    (tripParams.Pairwise (fun a b => compare a.1 b.1 = .lt) ∧ (∀ p ∈ tripParams, p.2.Ordered) ∧
      ∀ p ∈ tripParams, p.2.FieldsInObjects) ∧
    ofSchema? (described tripParams).toSchema = some (toldFields tripParams) ∧
    ∃ (schema : Json) (names : List String),
      [.field "legs", .element].foldlM schemaInner? (described tripParams).toSchema = some schema ∧
      Requires legFields schema names := by
  have sorted : tripParams.Pairwise fun a b => compare a.1 b.1 = .lt := by decide
  have ordered : ∀ p ∈ tripParams, p.2.Ordered := by
    simp only [tripParams, List.forall_mem_cons]
    refine ⟨.mk (by decide) nofun nofun, .mk (by decide) ?_ nofun, nofun⟩
    rintro _ ⟨⟩
    refine .mk (by decide) nofun ?_
    simp only [legFields, List.forall_mem_cons]
    exact ⟨.mk (by decide) nofun nofun, .mk (by decide) nofun nofun, nofun⟩
  have objects : ∀ p ∈ tripParams, p.2.FieldsInObjects := by
    simp only [tripParams, List.forall_mem_cons]
    refine ⟨.mk (absurd rfl) nofun nofun, .mk (absurd rfl) ?_ nofun, nofun⟩
    rintro _ ⟨⟩
    refine .mk (fun _ => rfl) nofun ?_
    simp only [legFields, List.forall_mem_cons]
    exact ⟨.mk (absurd rfl) nofun nofun, .mk (absurd rfl) nofun nofun, nofun⟩
  obtain ⟨htold, hrequires⟩ := ofSchema?_toSchema sorted ordered objects
  exact ⟨⟨sorted, ordered, objects⟩, htold, hrequires [.field "legs", .element] _ rfl rfl⟩

end ToolParams

end ChatRetrieval
