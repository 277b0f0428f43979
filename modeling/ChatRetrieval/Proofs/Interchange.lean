import ChatRetrieval.Document
import ChatRetrieval.Proofs.Message.RoundTrip
import ChatRetrieval.Tool

/-!
What moves between the parts of a program reads back from what it is written as: messages, documents
and tools. A parameter is read back at any depth that reaches its innermost part, and weights under
whole numbers come back in the order of the numbers.
-/

namespace ChatRetrieval

open Decode (Record)

namespace Document

structure Valid (d : Document) : Prop where
  metadata : ∀ e ∈ d.metadata.entries, e.2.canonical = e.2
  score : ∀ s ∈ d.score, s.isFinite = true
  denseVector : ∀ v ∈ d.denseVector, ∀ x ∈ v, x.isFinite = true
  sparseVector : ∀ v ∈ d.sparseVector, ∀ e ∈ v.entries, Decode.InInt64 e.1 ∧ e.2.isFinite = true

theorem decode_toJson {d : Document} (h : d.Valid) : decode d.toJson = some d := by
  refine Decode.record_bind_ofFields (by simp) (by decide) fun r hr => ?_
  simp only [List.forall₂_cons] at hr
  obtain ⟨hid, hcontent, hmetadata, hscore, hdense, hsparse, -⟩ := hr
  have hscore' : r.maybe "score" Decode.double = some d.score :=
    Record.maybe_field? hscore rfl fun s hs => Decode.double_ofDouble (h.score s hs)
  have hdense' : r.maybe "dense_vector" (Decode.list Decode.double) = some d.denseVector :=
    Record.maybe_field? hdense rfl fun v hv => Decode.items_map fun x hx =>
      Decode.double_ofDouble (h.denseVector v hv x hx)
  have hsparse' : r.maybe "sparse_vector" (Decode.intDict Decode.double) = some d.sparseVector :=
    Record.maybe_field? hsparse rfl fun v hv => Decode.intDict_ofMembers
      (fun e he => (h.sparseVector v hv e he).1)
      fun e he => Decode.double_ofDouble (h.sparseVector v hv e he).2
  simp only [Record.required_field hid, Record.required_field hcontent,
    Record.objectOf_fieldDict hmetadata h.metadata, hscore', hdense', hsparse']
  rfl

end Document

theorem DataType.decode_name (t : DataType) : decode (.str t.name) = some t := by cases t <;> rfl

namespace Parameter

/-- Fields in the order of their names, at every depth. -/
inductive Ordered : Parameter → Prop
  | mk {type : DataType} {description : String} {choices : List String} {isRequired : Bool}
      {element : Option Parameter} {fields : List (String × Parameter)}
      (sorted : fields.Pairwise fun a b => compare a.1 b.1 = .lt)
      (ofElement : ∀ p ∈ element, Ordered p) (ofFields : ∀ f ∈ fields, Ordered f.2) :
      Ordered (.mk type description choices isRequired element fields)

theorem fieldsToJson_eq_map (fields : List (String × Parameter)) :
    fieldsToJson fields = fields.map fun f => (f.1, f.2.toJson) := by
  induction fields with
  | nil => rfl
  | cons f r ih =>
    obtain ⟨name, p⟩ := f
    rw [fieldsToJson, ih, List.map_cons]

theorem toJson_mk (type : DataType) (description : String) (choices : List String)
    (isRequired : Bool) (element : Option Parameter) (fields : List (String × Parameter)) :
    (mk type description choices isRequired element fields).toJson = .ofFields [
      Json.field "type" (.str type.name), Json.field "desc" (.str description),
      Json.field "enum_values" (.ofStrings choices), Json.field "required" (.bool isRequired),
      Json.field "elem_info" (Json.nullable toJson element),
      Json.field "sub_params" (.ofMembers (fieldsToJson fields))] := by
  cases element <;> rfl

variable {fields : List (String × Parameter)}
  (sorted : fields.Pairwise fun a b => compare a.1 b.1 = .lt)
include sorted

theorem ofMembers_fieldsToJson :
    Json.ofMembers (fieldsToJson fields) =
      .ofDict ((⟨fields, sorted⟩ : Dict String Parameter).map toJson) := by
  rw [fieldsToJson_eq_map, Json.ofMembers_map sorted]

theorem depth_lt_fieldsToJson {f : String × Parameter} (hf : f ∈ fields) :
    f.2.toJson.depth < (Json.ofMembers (fieldsToJson fields)).depth := by
  rw [fieldsToJson_eq_map]
  exact Json.depth_lt_ofMembers_map sorted toJson hf

theorem dict_fieldsToJson {d : Decoder Parameter} (h : ∀ f ∈ fields, d f.2.toJson = some f.2) :
    Decode.dict d (.ofMembers (fieldsToJson fields)) = some ⟨fields, sorted⟩ := by
  rw [ofMembers_fieldsToJson sorted]
  exact Decode.dict_ofDict h

omit sorted in
theorem decodeWithin_toJson {p : Parameter} (h : p.Ordered) {depth : Nat}
    (hdepth : p.toJson.depth ≤ depth) : decodeWithin depth p.toJson = some p := by
  -- The depth is left free: the element and every field are read one level further down, and none of
  -- them need reach as deep as the parameter does.
  induction h generalizing depth with
  | @mk type description choices isRequired element fields sorted _ _ ihelement ihfields =>
    cases depth with
    | zero => exact absurd hdepth (Nat.not_succ_le_zero _)
    | succ depth =>
      rw [toJson_mk] at hdepth ⊢
      have hnames : List.Forall₂ Json.HasName
          ["type", "desc", "enum_values", "required", "elem_info", "sub_params"]
          [Json.field "type" (.str type.name), Json.field "desc" (.str description),
            Json.field "enum_values" (.ofStrings choices), Json.field "required" (.bool isRequired),
            Json.field "elem_info" (Json.nullable toJson element),
            Json.field "sub_params" (.ofMembers (fieldsToJson fields))] := by simp
      obtain ⟨r, hr, hfind⟩ :=
        Decode.exists_record_ofFields hnames (by decide) (List.Subset.refl _)
      have hdeep {k : String} {v : Json} (hv : r.find? k = some v) : v.depth ≤ depth :=
        Nat.le_of_lt_succ (Nat.lt_of_lt_of_le (Decode.depth_lt_of_record hr hv) hdepth)
      simp only [List.forall₂_cons] at hfind
      obtain ⟨htype, hdescription, hchoices, hrequired, helement, hfields, -⟩ := hfind
      have hdescription' : r.text "desc" = some description := Record.withDefault_field hdescription
      have hchoices' : r.listOf "enum_values" Decode.string = some choices :=
        (Record.withDefault_field hchoices).trans (Decode.items_map fun _ _ => rfl)
      have hrequired' : r.withDefault "required" false Decode.bool = some isRequired :=
        Record.withDefault_field hrequired
      have helement' : r.maybe "elem_info" (decodeWithin depth) = some element := by
        refine Record.maybe_nullable helement (by cases depth <;> rfl) fun p hp => ?_
        obtain rfl := Option.mem_def.1 hp
        exact ihelement p rfl (hdeep helement)
      have hfields' : r.withDefault "sub_params" Dict.empty (Decode.dict (decodeWithin depth)) =
          some ⟨fields, sorted⟩ := by
        refine (Record.withDefault_field hfields).trans (dict_fieldsToJson sorted fun f hf => ?_)
        exact ihfields f hf ((depth_lt_fieldsToJson sorted hf).le.trans (hdeep hfields))
      rw [decodeWithin, hr]
      simp only [Option.bind_eq_bind, Option.bind_some, Record.required_field htype,
        DataType.decode_name, hdescription', hchoices', hrequired', helement', hfields']
      rfl

end Parameter

namespace ToolParams

inductive Valid : ToolParams → Prop
  | described {params : List (String × Parameter)}
      (sorted : params.Pairwise fun a b => compare a.1 b.1 = .lt)
      (ordered : ∀ p ∈ params, p.2.Ordered) : Valid (.described params)
  | schema {schema : Json} (canonical : schema.canonical = schema) : Valid (.schema schema)

theorem decode_toJson {p : ToolParams} (h : p.Valid) : decode p.toJson = some p := by
  cases h with
  | @described params sorted ordered =>
    have hread := Parameter.dict_fieldsToJson sorted fun p hp =>
      Parameter.decodeWithin_toJson (ordered p hp) (Parameter.depth_lt_fieldsToJson sorted hp).le
    show decodeDescribed _ _ = _
    rw [decodeDescribed, hread]
    rfl
  | schema canonical =>
    show some (schema (Json.canonical _)) = _
    rw [canonical]

end ToolParams

namespace ToolInfo

def Valid (t : ToolInfo) : Prop := ∀ p ∈ t.params, p.Valid

theorem decode_toJson {t : ToolInfo} (h : t.Valid) : decode t.toJson = some t := by
  obtain ⟨name, description, params⟩ := t
  have htoJson : toJson ⟨name, description, params⟩ = .ofFields [Json.field "name" (.str name),
      Json.field "desc" (.str description),
      Json.field "params" (Json.nullable ToolParams.toJson params)] := by
    cases params <;> rfl
  rw [htoJson]
  refine Decode.record_bind_ofFields (by simp) (by decide) fun r hr => ?_
  simp only [List.forall₂_cons] at hr
  obtain ⟨hname, hdescription, hparams, -⟩ := hr
  have hparams' : r.maybe "params" ToolParams.decode = some params :=
    Record.maybe_nullable hparams rfl fun p hp => ToolParams.decode_toJson (h p hp)
  simp only [Record.required_field hname, Record.required_field hdescription, hparams']
  rfl

end ToolInfo

/-- Decoding undoes encoding for whatever moves between the parts of a program. -/
theorem decode_undoes_toJson :
    (∀ m : Message, m.Valid → Message.decode m.toJson = some m) ∧
    (∀ d : Document, d.Valid → Document.decode d.toJson = some d) ∧
    ∀ t : ToolInfo, t.Valid → ToolInfo.decode t.toJson = some t :=
  ⟨fun _ => Message.decode_toJson, fun _ => Document.decode_toJson, fun _ => ToolInfo.decode_toJson⟩

def fullTurn : Message where
  role := .assistant
  content := ""
  userParts := []
  assistantParts := [.text "", .image "u" (some .low) none, .file "v" (some "text/plain")]
  reasoning := "why"
  toolCalls := [⟨some 0, "id", "function", "f", "{}", Dict.ofList [("k", .arr [.null])]⟩]
  toolCallId := none
  toolName := some ""
  responseMeta := some ⟨some "stop", some ⟨5, 0, 2, 1, 2 ^ 64 - 1⟩,
    some [⟨"t", ⟨0xbff0000000000000⟩, [104, -1], [⟨"u", ⟨0x8000000000000000⟩, []⟩]⟩]⟩
  extra := Dict.ofList [("b", .obj [("x", .float ⟨0x3fe0000000000000⟩)]), ("a", .null)]

def weighted : Document where
  id := "1"
  content := "c"
  metadata := Dict.ofList [("m", .bool true)]
  score := some ⟨0x8000000000000000⟩
  denseVector := some []
  sparseVector := some (Dict.ofList [(9, ⟨0x3fe0000000000000⟩), (10, ⟨0⟩), (-2, ⟨0x3ff0000000000000⟩)])

def nestedTool : ToolInfo where
  name := "t"
  description := ""
  params := some (.described [("a", .mk .string "d" ["x", "y"] true none []),
    ("b", .mk .array "" [] false
      (some (.mk .object "" [] false none [("c", .mk .integer "" [] true none [])])) [])])

theorem decode_undoes_toJson_nested :
    (fullTurn.Valid ∧ Message.decode fullTurn.toJson = some fullTurn) ∧
    (weighted.Valid ∧ Document.decode weighted.toJson = some weighted) ∧
    (nestedTool.Valid ∧ ToolInfo.decode nestedTool.toJson = some nestedTool) := by
  have hturn : fullTurn.Valid := by
    refine ⟨?_, ?_, by decide⟩
    · intro c hc
      obtain rfl := List.mem_singleton.1 hc
      exact ⟨by decide, by decide⟩
    · rintro _ ⟨⟩
      refine ⟨?_, ?_⟩
      · rintro _ ⟨⟩
        exact ⟨by decide, by decide, by decide, by decide, by decide⟩
      · rintro _ ⟨⟩ p hp
        obtain rfl := List.mem_singleton.1 hp
        refine ⟨by decide, by decide, fun a ha => ?_⟩
        obtain rfl := List.mem_singleton.1 ha
        exact ⟨by decide, nofun⟩
  have hdocument : weighted.Valid := ⟨by decide, by decide, by decide, by decide⟩
  have htool : nestedTool.Valid := by
    rintro _ ⟨⟩
    refine .described (by decide) ?_
    simp only [List.forall_mem_cons]
    refine ⟨.mk (by decide) nofun nofun, .mk (by decide) ?_ nofun, nofun⟩
    rintro _ ⟨⟩
    refine .mk (by decide) nofun ?_
    simp only [List.forall_mem_cons]
    exact ⟨.mk (by decide) nofun nofun, nofun⟩
  exact ⟨⟨hturn, decode_undoes_toJson.1 _ hturn⟩, ⟨hdocument, decode_undoes_toJson.2.1 _ hdocument⟩,
    htool, decode_undoes_toJson.2.2 _ htool⟩

end ChatRetrieval
