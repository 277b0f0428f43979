import ChatRetrieval.Completions.Wire
import ChatRetrieval.Proofs.Json.Fields

/-!
The chat-completions wire types read back from what they are written as. The two unions without a tag
are unambiguous: a text is never a list of parts, and an object with two members is never the name of a
mode. What reading accepts is in range, so writing it again changes nothing.
-/

namespace ChatRetrieval

namespace Decode

/-- Reading undoes writing for these values, and an accepted value that is written is accepted again
and written the same. -/
structure RoundTrips {α : Type} (d : Decoder α) (encode : α → Json) (P : α → Prop) : Prop where
  decode_encode : ∀ a, P a → d (encode a) = some a
  reencode : ∀ j k, (d j).map encode = some k → (d k).map encode = some k

theorem RoundTrips.of_valid {α : Type} {d : Decoder α} {encode : α → Json} {P : α → Prop}
    (hencode : ∀ {a}, P a → d (encode a) = some a) (hvalid : ∀ {j a}, d j = some a → P a) :
    RoundTrips d encode P where
  decode_encode _ := hencode
  reencode j k h := by
    obtain ⟨a, ha, rfl⟩ := Option.map_eq_some_iff.1 h
    rw [hencode (hvalid ha), Option.map_some]

end Decode

namespace Completions

open Decode (Record RoundTrips)

theorem Media.isLegible_toJson (m : Media) : m.toJson.isLegible = true :=
  Json.isLegible_ofFields (by simp)

theorem Media.decode_toJson (m : Media) : decode m.toJson = some m := by
  refine Decode.record_bind_ofFields (by simp) (by decide) fun r hr => ?_
  simp only [List.forall₂_cons] at hr
  obtain ⟨hurl, hdetail, -⟩ := hr
  simp only [Record.required_field hurl, Record.maybe_string hdetail]
  rfl

namespace Part

theorem tagged_field (tag name : String) {j : Json} (h : name ≠ "type") (hj : j.isLegible = true) :
    Decode.tagged "type" (.ofFields [Json.field "type" (.str tag), Json.field name j]) =
      some (tag, .ofFields [Json.field name j]) := by
  have hnames : List.Forall₂ Json.HasName [name] [Json.field name j] := by simp
  exact Decode.tagged_ofFields hnames (by simp [h.symm]) (by simp [hj])

theorem required_ofFields {α : Type} {d : Decoder α} (name : String) {j : Json} {a : α}
    (h : d j = some a) {f : α → Part} :
    (Decode.record [name] (.ofFields [Json.field name j]) >>= fun r => do
      return f (← r.required name d)) = some (f a) := by
  refine Decode.record_bind_ofFields (by simp) (List.pairwise_singleton _ name)
    fun r hr => ?_
  rw [Record.required_field (List.forall₂_cons.1 hr).1, h]
  rfl

theorem decode_toJson (p : Part) : decode p.toJson = some p := by
  cases p with
  | text t =>
    rw [decode, toJson, tagged_field "text" "text" (by decide) rfl, Option.bind_eq_bind, Option.bind_some]
    have hread : Decode.string (.str t) = some t := rfl
    exact required_ofFields "text" hread
  | image m =>
    rw [decode, toJson, tagged_field "image_url" "image_url" (by decide) m.isLegible_toJson,
      Option.bind_eq_bind, Option.bind_some]
    exact required_ofFields "image_url" m.decode_toJson
  | video m =>
    rw [decode, toJson, tagged_field "video_url" "video_url" (by decide) m.isLegible_toJson,
      Option.bind_eq_bind, Option.bind_some]
    exact required_ofFields "video_url" m.decode_toJson

end Part

theorem Content.decode_toJson (c : Content) : decode c.toJson = some c := by
  cases c with
  | text t => rfl
  | parts ps =>
    show (Decode.items Part.decode (ps.map Part.toJson)).map parts = _
    rw [Decode.items_map fun p _ => p.decode_toJson]
    rfl

namespace WireCall

def Valid (c : WireCall) : Prop := ∀ i ∈ c.index, i < 2 ^ 64

theorem decodeFunction_ofFields (name arguments : Option String) :
    decodeFunction (.ofFields [Json.field? "name" .str name, Json.field? "arguments" .str arguments]) =
      some (name, arguments) := by
  refine Decode.record_bind_ofFields (by simp) (by decide) fun r hr => ?_
  simp only [List.forall₂_cons] at hr
  obtain ⟨hname, harguments, -⟩ := hr
  simp only [Record.maybe_string hname, Record.maybe_string harguments]
  rfl

theorem decode_toJson {c : WireCall} (h : c.Valid) : decode c.toJson = some c := by
  refine Decode.record_bind_ofFields (by simp) (by decide) fun r hr => ?_
  simp only [List.forall₂_cons] at hr
  obtain ⟨hindex, hid, hkind, hfunction, -⟩ := hr
  have hindex' : r.maybe "index" (Decode.natural 64) = some c.index :=
    Record.maybe_field? hindex rfl fun i hi => Decode.natural_ofNat (h i hi)
  simp only [Record.withDefault_field hfunction, decodeFunction_ofFields, hindex',
    Record.maybe_string hid, Record.maybe_string hkind]
  rfl

theorem valid_of_decode {j : Json} {c : WireCall} (h : decode j = some c) : c.Valid := by
  obtain ⟨r, -, h⟩ := Option.bind_eq_some_iff.1 h
  obtain ⟨⟨name, arguments⟩, -, h⟩ := Option.bind_eq_some_iff.1 h
  obtain ⟨index, hindex, h⟩ := Option.bind_eq_some_iff.1 h
  obtain ⟨id, -, h⟩ := Option.bind_eq_some_iff.1 h
  obtain ⟨kind, -, h⟩ := Option.bind_eq_some_iff.1 h
  cases h
  rintro i ⟨⟩
  obtain ⟨x, hx⟩ := Record.exists_of_maybe hindex
  exact Decode.lt_of_natural hx

end WireCall

namespace RequestMessage

/-- A message whose calls have indices of 64 bits. -/
def Valid (m : RequestMessage) : Prop := ∀ c ∈ m.toolCalls, c.Valid

theorem decode_toJson {m : RequestMessage} (h : m.Valid) : decode m.toJson = some m := by
  refine Decode.record_bind_ofFields (by simp) (by decide) fun r hr => ?_
  simp only [List.forall₂_cons] at hr
  obtain ⟨hrole, hcontent, hname, hcalls, hid, -⟩ := hr
  have hcontent' : r.maybe "content" Content.decode = some m.content :=
    Record.maybe_field? hcontent rfl fun c _ => c.decode_toJson
  have hcalls' : r.listOf "tool_calls" WireCall.decode = some m.toolCalls :=
    Record.listOf_fieldList hcalls fun c hc => WireCall.decode_toJson (h c hc)
  simp only [Record.required_field hrole, hcontent', Record.maybe_string hname, hcalls',
    Record.maybe_string hid]
  rfl

theorem valid_of_decode {j : Json} {m : RequestMessage} (h : decode j = some m) : m.Valid := by
  obtain ⟨r, -, h⟩ := Option.bind_eq_some_iff.1 h
  obtain ⟨role, -, h⟩ := Option.bind_eq_some_iff.1 h
  obtain ⟨content, -, h⟩ := Option.bind_eq_some_iff.1 h
  obtain ⟨name, -, h⟩ := Option.bind_eq_some_iff.1 h
  obtain ⟨calls, hcalls, h⟩ := Option.bind_eq_some_iff.1 h
  obtain ⟨id, -, h⟩ := Option.bind_eq_some_iff.1 h
  cases h
  intro c hc
  obtain ⟨x, hx⟩ := Record.exists_of_mem_listOf hcalls hc
  exact WireCall.valid_of_decode hx

end RequestMessage

namespace Tool

/-- A tool whose schema is as it is kept. -/
def Valid (t : Tool) : Prop := t.parameters.canonical = t.parameters

theorem decode_toJson {t : Tool} (h : t.Valid) : decode t.toJson = some t := by
  have hfunction : decodeFunction (.ofFields [Json.field "name" (.str t.name),
      Json.fieldText "description" t.description, Json.field "parameters" t.parameters]) =
        some (t.name, t.description, t.parameters) := by
    refine Decode.record_bind_ofFields (by simp) (by decide) fun r hr => ?_
    simp only [List.forall₂_cons] at hr
    obtain ⟨hname, hdescription, hparameters, -⟩ := hr
    have hany : Decode.any t.parameters = some t.parameters := Decode.any_of_canonical h
    simp only [Record.required_field hname, Record.text_fieldText hdescription,
      Record.required_field hparameters, hany]
    rfl
  refine Decode.record_bind_ofFields (by simp) (by decide) fun r hr => ?_
  simp only [List.forall₂_cons] at hr
  obtain ⟨hkind, hfields, -⟩ := hr
  simp only [Record.required_field hkind, Record.required_field hfields, hfunction]
  rfl

theorem valid_of_decode {j : Json} {t : Tool} (h : decode j = some t) : t.Valid := by
  obtain ⟨r, -, h⟩ := Option.bind_eq_some_iff.1 h
  obtain ⟨kind, -, h⟩ := Option.bind_eq_some_iff.1 h
  obtain ⟨⟨name, description, parameters⟩, hfunction, h⟩ := Option.bind_eq_some_iff.1 h
  cases h
  obtain ⟨x, hx⟩ := Record.exists_of_required hfunction
  obtain ⟨s, -, hx⟩ := Option.bind_eq_some_iff.1 hx
  obtain ⟨name, -, hx⟩ := Option.bind_eq_some_iff.1 hx
  obtain ⟨description, -, hx⟩ := Option.bind_eq_some_iff.1 hx
  obtain ⟨parameters, hparameters, hx⟩ := Option.bind_eq_some_iff.1 hx
  cases hx
  obtain ⟨y, hy⟩ := Record.exists_of_required hparameters
  exact Decode.canonical_of_any hy

end Tool

theorem ToolChoiceMode.decode_name (m : ToolChoiceMode) : decode (.str m.name) = some m := by
  cases m <;> rfl

theorem FormatKind.decode_name (k : FormatKind) : decode (.str k.name) = some k := by cases k <;> rfl

namespace ToolChoiceParam

theorem decodeName_ofFields (name : String) :
    decodeName (.ofFields [Json.field "name" (.str name)]) = some name := by
  refine Decode.record_bind_ofFields (by simp) (by decide) fun r hr => ?_
  exact Record.required_field (List.forall₂_cons.1 hr).1

theorem decodeMode_named (kind name : String) :
    ToolChoiceMode.decode (named kind name).toJson = none := by
  have hlength (j : Json) : (Dict.ofList [("type", .str kind), ("function", j)]).entries.length = 2 :=
    (Dict.perm_ofList (by simp)).length_eq
  exact Decode.oneOf_obj_eq_none _ fun hone => absurd ((hlength _).symm.trans hone) (by decide)

theorem isLegible_named (kind name : String) : (named kind name).toJson.isLegible = true := by
  have hfunction : (Json.ofFields [Json.field "name" (.str name)]).isLegible = true :=
    Json.isLegible_ofFields (by simp)
  exact Json.isLegible_ofFields (by simp [hfunction])

theorem decode_toJson (c : ToolChoiceParam) : decode c.toJson = some c := by
  cases c with
  | mode m =>
    rw [decode, toJson, Decode.buffered_of_isLegible rfl, m.decode_name]
  | named kind name =>
    rw [decode, Decode.buffered_of_isLegible (isLegible_named kind name), decodeMode_named]
    refine Decode.record_bind_ofFields (by simp) (by decide) fun r hr => ?_
    simp only [List.forall₂_cons] at hr
    obtain ⟨hkind, hfunction, -⟩ := hr
    simp only [Record.required_field hkind, Record.required_field hfunction, decodeName_ofFields]
    rfl

end ToolChoiceParam

def SchemaFormat.Valid (f : SchemaFormat) : Prop := f.schema.canonical = f.schema

theorem SchemaFormat.decode_toJson {f : SchemaFormat} (h : f.Valid) : decode f.toJson = some f := by
  refine Decode.record_bind_ofFields (by simp) (by decide) fun r hr => ?_
  simp only [List.forall₂_cons] at hr
  obtain ⟨hname, hdescription, hschema, hstrict, -⟩ := hr
  have hany : Decode.any f.schema = some f.schema := Decode.any_of_canonical h
  have hstrict' : r.withDefault "strict" false Decode.bool = some f.strict :=
    Record.withDefault_field hstrict
  simp only [Record.required_field hname, Record.text_fieldText hdescription,
    Record.required_field hschema, hany, hstrict']
  rfl

theorem SchemaFormat.valid_of_decode {j : Json} {f : SchemaFormat} (h : decode j = some f) :
    f.Valid := by
  obtain ⟨r, -, h⟩ := Option.bind_eq_some_iff.1 h
  obtain ⟨name, -, h⟩ := Option.bind_eq_some_iff.1 h
  obtain ⟨description, -, h⟩ := Option.bind_eq_some_iff.1 h
  obtain ⟨schema, hschema, h⟩ := Option.bind_eq_some_iff.1 h
  obtain ⟨strict, -, h⟩ := Option.bind_eq_some_iff.1 h
  cases h
  obtain ⟨x, hx⟩ := Record.exists_of_required hschema
  exact Decode.canonical_of_any hx

namespace ResponseFormat

def Valid (f : ResponseFormat) : Prop := ∀ s ∈ f.schema, s.Valid

theorem decode_toJson {f : ResponseFormat} (h : f.Valid) : decode f.toJson = some f := by
  refine Decode.record_bind_ofFields (by simp) (by decide) fun r hr => ?_
  simp only [List.forall₂_cons] at hr
  obtain ⟨hkind, hschema, -⟩ := hr
  have hschema' : r.maybe "json_schema" SchemaFormat.decode = some f.schema :=
    Record.maybe_field? hschema rfl fun s hs => SchemaFormat.decode_toJson (h s hs)
  simp only [Record.required_field hkind, f.kind.decode_name, hschema']
  rfl

theorem valid_of_decode {j : Json} {f : ResponseFormat} (h : decode j = some f) : f.Valid := by
  obtain ⟨r, -, h⟩ := Option.bind_eq_some_iff.1 h
  obtain ⟨kind, -, h⟩ := Option.bind_eq_some_iff.1 h
  obtain ⟨schema, hschema, h⟩ := Option.bind_eq_some_iff.1 h
  cases h
  rintro s ⟨⟩
  obtain ⟨x, hx⟩ := Record.exists_of_maybe hschema
  exact SchemaFormat.valid_of_decode hx

end ResponseFormat

/-- Decoding undoes encoding for what a request is made of, and encoding again what was decoded from
any value at all changes nothing. -/
theorem wire_roundTrips :
    RoundTrips RequestMessage.decode RequestMessage.toJson RequestMessage.Valid ∧
    RoundTrips Tool.decode Tool.toJson Tool.Valid ∧
    RoundTrips ToolChoiceParam.decode ToolChoiceParam.toJson (fun _ => True) ∧
    RoundTrips ResponseFormat.decode ResponseFormat.toJson ResponseFormat.Valid :=
  ⟨.of_valid RequestMessage.decode_toJson RequestMessage.valid_of_decode,
    .of_valid Tool.decode_toJson Tool.valid_of_decode,
    .of_valid (fun _ => ToolChoiceParam.decode_toJson _) fun _ => trivial,
    .of_valid ResponseFormat.decode_toJson ResponseFormat.valid_of_decode⟩

def silentMessage : RequestMessage :=
  ⟨"", some (.parts []), none, [⟨none, none, none, none, none⟩], none⟩

theorem wire_roundTrips_silent :
    silentMessage.Valid ∧ RequestMessage.decode silentMessage.toJson = some silentMessage ∧
    (ToolChoiceParam.decode (.obj [("auto", .null)])).map ToolChoiceParam.toJson = some (.str "auto") ∧
    (ToolChoiceParam.decode (.str "auto")).map ToolChoiceParam.toJson = some (.str "auto") := by
  have hvalid : silentMessage.Valid := by
    intro c hc
    obtain rfl := List.mem_singleton.1 hc
    exact nofun
  exact ⟨hvalid, wire_roundTrips.1.decode_encode _ hvalid, by decide,
    wire_roundTrips.2.2.1.reencode (.obj [("auto", .null)]) _ (by decide)⟩

end Completions

end ChatRetrieval
