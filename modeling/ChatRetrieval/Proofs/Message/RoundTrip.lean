import ChatRetrieval.Message.Wire
import ChatRetrieval.Proofs.Json.Fields

/-!
Messages read back from what they are written as. Each part is written as a record of its fields, and
what is left out of the record is what reading fills in.
-/

namespace ChatRetrieval

open Decode (Record)

theorem Role.decode_toJson (r : Role) : decode r.toJson = some r := by cases r <;> rfl

theorem ImageDetail.decode_toJson (d : ImageDetail) : decode d.toJson = some d := by cases d <;> rfl

theorem ImageDetail.isLegible_toJson (d : ImageDetail) : d.toJson.isLegible = true := by
  cases d <;> rfl

namespace ContentPart

def mediaFields (url : String) (mimeType : Option String) : List (Option (String × Json)) :=
  [Json.field "url" (.str url), Json.field? "mime_type" .str mimeType]

theorem hasName_mediaFields (url : String) (mimeType : Option String) :
    List.Forall₂ Json.HasName ["url", "mime_type"] (mediaFields url mimeType) := by
  simp [mediaFields]

theorem decodeMedia_mediaFields (make : String → Option String → ContentPart) (url : String)
    (mimeType : Option String) :
    decodeMedia make (.ofFields (mediaFields url mimeType)) = some (make url mimeType) := by
  refine Decode.record_bind_ofFields (hasName_mediaFields url mimeType) (by decide)
    fun r hr => ?_
  simp only [mediaFields, List.forall₂_cons] at hr
  obtain ⟨hurl, hmime, -⟩ := hr
  simp only [Record.required_field hurl, Record.maybe_string hmime]
  rfl

theorem tagged_mediaFields (tag url : String) (mimeType : Option String) :
    Decode.tagged "type" (.ofFields (Json.field "type" (.str tag) :: mediaFields url mimeType)) =
      some (tag, .ofFields (mediaFields url mimeType)) :=
  Decode.tagged_ofFields (hasName_mediaFields url mimeType) (by decide) (by simp [mediaFields])

theorem decode_toJson (p : ContentPart) : decode p.toJson = some p := by
  cases p with
  | text t =>
    have hnames : List.Forall₂ Json.HasName ["text"] [Json.field "text" (.str t)] := by simp
    rw [decode, toJson, Decode.tagged_ofFields hnames (by decide) (by simp), Option.bind_eq_bind,
      Option.bind_some]
    refine Decode.record_bind_ofFields hnames (by decide) fun r hr => ?_
    rw [Record.required_field (List.forall₂_cons.1 hr).1]
    rfl
  | image url detail mimeType =>
    have hnames : List.Forall₂ Json.HasName ["url", "detail", "mime_type"]
        [Json.field "url" (.str url), Json.field? "detail" ImageDetail.toJson detail,
          Json.field? "mime_type" .str mimeType] := by simp
    rw [decode, toJson, Decode.tagged_ofFields hnames (by decide) (by simp [ImageDetail.isLegible_toJson]),
      Option.bind_eq_bind, Option.bind_some]
    refine Decode.record_bind_ofFields hnames (by decide) fun r hr => ?_
    simp only [List.forall₂_cons] at hr
    obtain ⟨hurl, hdetail, hmime, -⟩ := hr
    have hdetail' : r.maybe "detail" ImageDetail.decode = some detail :=
      Record.maybe_field? hdetail rfl fun d _ => d.decode_toJson
    simp only [Record.required_field hurl, hdetail', Record.maybe_string hmime]
    rfl
  | audio url mimeType =>
    show decode (.ofFields (Json.field "type" (.str "audio_url") :: mediaFields url mimeType)) = _
    rw [decode, tagged_mediaFields]
    exact decodeMedia_mediaFields audio url mimeType
  | video url mimeType =>
    show decode (.ofFields (Json.field "type" (.str "video_url") :: mediaFields url mimeType)) = _
    rw [decode, tagged_mediaFields]
    exact decodeMedia_mediaFields video url mimeType
  | file url mimeType =>
    show decode (.ofFields (Json.field "type" (.str "file_url") :: mediaFields url mimeType)) = _
    rw [decode, tagged_mediaFields]
    exact decodeMedia_mediaFields file url mimeType

end ContentPart

namespace ToolCall

structure Valid (c : ToolCall) : Prop where
  index : ∀ i ∈ c.index, i < 2 ^ 64
  extra : ∀ e ∈ c.extra.entries, e.2.canonical = e.2

theorem decodeFunction_ofFields (name arguments : String) :
    decodeFunction (.ofFields [Json.field "name" (.str name),
      Json.field "arguments" (.str arguments)]) = some (name, arguments) := by
  refine Decode.record_bind_ofFields (by simp) (by decide) fun r hr => ?_
  simp only [List.forall₂_cons] at hr
  obtain ⟨hname, harguments, -⟩ := hr
  simp only [Record.required_field hname, Record.required_field harguments]
  rfl

theorem decode_toJson {c : ToolCall} (h : c.Valid) : decode c.toJson = some c := by
  refine Decode.record_bind_ofFields (by simp) (by decide) fun r hr => ?_
  simp only [List.forall₂_cons] at hr
  obtain ⟨hindex, hid, hkind, hfunction, hextra, -⟩ := hr
  have hindex' : r.maybe "index" (Decode.natural 64) = some c.index :=
    Record.maybe_field? hindex rfl fun i hi => Decode.natural_ofNat (h.index i hi)
  simp only [hindex', Record.required_field hid, Record.required_field hkind,
    Record.required_field hfunction, decodeFunction_ofFields, Record.objectOf_fieldDict hextra h.extra]
  rfl

end ToolCall

namespace TokenUsage

structure Valid (u : TokenUsage) : Prop where
  promptTokens : u.promptTokens < 2 ^ 64
  cachedTokens : u.cachedTokens < 2 ^ 64
  completionTokens : u.completionTokens < 2 ^ 64
  reasoningTokens : u.reasoningTokens < 2 ^ 64
  totalTokens : u.totalTokens < 2 ^ 64

theorem decodeDetail_ofFields {name : String} {n : Nat} (h : n < 2 ^ 64) :
    decodeDetail name (.ofFields [Json.field name (.ofNat n)]) = some n := by
  refine Decode.record_bind_ofFields (by simp) (List.pairwise_singleton _ name)
    fun r hr => ?_
  rw [Record.required_field (List.forall₂_cons.1 hr).1, Decode.natural_ofNat h]

theorem decode_toJson {u : TokenUsage} (h : u.Valid) : decode u.toJson = some u := by
  refine Decode.record_bind_ofFields (by simp) (by decide) fun r hr => ?_
  simp only [List.forall₂_cons] at hr
  obtain ⟨hprompt, hcached, hcompletion, hreasoning, htotal, -⟩ := hr
  simp only [Record.required_field hprompt, Decode.natural_ofNat h.promptTokens,
    Record.required_field hcached, decodeDetail_ofFields h.cachedTokens,
    Record.required_field hcompletion, Decode.natural_ofNat h.completionTokens,
    Record.required_field hreasoning, decodeDetail_ofFields h.reasoningTokens,
    Record.required_field htotal, Decode.natural_ofNat h.totalTokens]
  rfl

end TokenUsage

structure TopLogProb.Valid (p : TopLogProb) : Prop where
  logprob : p.logprob.isFinite = true
  bytes : ∀ b ∈ p.bytes, Decode.InInt64 b

structure LogProb.Valid (p : LogProb) : Prop where
  logprob : p.logprob.isFinite = true
  bytes : ∀ b ∈ p.bytes, Decode.InInt64 b
  alternatives : ∀ a ∈ p.alternatives, a.Valid

theorem TopLogProb.decode_toJson {p : TopLogProb} (h : p.Valid) : decode p.toJson = some p := by
  refine Decode.record_bind_ofFields (by simp) (by decide) fun r hr => ?_
  simp only [List.forall₂_cons] at hr
  obtain ⟨htoken, hlogprob, hbytes, -⟩ := hr
  simp only [Record.required_field htoken, Record.required_field hlogprob,
    Decode.double_ofDouble h.logprob, Record.listOf_int64 hbytes h.bytes]
  rfl

theorem LogProb.decode_toJson {p : LogProb} (h : p.Valid) : decode p.toJson = some p := by
  refine Decode.record_bind_ofFields (by simp) (by decide) fun r hr => ?_
  simp only [List.forall₂_cons] at hr
  obtain ⟨htoken, hlogprob, hbytes, halternatives, -⟩ := hr
  have halternatives' : r.listOf "top_logprobs" TopLogProb.decode = some p.alternatives :=
    Record.listOf_fieldList halternatives fun a ha => TopLogProb.decode_toJson (h.alternatives a ha)
  simp only [Record.required_field htoken, Record.required_field hlogprob,
    Decode.double_ofDouble h.logprob, Record.listOf_int64 hbytes h.bytes, halternatives']
  rfl

namespace ResponseMeta

structure Valid (m : ResponseMeta) : Prop where
  usage : ∀ u ∈ m.usage, u.Valid
  logprobs : ∀ ps ∈ m.logprobs, ∀ p ∈ ps, p.Valid

theorem decodeLogprobs_toJson {ps : List LogProb} (h : ∀ p ∈ ps, p.Valid) :
    decodeLogprobs (logprobsToJson ps) = some ps := by
  refine Decode.record_bind_ofFields (by simp) (by decide) fun r hr => ?_
  rw [Record.required_field (List.forall₂_cons.1 hr).1]
  exact Decode.items_map fun p hp => LogProb.decode_toJson (h p hp)

theorem decode_toJson {m : ResponseMeta} (h : m.Valid) : decode m.toJson = some m := by
  refine Decode.record_bind_ofFields (by simp) (by decide) fun r hr => ?_
  simp only [List.forall₂_cons] at hr
  obtain ⟨hreason, husage, hlogprobs, -⟩ := hr
  have husage' : r.maybe "usage" TokenUsage.decode = some m.usage :=
    Record.maybe_field? husage rfl fun u hu => TokenUsage.decode_toJson (h.usage u hu)
  have hlogprobs' : r.maybe "logprobs" decodeLogprobs = some m.logprobs :=
    Record.maybe_field? hlogprobs rfl fun ps hps => decodeLogprobs_toJson (h.logprobs ps hps)
  simp only [Record.maybe_string hreason, husage', hlogprobs']
  rfl

end ResponseMeta

namespace Message

structure Valid (m : Message) : Prop where
  toolCalls : ∀ c ∈ m.toolCalls, c.Valid
  responseMeta : ∀ r ∈ m.responseMeta, r.Valid
  extra : ∀ e ∈ m.extra.entries, e.2.canonical = e.2

theorem decode_toJson {m : Message} (h : m.Valid) : decode m.toJson = some m := by
  refine Decode.record_bind_ofFields (by simp) (by decide) fun r hr => ?_
  simp only [List.forall₂_cons] at hr
  obtain ⟨hrole, hcontent, huser, hassistant, hreasoning, hcalls, hid, hname, hmeta, hextra, -⟩ := hr
  have hcontent' : r.text "content" = some m.content := Record.withDefault_field hcontent
  have huser' : r.listOf "user_input_multi_content" ContentPart.decode = some m.userParts :=
    Record.listOf_fieldList huser fun p _ => p.decode_toJson
  have hassistant' :
      r.listOf "assistant_gen_multi_content" ContentPart.decode = some m.assistantParts :=
    Record.listOf_fieldList hassistant fun p _ => p.decode_toJson
  have hcalls' : r.listOf "tool_calls" ToolCall.decode = some m.toolCalls :=
    Record.listOf_fieldList hcalls fun c hc => ToolCall.decode_toJson (h.toolCalls c hc)
  have hmeta' : r.maybe "response_meta" ResponseMeta.decode = some m.responseMeta :=
    Record.maybe_field? hmeta rfl fun report hreport =>
      ResponseMeta.decode_toJson (h.responseMeta report hreport)
  simp only [Record.required_field hrole, Role.decode_toJson, hcontent', huser', hassistant',
    Record.text_fieldText hreasoning, hcalls', Record.maybe_string hid, Record.maybe_string hname,
    hmeta', Record.objectOf_fieldDict hextra h.extra]
  rfl

end Message

end ChatRetrieval
