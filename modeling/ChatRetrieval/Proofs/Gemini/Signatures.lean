import ChatRetrieval.Proofs.Gemini.Replay
import ChatRetrieval.Proofs.Text.Base64

/-!
Signatures sent back. A call keeps its own signature. All other parts of a reply share one, that of
the last of them, which goes back with the first text or medium, so it needs one to go with.
-/

namespace ChatRetrieval.Gemini

namespace PartData

/-- What is read when the data are sent back can be read: the address of a medium, the arguments of a
call. -/
def IsSendable : PartData → Prop
  | inlineData mimeType data => (Text.Inline.ofUrl (Text.Inline.mk mimeType data).url).isOk = true
  | fileData _ uri => (Text.Inline.ofUrl uri).isOk = true
  | functionCall id name args => (Gemini.functionCall id name args none).argumentValue.isOk = true
  | _ => True

end PartData

namespace Part

def isCall (p : Part) : Bool :=
  match p.data with
  | .functionCall _ _ _ => true
  | _ => false

def readSignature? (p : Part) : Option String :=
  p.signature.filter fun s => (Text.Base64.decode? s).any fun bytes => !bytes.isEmpty

/-- The signature a part has for the message. -/
def messageSignature? (p : Part) : Option String := if p.isCall then none else p.readSignature?

/-- A part with something to show when it is sent back: a medium, or text that is no thought. -/
def IsShown (p : Part) : Prop := p.data.medium? ≠ none ∨ p.answer ≠ ""

/-- A call as it is sent back, with its own signature. -/
inductive ReturnsAs : Part → Part → Prop
  | call {p : Part} {id : Option String} {name : String} {args value : Json}
      (hdata : p.data = .functionCall id name args)
      (hvalue : (functionCall id name args none).argumentValue = .ok value) :
      ReturnsAs p { (PartData.functionCall (givenId (id.getD name)) name value).part with
        signature := p.readSignature? }

end Part

def lastSignature? (parts : List Part) : Option String :=
  (parts.filterMap (·.messageSignature?)).getLast?

theorem Part.exists_bytes_of_readSignature? {p : Part} {s : String} (h : p.readSignature? = some s) :
    ∃ bytes, Text.Base64.decode? s = some bytes ∧ bytes ≠ [] := by
  obtain ⟨-, hs⟩ := Option.filter_eq_some_iff.1 h
  cases hbytes : Text.Base64.decode? s with
  | none =>
    rw [hbytes] at hs
    cases hs
  | some bytes =>
    rw [hbytes] at hs
    exact ⟨bytes, rfl, by simpa using hs⟩

theorem Part.readSignature?_of_messageSignature? {p : Part} {s : String}
    (h : p.messageSignature? = some s) : p.readSignature? = some s := by
  unfold messageSignature? at h
  split at h
  · cases h
  · exact h

theorem exists_bytes_of_lastSignature? {parts : List Part} {s : String}
    (h : lastSignature? parts = some s) :
    ∃ bytes, Text.Base64.decode? s = some bytes ∧ bytes ≠ [] := by
  obtain ⟨p, -, hp⟩ := List.mem_filterMap.1 (List.mem_of_getLast? h)
  exact Part.exists_bytes_of_readSignature? (Part.readSignature?_of_messageSignature? hp)

theorem map_encode_bind_decode? {signature : Option String}
    (h : ∀ s, signature = some s → ∃ bytes, Text.Base64.decode? s = some bytes ∧ bytes ≠ []) :
    (signature.bind Text.Base64.decode?).map Text.Base64.encode = signature := by
  cases signature with
  | none => rfl
  | some s =>
    obtain ⟨bytes, hbytes, -⟩ := h s rfl
    rw [Option.bind_some, hbytes, Option.map_some, Text.Base64.encode_of_decode? hbytes]

theorem map_encode_lastSignature? (parts : List Part) :
    ((lastSignature? parts).bind Text.Base64.decode?).map Text.Base64.encode = lastSignature? parts :=
  map_encode_bind_decode? fun _ => exists_bytes_of_lastSignature?

theorem signatureIn?_withSignature (extra : Dict String Json) (p : Part) :
    Extra.signatureIn? (Extra.withSignature extra ((p.signature.bind Text.Base64.decode?).getD [])) =
      (p.readSignature?.bind Text.Base64.decode?).or (Extra.signatureIn? extra) := by
  unfold Part.readSignature?
  cases p.signature with
  | none => rfl
  | some s =>
    rw [Option.bind_some, Option.filter_some]
    cases hbytes : Text.Base64.decode? s with
    | none => rfl
    | some bytes =>
      cases bytes with
      | nil => rfl
      | cons b rest =>
        simp [Extra.withSignature, Extra.signatureIn?, Text.Base64.encode_of_decode? hbytes, hbytes,
          Json.asString?]

theorem signature?_setExtra {key : String} (h : key ≠ Extra.signatureKey) (m : Message) (j : Json) :
    Extra.signature? (m.setExtra key j) = Extra.signature? m := by
  simp only [Extra.signature?, Extra.signatureIn?, Message.setExtra,
    Dict.get?_insert_of_ne m.extra j h.symm]

theorem signature?_addData (m : Message) (thought : Bool) (data : PartData) :
    Extra.signature? (addData m thought data) = Extra.signature? m := by
  cases data with
  | executableCode code => exact signature?_setExtra (by decide) m _
  | codeExecutionResult result => exact signature?_setExtra (by decide) m _
  | text t => cases thought <;> rfl
  | _ => rfl

theorem signature?_addPart (m : Message) (p : Part) :
    Extra.signature? (addPart m p) =
      (p.messageSignature?.bind Text.Base64.decode?).or (Extra.signature? m) := by
  have hsigned (data : PartData) (thought : Bool) :
      Extra.signature? (Extra.setSignature (addData m thought data)
        ((p.signature.bind Text.Base64.decode?).getD [])) =
      (p.readSignature?.bind Text.Base64.decode?).or (Extra.signature? m) := by
    rw [← signature?_addData m thought data]
    exact signatureIn?_withSignature _ p
  unfold addPart Part.messageSignature? Part.isCall
  cases p.data with
  | functionCall id name args => rfl
  | _ => exact hsigned _ _

theorem lastSignature?_cons (p : Part) (rest : List Part) :
    (lastSignature? (p :: rest)).bind Text.Base64.decode? =
      ((lastSignature? rest).bind Text.Base64.decode?).or
        (p.messageSignature?.bind Text.Base64.decode?) := by
  have hlast : lastSignature? (p :: rest) = (lastSignature? rest).or p.messageSignature? :=
    getLast?_filterMap_cons_eq ..
  rw [hlast]
  cases hrest : lastSignature? rest with
  | none => rfl
  | some s =>
    obtain ⟨bytes, hbytes, -⟩ := exists_bytes_of_lastSignature? hrest
    rw [Option.some_or, Option.bind_some, hbytes, Option.some_or]

theorem signature?_foldl_addPart (parts : List Part) (m : Message) :
    Extra.signature? (parts.foldl addPart m) =
      ((lastSignature? parts).bind Text.Base64.decode?).or (Extra.signature? m) := by
  induction parts generalizing m with
  | nil => rfl
  | cons p rest ih =>
    rw [List.foldl_cons, ih, signature?_addPart, lastSignature?_cons, Option.or_assoc]

theorem signature?_assembled (parts : List Part) (grounding : Option Json) (report : ResponseMeta) :
    Extra.signature? (assembled parts grounding report) =
      (lastSignature? parts).bind Text.Base64.decode? := by
  have hnone : Extra.signatureIn? (sources grounding) = none := by
    rw [Extra.signatureIn?, get?_sources_of_ne (by decide)]
    rfl
  rw [assembled, signature?_foldl_addPart]
  exact (congrArg _ hnone).trans (Option.or_none ..)

theorem callSignature?_functionCall (p : Part) (id : Option String) (name : String) (args : Json) :
    Extra.callSignature? (functionCall id name args (p.signature.bind Text.Base64.decode?)) =
      p.readSignature?.bind Text.Base64.decode? :=
  (signatureIn?_withSignature Dict.empty p).trans (Option.or_none ..)

theorem Part.toolCall?_of_isCall {p : Part} (h : p.isCall = true) : ∃ id name args,
    p.data = .functionCall id name args ∧
    p.toolCall? = some (functionCall id name args (p.signature.bind Text.Base64.decode?)) := by
  unfold isCall at h
  unfold toolCall?
  cases hdata : p.data with
  | functionCall id name args => exact ⟨id, name, args, rfl, rfl⟩
  | _ =>
    rw [hdata] at h
    cases h

theorem Part.toolCall?_of_not_isCall {p : Part} (h : ¬p.isCall = true) : p.toolCall? = none := by
  unfold isCall at h
  unfold toolCall?
  cases hdata : p.data with
  | functionCall id name args =>
    rw [hdata] at h
    exact absurd rfl h
  | _ => rfl

theorem map_callSignature?_filterMap (parts : List Part) :
    (parts.filterMap (·.toolCall?)).map Extra.callSignature? =
      (parts.filter (·.isCall)).map fun p => p.readSignature?.bind Text.Base64.decode? := by
  induction parts with
  | nil => rfl
  | cons p rest ih =>
    by_cases hcall : p.isCall = true
    · obtain ⟨id, name, args, -, hsome⟩ := Part.toolCall?_of_isCall hcall
      rw [List.filterMap_cons_some hsome, List.filter_cons_of_pos hcall, List.map_cons,
        List.map_cons, ih, callSignature?_functionCall]
    · rw [List.filterMap_cons_none (Part.toolCall?_of_not_isCall hcall),
        List.filter_cons_of_neg hcall, ih]

def modelTurn (parts : List Part) : List Content := if parts = [] then [] else [⟨some .model, parts⟩]

theorem contents_eq_modelTurn {m : Message} (hrole : m.role = .assistant) :
    contents [m] = (modelParts m).map modelTurn := by
  cases hparts : modelParts m with
  | error e =>
    have hsaid : said .empty [m] = .error e := by
      simp only [said, hrole, hparts]
      rfl
    rw [contents, hsaid]
    rfl
  | ok parts =>
    by_cases hempty : parts = []
    · subst hempty
      have hsaid : said .empty [m] = .ok [(.model, [])] := by
        simp only [said, hrole, hparts]
        rfl
      rw [contents, hsaid]
      rfl
    · rw [contents_assistant hrole hparts hempty]
      exact congrArg Except.ok (if_neg hempty).symm

theorem signature_contentPart {m : Message} {c : ContentPart} {p : Part}
    (h : contentPart m c = .ok p) : p.signature = none := by
  cases c with
  | text t =>
    cases h
    rfl
  | _ =>
    obtain ⟨d, -, rfl⟩ := Result.map_eq_ok h
    rfl

theorem forall_mem_contentParts {m : Message} {parts : List ContentPart} {sent : List Part} {P : Part → Prop}
    (h : contentParts m parts = .ok sent) (text : ∀ t, P (PartData.text t).part)
    (part : ∀ c p, contentPart m c = .ok p → P p) : ∀ p ∈ sent, P p := by
  unfold contentParts at h
  split at h
  · cases h
    unfold textParts
    split
    · exact List.forall_mem_nil _
    · exact List.forall_mem_singleton.2 (text _)
  · intro p hp
    obtain ⟨c, -, hc⟩ := Result.exists_of_mem_mapM h hp
    exact part c p hc

theorem signature_contentParts {m : Message} {parts : List ContentPart} {sent : List Part}
    (h : contentParts m parts = .ok sent) : ∀ p ∈ sent, p.signature = none :=
  forall_mem_contentParts h (fun _ => rfl) fun _ _ => signature_contentPart

theorem forall₂_returnsAs {parts called : List Part}
    (h : (parts.filterMap (·.toolCall?)).mapM callPart = .ok called) :
    List.Forall₂ Part.ReturnsAs (parts.filter (·.isCall)) called := by
  induction parts generalizing called with
  | nil =>
    cases h
    exact .nil
  | cons p rest ih =>
    by_cases hcall : p.isCall = true
    · obtain ⟨id, name, args, hdata, hsome⟩ := Part.toolCall?_of_isCall hcall
      rw [List.filterMap_cons_some hsome, List.mapM_cons] at h
      obtain ⟨sent, hsent, h⟩ := Result.bind_eq_ok h
      obtain ⟨more, hmore, h⟩ := Result.bind_eq_ok h
      cases h
      obtain ⟨value, hvalue, rfl⟩ := Result.map_eq_ok hsent
      rw [List.filter_cons_of_pos hcall, callSignature?_functionCall,
        map_encode_bind_decode? fun s => Part.exists_bytes_of_readSignature?]
      exact .cons (.call hdata hvalue) (ih hmore)
    · rw [List.filterMap_cons_none (Part.toolCall?_of_not_isCall hcall)] at h
      rw [List.filter_cons_of_neg hcall]
      exact ih h

theorem ne_nil_iff_isShown {parts content : List Part} {m : Message}
    (hcontent : m.content = answerOf parts)
    (hmedia : m.assistantParts = parts.filterMap (·.data.contentPart?))
    (h : contentParts m m.assistantParts = .ok content) :
    content ≠ [] ↔ ∃ p ∈ parts, p.IsShown := by
  have hmedium (p : Part) : p.IsShown ↔ p.data.contentPart? ≠ none ∨ p.answer ≠ "" := by
    rw [Part.IsShown, ne_eq, ne_eq, ne_eq, contentPart?_eq_none_iff]
  rw [← not_iff_not, not_not]
  simp only [hmedium, not_exists, not_and, not_or, not_not]
  unfold contentParts at h
  rw [hmedia] at h
  split at h
  · rename_i hnone
    have hnone := List.filterMap_eq_nil_iff.1 (List.isEmpty_iff.1 hnone)
    cases h
    have hanswer : textParts m.content = [] ↔ ∀ p ∈ parts, p.answer = "" := by
      rw [textParts, hcontent, answerOf]
      simp [join_eq_empty_iff]
    rw [hanswer]
    exact ⟨fun h p hp => ⟨hnone p hp, h p hp⟩, fun h p hp => (h p hp).2⟩
  · rename_i hsome
    refine iff_of_false (fun hnil => hsome ?_) (fun hall => hsome ?_)
    · rw [hnil, Result.mapM_eq_ok_iff, List.forall₂_nil_right_iff] at h
      rw [h]
      rfl
    · rw [List.isEmpty_iff, List.filterMap_eq_nil_iff]
      exact fun p hp => (hall p hp).1

theorem isOk_contentPart_mediumPart (m : Message) (mimeType data : String) :
    (contentPart m (mediumPart mimeType data)).isOk =
      (Text.Inline.ofUrl (Text.Inline.mk mimeType data).url).isOk := by
  unfold mediumPart
  split
  · simp only [contentPart, mediaData, Result.isOk_map]
  · split <;> simp only [contentPart, mediaData, Result.isOk_map]

theorem PartData.IsRepeatable.isSendable {d : PartData} (h : d.IsRepeatable)
    (hargs : d.HasReadableArgs) : d.IsSendable := by
  cases h with
  | text t => trivial
  | inlineData data hcomma => exact congrArg Except.isOk (Text.Inline.ofUrl_url hcomma)
  | fileData mimeType huri => exact congrArg Except.isOk (Text.Inline.ofUrl_of_not_startsWith huri)
  | functionCall id name hrereads =>
    have hvalue := argumentValue_functionCall (hargs id name _ rfl) hrereads id name none
    exact congrArg Except.isOk hvalue

theorem isSendable_iff (m : Message) (p : Part) :
    p.data.IsSendable ↔ (∀ c ∈ p.data.contentPart?, (contentPart m c).isOk = true) ∧
      ∀ c ∈ p.toolCall?, (callPart c).isOk = true := by
  unfold Part.toolCall?
  cases p.data with
  | inlineData mimeType data =>
    simp [PartData.IsSendable, PartData.contentPart?, isOk_contentPart_mediumPart]
  | fileData mimeType uri =>
    simp [PartData.IsSendable, PartData.contentPart?, contentPart, mediaData, Result.isOk_map]
  | functionCall id name args =>
    -- The signature of a call has no part in reading its arguments.
    have hsigned : (callPart (functionCall id name args
        (p.signature.bind Text.Base64.decode?))).isOk =
      (functionCall id name args none).argumentValue.isOk := Result.isOk_map ..
    simp [PartData.IsSendable, PartData.contentPart?, hsigned]
  | _ => simp [PartData.IsSendable, PartData.contentPart?]

theorem isOk_modelParts {parts : List Part} {m : Message}
    (hmedia : m.assistantParts = parts.filterMap (·.data.contentPart?))
    (hcalls : m.toolCalls = parts.filterMap (·.toolCall?)) :
    (modelParts m).isOk = true ↔ ∀ p ∈ parts, p.data.IsSendable := by
  have hcontent : (contentParts m m.assistantParts).isOk = true ↔
      ∀ p ∈ parts, ∀ c ∈ p.data.contentPart?, (contentPart m c).isOk = true := by
    have hmapM : (contentParts m m.assistantParts).isOk =
        (m.assistantParts.mapM (contentPart m)).isOk := by
      unfold contentParts
      split
      · rename_i hempty
        rw [List.isEmpty_iff.1 hempty]
        rfl
      · rfl
    rw [hmapM, Result.isOk_mapM_iff, hmedia]
    exact List.forall_mem_filterMap
  have hcalled : (m.toolCalls.mapM callPart).isOk = true ↔
      ∀ p ∈ parts, ∀ c ∈ p.toolCall?, (callPart c).isOk = true := by
    rw [Result.isOk_mapM_iff, hcalls]
    exact List.forall_mem_filterMap
  have hboth : (modelParts m).isOk = true ↔
      (contentParts m m.assistantParts).isOk = true ∧ (m.toolCalls.mapM callPart).isOk = true := by
    unfold modelParts
    cases contentParts m m.assistantParts with
    | error e => exact iff_of_false nofun fun h => nomatch h.1
    | ok content => cases m.toolCalls.mapM callPart <;> exact ⟨fun h => ⟨rfl, h⟩, And.right⟩
  rw [hboth, hcontent, hcalled, ← forall₂_and]
  exact forall₂_congr fun p _ => (isSendable_iff m p).symm

/-- How the signatures of a reply with these parts come back with its message. -/
structure SendsSignatures (parts : List Part) (m : Message) : Prop where
  /-- The message keeps the last signature that is not one of a call. -/
  kept : Extra.signature? m = (lastSignature? parts).bind Text.Base64.decode?
  /-- Each call keeps its own. -/
  keptByCalls : m.toolCalls.map Extra.callSignature? =
    (parts.filter (·.isCall)).map fun p => p.readSignature?.bind Text.Base64.decode?
  isOk_iff : (contents [m]).isOk = true ↔ ∀ p ∈ parts, p.data.IsSendable
  /-- The signature of the message needs something that is shown, those of calls need nothing. -/
  sent : ∀ turns, contents [m] = .ok turns → ∃ shown called, turns = modelTurn (shown ++ called) ∧
    (shown ≠ [] ↔ ∃ p ∈ parts, p.IsShown) ∧
    (∀ first ∈ shown.head?, first.signature = lastSignature? parts) ∧
    List.Forall₂ Part.ReturnsAs (parts.filter (·.isCall)) called

theorem signature_of_signFirst {parts : List Part} {content : List Part} {m : Message}
    (hsignature : Extra.signature? m = (lastSignature? parts).bind Text.Base64.decode?)
    (hcontent : ∀ p ∈ content, p.signature = none) :
    ∀ first ∈ (signFirst (Extra.signature? m) content).head?,
      first.signature = lastSignature? parts := by
  have hlast := map_encode_lastSignature? parts
  rw [← hsignature] at hlast
  rw [← hlast]
  intro first hfirst
  cases content with
  | nil => cases hfirst
  | cons p rest =>
    cases hbytes : Extra.signature? m with
    | none =>
      rw [hbytes] at hfirst
      cases hfirst
      exact hcontent _ (List.mem_cons_self ..)
    | some bytes =>
      rw [hbytes] at hfirst
      cases hfirst
      rfl

theorem sendsSignatures_assembled (parts : List Part) (grounding : Option Json)
    (report : ResponseMeta) : SendsSignatures parts (assembled parts grounding report) := by
  have hrole := role_assembled parts grounding report
  have hsignature := signature?_assembled parts grounding report
  obtain ⟨hcontent, hmedia, hcalls⟩ := assembled_eq parts grounding report
  generalize assembled parts grounding report = m at *
  have hcontents := contents_eq_modelTurn hrole
  refine ⟨hsignature, ?_, ?_, fun turns hturns => ?_⟩
  · rw [hcalls, map_callSignature?_filterMap]
  · rw [hcontents, Result.isOk_map, isOk_modelParts hmedia hcalls]
  · rw [hcontents] at hturns
    obtain ⟨sent, hsent, rfl⟩ := Result.map_eq_ok hturns
    obtain ⟨content, hcontentParts, hsent⟩ := Result.bind_eq_ok hsent
    obtain ⟨called, hcalled, hsent⟩ := Result.bind_eq_ok hsent
    cases hsent
    have hshown := ne_nil_iff_isShown hcontent hmedia hcontentParts
    rw [hcalls] at hcalled
    refine ⟨signFirst (Extra.signature? m) content, called, rfl, ?_,
      signature_of_signFirst hsignature (signature_contentParts hcontentParts),
      forall₂_returnsAs hcalled⟩
    have hlength := congrArg List.length (map_data_signFirst (Extra.signature? m) content)
    rw [List.length_map, List.length_map] at hlength
    rw [← hshown, ← List.length_pos_iff, ← List.length_pos_iff, hlength]

/-- A signature on some part of the model's side. -/
def Carries (turns : List Content) (signature : String) : Prop :=
  ∃ t ∈ turns, t.side = some .model ∧ ∃ p ∈ t.parts, p.signature = some signature

theorem carries_modelTurn {parts : List Part} {signature : String} :
    Carries (modelTurn parts) signature ↔ ∃ p ∈ parts, p.signature = some signature := by
  unfold modelTurn
  split
  · rename_i hempty
    subst hempty
    simp [Carries]
  · simp [Carries]

theorem map_signature_of_returnsAs {parts called : List Part}
    (h : List.Forall₂ Part.ReturnsAs parts called) :
    called.map (·.signature) = parts.map (·.readSignature?) := by
  induction h with
  | nil => rfl
  | cons hcall _ ih =>
    cases hcall
    rw [List.map_cons, List.map_cons, ih]

theorem Part.readSignature?_eq_some_iff {p : Part} {s : String} {bytes : List Nat}
    (h : Text.Base64.decode? s = some bytes) :
    p.readSignature? = some s ↔ p.readSignature?.bind Text.Base64.decode? = some bytes := by
  refine ⟨fun hs => by rw [hs, Option.bind_some, h], fun hbytes => ?_⟩
  obtain ⟨t, ht, hdecode⟩ := Option.bind_eq_some_iff.1 hbytes
  rw [ht, ← Text.Base64.encode_of_decode? hdecode, Text.Base64.encode_of_decode? h]

theorem decode?_encode_of_signatureIn? {extra : Dict String Json} {bytes : List Nat}
    (h : Extra.signatureIn? extra = some bytes) :
    Text.Base64.decode? (Text.Base64.encode bytes) = some bytes := by
  obtain ⟨s, -, h⟩ := Option.bind_eq_some_iff.1 h
  obtain ⟨read, hread, h⟩ := Option.bind_eq_some_iff.1 h
  split at h
  · cases h
  · cases h
    rw [Text.Base64.encode_of_decode? hread, hread]

theorem SendsSignatures.exists_called {parts called : List Part} {m : Message}
    (h : SendsSignatures parts m)
    (hcalled : List.Forall₂ Part.ReturnsAs (parts.filter (·.isCall)) called) {s : String}
    {bytes : List Nat} (hs : Text.Base64.decode? s = some bytes) :
    (∃ q ∈ called, q.signature = some s) ↔
      ∃ c ∈ m.toolCalls, Extra.callSignature? c = some bytes := by
  rw [← List.mem_map, ← List.mem_map, map_signature_of_returnsAs hcalled, h.keptByCalls, List.mem_map,
    List.mem_map]
  simp only [Part.readSignature?_eq_some_iff hs]

/-- The signature of every call of a reply comes back as it came, and so does the signature kept by
the message, unless the reply has neither a medium nor text apart from its thoughts. -/
theorem contents_carries {reply : Reply} {m : Message} (h : candidateMessage reply = some m) :
    SendsSignatures reply.parts m ∧ ∀ turns, contents [m] = .ok turns →
      (∀ c ∈ m.toolCalls, ∀ bytes, Extra.callSignature? c = some bytes →
        Carries turns (Text.Base64.encode bytes)) ∧
      ∀ bytes, Extra.signature? m = some bytes →
        (Carries turns (Text.Base64.encode bytes) ↔
          (∃ p ∈ reply.parts, p.IsShown) ∨
            ∃ c ∈ m.toolCalls, Extra.callSignature? c = some bytes) := by
  have hassembled := candidateMessage_getD reply
  rw [h, Option.getD_some] at hassembled
  have hsends : SendsSignatures reply.parts m := hassembled ▸ sendsSignatures_assembled ..
  refine ⟨hsends, fun turns hturns => ?_⟩
  obtain ⟨shown, called, rfl, hshown, hfirst, hcalled⟩ := hsends.sent turns hturns
  have hcarries (s : String) : Carries (modelTurn (shown ++ called)) s ↔
      (∃ p ∈ shown, p.signature = some s) ∨ ∃ p ∈ called, p.signature = some s := by
    simp only [carries_modelTurn, List.mem_append, or_and_right, exists_or]
  refine ⟨fun c hc bytes hbytes => ?_, fun bytes hbytes => ?_⟩
  · have hread := decode?_encode_of_signatureIn? hbytes
    exact (hcarries _).2 (.inr ((hsends.exists_called hcalled hread).2 ⟨c, hc, hbytes⟩))
  · have hread := decode?_encode_of_signatureIn? hbytes
    rw [hcarries, hsends.exists_called hcalled hread, ← hshown]
    refine or_congr_left ⟨fun ⟨p, hp, _⟩ => List.ne_nil_of_mem hp, fun hne => ?_⟩
    have hlast := map_encode_lastSignature? reply.parts
    rw [← hsends.kept, hbytes, Option.map_some] at hlast
    obtain ⟨first, rest, rfl⟩ := List.exists_cons_of_ne_nil hne
    exact ⟨first, List.mem_cons_self .., (hfirst first rfl).trans hlast.symm⟩

theorem contents_carries_thoughtAndCall :
    let parts : List Part := [⟨.text "Plan", some true, some "c2ln", none⟩, (PartData.text "Hi").part,
      ⟨.functionCall none "f" .null, none, some "Y2FsbA==", none⟩]
    let reply : Reply := ⟨[⟨some ⟨some .model, parts⟩, none, none⟩], none, none⟩
    ∃ m turns, candidateMessage reply = some m ∧ contents [m] = .ok turns ∧
      Carries turns "c2ln" ∧ Carries turns "Y2FsbA==" := by
  intro parts reply
  let m := assembled parts none ⟨none, none, none⟩
  have hm : candidateMessage reply = some m := rfl
  obtain ⟨hsends, hcarries⟩ := contents_carries hm
  have hsendable : ∀ p ∈ parts, p.data.IsSendable := by
    have hcall : (PartData.functionCall none "f" .null).IsRepeatable := .functionCall _ _ .null
    have hargs : (PartData.functionCall none "f" .null).HasReadableArgs := by
      rintro _ _ _ ⟨⟩
      exact ⟨.null, rfl⟩
    rw [List.forall_mem_cons, List.forall_mem_cons, List.forall_mem_singleton]
    exact ⟨trivial, trivial, hcall.isSendable hargs⟩
  obtain ⟨turns, hturns⟩ := Result.exists_ok_of_isOk (hsends.isOk_iff.2 hsendable)
  obtain ⟨hcalls, hmessage⟩ := hcarries turns hturns
  have hsignature : Extra.signature? m = some [115, 105, 103] := rfl
  have hshown : ∃ p ∈ parts, p.IsShown :=
    ⟨(PartData.text "Hi").part, by simp [parts], .inr (by decide)⟩
  obtain ⟨c, hc, hbytes⟩ : ∃ c ∈ m.toolCalls, Extra.callSignature? c = some [99, 97, 108, 108] :=
    ⟨_, List.mem_singleton_self _, rfl⟩
  have hthought : Text.Base64.encode [115, 105, 103] = "c2ln" := by decide
  have hcalled : Text.Base64.encode [99, 97, 108, 108] = "Y2FsbA==" := by decide
  rw [← hthought, ← hcalled]
  exact ⟨m, turns, hm, hturns, (hmessage _ hsignature).2 (.inl hshown), hcalls c hc _ hbytes⟩

/-- The signature of a thought in front of a call is kept and not sent. -/
theorem contents_drops_signature :
    let parts : List Part := [⟨.text "Plan", some true, some "c2ln", none⟩,
      (PartData.functionCall none "f" (.obj [])).part]
    let reply : Reply := ⟨[⟨some ⟨some .model, parts⟩, none, none⟩], none, none⟩
    ∃ m, candidateMessage reply = some m ∧ Extra.signature? m = some [115, 105, 103] ∧
      contents [m] = .ok [⟨some .model,
        [(PartData.functionCall (some "f") "f" (.obj [])).part]⟩] := by
  refine ⟨_, rfl, by decide, ?_⟩
  rfl

end ChatRetrieval.Gemini
