import ChatRetrieval.Gemini.Input
import ChatRetrieval.Proofs.Gemini.Streaming
import ChatRetrieval.Proofs.Json.Readable
import ChatRetrieval.Proofs.Message.Turns
import ChatRetrieval.Proofs.Result
import ChatRetrieval.Proofs.Text.Cuts
import ChatRetrieval.Proofs.ToolCall.Arguments

/-!
Gemini replies sent back. The message of a reply keeps text, media and calls apart. Its media and
calls come back as they were; its text comes back only when it has no media.
-/

namespace ChatRetrieval.Gemini

def givenArgs : Json → Json
  | .null => .obj []
  | args => args

namespace PartData

/-- Data that can be written into a message and read from it again. -/
inductive IsRepeatable : PartData → Prop
  | text (t : String) : IsRepeatable (text t)
  | inlineData {mimeType : String} (data : String) (h : ',' ∉ mimeType.toList) :
      IsRepeatable (inlineData mimeType data)
  | fileData {uri : String} (mimeType : Option String) (h : Text.startsWith "data:" uri = false) :
      IsRepeatable (fileData mimeType uri)
  | functionCall (id : Option String) (name : String) {args : Json} (h : args.Rereads) :
      IsRepeatable (functionCall id name args)

def said : PartData → String
  | text t => t
  | _ => ""

def contentPart? : PartData → Option ContentPart
  | inlineData mimeType data => some (mediumPart mimeType data)
  | fileData mimeType uri => some (.file uri mimeType)
  | _ => none

def medium? : PartData → Option PartData
  | inlineData mimeType data => some (inlineData mimeType data)
  | fileData mimeType uri => some (fileData mimeType uri)
  | _ => none

def call? : PartData → Option PartData
  | functionCall id name args => some (functionCall (givenId (id.getD name)) name (givenArgs args))
  | _ => none

end PartData

namespace Part

/-- A part that can be written into a message and read from it again; its text is no thought. -/
structure IsRepeatable (p : Part) : Prop where
  data : p.data.IsRepeatable
  answer : ∀ t, p.data = .text t → p.thought ≠ some true

def answer (p : Part) : String := if p.thought = some true then "" else p.data.said

def toolCall? (p : Part) : Option ToolCall :=
  match p.data with
  | .functionCall id name args =>
    some (Gemini.functionCall id name args (p.signature.bind Text.Base64.decode?))
  | _ => none

end Part

def PartData.HasReadableArgs (d : PartData) : Prop :=
  ∀ id name args, d = .functionCall id name args → args.Readable

def textOf (parts : List Part) : String := String.join (parts.map (·.data.said))

def answerOf (parts : List Part) : String := String.join (parts.map (·.answer))

/-- The media of these parts or else their text. -/
def shownOf (parts : List Part) : List PartData :=
  let media := parts.filterMap (·.data.medium?)
  if media.isEmpty then (textParts (textOf parts)).map (·.data) else media

def callsOf (parts : List Part) : List PartData := parts.filterMap (·.data.call?)

section

open Decode (Yields)

theorem yields_functionCall : Yields PartData.decodeFunctionCall PartData.HasReadableArgs := by
  intro j d hj hd
  obtain ⟨r, hr, hd⟩ := Option.bind_eq_some_iff.1 hd
  obtain ⟨id, -, hd⟩ := Option.bind_eq_some_iff.1 hd
  obtain ⟨name, -, hd⟩ := Option.bind_eq_some_iff.1 hd
  obtain ⟨args, hargs, hd⟩ := Option.bind_eq_some_iff.1 hd
  cases hd
  have hnull : Json.Readable .null := ⟨.null, rfl⟩
  have hreadable := Decode.Record.withDefault_of_yields (Decode.Record.fits_of_record hj hr)
    Decode.yields_any hnull hargs
  rintro _ _ _ ⟨⟩
  exact hreadable

theorem yields_data {key : String} {d : Decoder PartData} (h : PartData.decoder? key = some d) :
    Yields d PartData.HasReadableArgs := by
  have hmem := mem_of_lookup_eq_some h
  simp only [List.mem_cons, List.not_mem_nil, or_false, Prod.mk.injEq] at hmem
  intro j data hj hdata
  obtain ⟨-, rfl⟩ | ⟨-, rfl⟩ | ⟨-, rfl⟩ | ⟨-, rfl⟩ | ⟨-, rfl⟩ | ⟨-, rfl⟩ | ⟨-, rfl⟩ := hmem
  case inr.inr.inr.inl => exact yields_functionCall hj hdata
  -- Every other member holds data of its own kind.
  case inr.inl | inr.inr.inl =>
    obtain ⟨r, -, hdata⟩ := Option.bind_eq_some_iff.1 hdata
    obtain ⟨mimeType, -, hdata⟩ := Option.bind_eq_some_iff.1 hdata
    obtain ⟨place, -, hdata⟩ := Option.bind_eq_some_iff.1 hdata
    cases hdata
    rintro _ _ _ ⟨⟩
  case inr.inr.inr.inr.inl =>
    obtain ⟨r, -, hdata⟩ := Option.bind_eq_some_iff.1 hdata
    obtain ⟨id, -, hdata⟩ := Option.bind_eq_some_iff.1 hdata
    obtain ⟨name, -, hdata⟩ := Option.bind_eq_some_iff.1 hdata
    obtain ⟨response, -, hdata⟩ := Option.bind_eq_some_iff.1 hdata
    cases hdata
    rintro _ _ _ ⟨⟩
  all_goals
    obtain ⟨a, -, rfl⟩ := Option.map_eq_some_iff.1 hdata
    rintro _ _ _ ⟨⟩

theorem yields_ofMembers? {ms : List (String × Json)} {d : PartData}
    (hms : ∀ m ∈ ms, Json.Fits Json.Reader.maxDepth m.2) (h : PartData.ofMembers? ms = some d) :
    d.HasReadableArgs := by
  induction ms with
  | nil => cases h
  | cons m ms ih =>
    obtain ⟨key, j⟩ := m
    rw [PartData.ofMembers?] at h
    split at h
    · rename_i decoder hdecoder
      exact yields_data hdecoder (hms _ (List.mem_cons_self ..)) h
    · exact ih (fun m hm => hms m (List.mem_cons_of_mem _ hm)) h

theorem yields_part : Yields Part.decode fun p => p.data.HasReadableArgs := by
  intro j p hj hp
  unfold Part.decode at hp
  split at hp
  · obtain ⟨r, hr, hp⟩ := Option.bind_eq_some_iff.1 hp
    obtain ⟨thought, -, hp⟩ := Option.bind_eq_some_iff.1 hp
    obtain ⟨signature, -, hp⟩ := Option.bind_eq_some_iff.1 hp
    obtain ⟨video, -, hp⟩ := Option.bind_eq_some_iff.1 hp
    obtain ⟨data, hdata, hp⟩ := Option.bind_eq_some_iff.1 hp
    cases hp
    exact yields_ofMembers? (fun m hm => hj.of_mem_obj hm) hdata
  · cases hp

theorem yields_content : Yields Content.decode fun c => ∀ p ∈ c.parts, p.data.HasReadableArgs := by
  intro j c hj hc
  obtain ⟨r, hr, hc⟩ := Option.bind_eq_some_iff.1 hc
  obtain ⟨side, -, hc⟩ := Option.bind_eq_some_iff.1 hc
  obtain ⟨parts, hparts, hc⟩ := Option.bind_eq_some_iff.1 hc
  cases hc
  exact Decode.Record.listOf_of_yields (Decode.Record.fits_of_record hj hr) yields_part hparts

theorem yields_candidate :
    Yields Candidate.decode fun c => ∀ p ∈ (c.content.map (·.parts)).getD [], p.data.HasReadableArgs := by
  intro j c hj hc
  obtain ⟨r, hr, hc⟩ := Option.bind_eq_some_iff.1 hc
  obtain ⟨content, hcontent, hc⟩ := Option.bind_eq_some_iff.1 hc
  obtain ⟨reason, -, hc⟩ := Option.bind_eq_some_iff.1 hc
  obtain ⟨grounding, -, hc⟩ := Option.bind_eq_some_iff.1 hc
  cases hc
  have hparts := Decode.Record.maybe_of_yields (Decode.Record.fits_of_record hj hr) yields_content
    hcontent
  cases content with
  | none => exact fun p hp => absurd hp List.not_mem_nil
  | some content => exact hparts content rfl

theorem yields_reply : Yields Reply.decode fun reply => ∀ p ∈ reply.parts, p.data.HasReadableArgs := by
  intro j reply hj hreply
  obtain ⟨r, hr, hreply⟩ := Option.bind_eq_some_iff.1 hreply
  obtain ⟨version, -, hreply⟩ := Option.bind_eq_some_iff.1 hreply
  obtain ⟨candidates, hcandidates, hreply⟩ := Option.bind_eq_some_iff.1 hreply
  obtain ⟨usage, -, hreply⟩ := Option.bind_eq_some_iff.1 hreply
  obtain ⟨feedback, -, hreply⟩ := Option.bind_eq_some_iff.1 hreply
  cases hreply
  have hall := Decode.Record.listOf_of_yields (Decode.Record.fits_of_record hj hr) yields_candidate
    hcandidates
  unfold Reply.parts Reply.candidate?
  cases candidates with
  | nil => exact fun p hp => absurd hp List.not_mem_nil
  | cons c rest => exact hall c (List.mem_cons_self ..)

end

theorem addPart_eq (p : Part) (m : Message) :
    (addPart m p).content = m.content ++ p.answer ∧
    (addPart m p).assistantParts = m.assistantParts ++ p.data.contentPart?.toList ∧
    (addPart m p).toolCalls = m.toolCalls ++ p.toolCall?.toList := by
  obtain ⟨data, thought, signature, video⟩ := p
  cases data with
  | text t =>
    by_cases hthought : thought = some true <;>
      simp [addPart, addData, Extra.setSignature, Part.answer, PartData.said,
        PartData.contentPart?, Part.toolCall?, hthought]
  | _ =>
    simp [addPart, addData, Extra.setSignature, Message.setExtra, Part.answer, PartData.said,
      PartData.contentPart?, Part.toolCall?]

theorem foldl_addPart_eq (parts : List Part) (m : Message) :
    (parts.foldl addPart m).content = m.content ++ answerOf parts ∧
    (parts.foldl addPart m).assistantParts =
      m.assistantParts ++ parts.filterMap (·.data.contentPart?) ∧
    (parts.foldl addPart m).toolCalls = m.toolCalls ++ parts.filterMap (·.toolCall?) := by
  induction parts generalizing m with
  | nil => simp [answerOf]
  | cons p ps ih =>
    obtain ⟨hcontent, hmedia, hcalls⟩ := addPart_eq p m
    obtain ⟨ihcontent, ihmedia, ihcalls⟩ := ih (addPart m p)
    refine ⟨?_, ?_, ?_⟩
    · rw [List.foldl_cons, ihcontent, hcontent, String.append_assoc]
      simp only [answerOf, List.map_cons, String.join_cons]
    · rw [List.foldl_cons, ihmedia, hmedia, List.append_assoc]
      cases hp : p.data.contentPart? <;> simp [hp]
    · rw [List.foldl_cons, ihcalls, hcalls, List.append_assoc]
      cases hp : p.toolCall? <;> simp [hp]

theorem assembled_eq (parts : List Part) (grounding : Option Json) (report : ResponseMeta) :
    (assembled parts grounding report).content = answerOf parts ∧
    (assembled parts grounding report).assistantParts = parts.filterMap (·.data.contentPart?) ∧
    (assembled parts grounding report).toolCalls = parts.filterMap (·.toolCall?) := by
  obtain ⟨hcontent, hmedia, hcalls⟩ := foldl_addPart_eq parts { Message.blank .assistant with
    responseMeta := report.nonEmpty?, extra := sources grounding }
  refine ⟨hcontent.trans ?_, hmedia, hcalls⟩
  exact String.empty_append

theorem answerOf_eq_textOf {parts : List Part} (h : ∀ p ∈ parts, p.IsRepeatable) :
    answerOf parts = textOf parts := by
  refine congrArg String.join (List.map_congr_left fun p hp => ?_)
  unfold Part.answer
  split
  · rename_i hthought
    cases hdata : p.data with
    | text t => exact absurd hthought ((h p hp).answer t hdata)
    | _ => rfl
  · rfl

theorem contentPart_mediumPart {mimeType : String} (h : ',' ∉ mimeType.toList) (data : String)
    (m : Message) :
    contentPart m (mediumPart mimeType data) = .ok (PartData.inlineData mimeType data).part := by
  have hdata (known : Option String) :
      mediaData (Text.Inline.mk mimeType data).url known = .ok (.inlineData mimeType data) := by
    rw [mediaData, Text.Inline.ofUrl_url h]
    rfl
  unfold mediumPart
  split
  · rw [contentPart, hdata]
    rfl
  · split
    · rw [contentPart, hdata]
      rfl
    · rw [contentPart, hdata]
      rfl

theorem contentPart_file {uri : String} (h : Text.startsWith "data:" uri = false)
    (mimeType : Option String) (m : Message) :
    contentPart m (.file uri mimeType) = .ok (PartData.fileData mimeType uri).part := by
  rw [contentPart, mediaData, Text.Inline.ofUrl_of_not_startsWith h]
  rfl

theorem contentParts_media {parts : List Part} (h : ∀ p ∈ parts, p.IsRepeatable) (m : Message) :
    ∃ sent, (parts.filterMap (·.data.contentPart?)).mapM (contentPart m) = .ok sent ∧
      sent.map (·.data) = parts.filterMap (·.data.medium?) := by
  refine Result.mapM_filterMap fun p hp => ?_
  obtain ⟨data, thought, signature, video⟩ := p
  have hdata := (h _ hp).data
  cases hdata with
  | text t => exact .inl ⟨rfl, rfl⟩
  | functionCall => exact .inl ⟨rfl, rfl⟩
  | inlineData data hcomma => exact .inr ⟨_, _, rfl, contentPart_mediumPart hcomma data m, rfl⟩
  | fileData mimeType huri => exact .inr ⟨_, _, rfl, contentPart_file huri mimeType m, rfl⟩

theorem contentPart?_eq_none_iff (d : PartData) : d.contentPart? = none ↔ d.medium? = none := by
  cases d <;> simp [PartData.contentPart?, PartData.medium?]

theorem contentParts_shown {parts : List Part} (h : ∀ p ∈ parts, p.IsRepeatable) {m : Message}
    (hcontent : m.content = textOf parts)
    (hmedia : m.assistantParts = parts.filterMap (·.data.contentPart?)) :
    ∃ sent, contentParts m m.assistantParts = .ok sent ∧ sent.map (·.data) = shownOf parts := by
  obtain ⟨sent, hsent, hdata⟩ := contentParts_media h m
  have hempty : (parts.filterMap (·.data.contentPart?)).isEmpty =
      (parts.filterMap (·.data.medium?)).isEmpty := by
    rw [Bool.eq_iff_iff, List.isEmpty_iff, List.isEmpty_iff, List.filterMap_eq_nil_iff,
      List.filterMap_eq_nil_iff]
    simp only [contentPart?_eq_none_iff]
  unfold contentParts shownOf
  rw [hmedia, hempty, hcontent]
  dsimp only
  split
  · exact ⟨_, rfl, rfl⟩
  · exact ⟨sent, hsent, hdata⟩

theorem argumentValue_functionCall {args : Json} (h : args.Readable) (hargs : args.Rereads)
    (id : Option String) (name : String) (signature : Option (List Nat)) :
    (functionCall id name args signature).argumentValue = .ok (givenArgs args) := by
  by_cases hnull : args = .null
  · subst hnull
    have hempty : Json.parse "\x7b\x7d" = some (.obj []) := by decide +kernel
    exact ToolCall.argumentValue_of_parse hempty
  · have htext : argumentText args = args.render := by
      cases args <;> first | rfl | exact absurd rfl hnull
    have hgiven : givenArgs args = args := by
      cases args <;> first | rfl | exact absurd rfl hnull
    rw [hgiven]
    exact ToolCall.argumentValue_of_render htext h hargs

theorem callPart_functionCall {args : Json} (h : args.Readable) (hargs : args.Rereads)
    (id : Option String) (name : String) (signature : Option (List Nat)) :
    ∃ part, callPart (functionCall id name args signature) = .ok part ∧
      (PartData.functionCall id name args).call? = some part.data := by
  rw [callPart, argumentValue_functionCall h hargs]
  exact ⟨_, rfl, rfl⟩

theorem callParts {parts : List Part} (h : ∀ p ∈ parts, p.IsRepeatable)
    (hreadable : ∀ p ∈ parts, p.data.HasReadableArgs) :
    ∃ sent, (parts.filterMap (·.toolCall?)).mapM callPart = .ok sent ∧
      sent.map (·.data) = callsOf parts := by
  refine Result.mapM_filterMap fun p hp => ?_
  have hargs := hreadable p hp
  obtain ⟨data, thought, signature, video⟩ := p
  have hdata := (h _ hp).data
  cases hdata with
  | text t => exact .inl ⟨rfl, rfl⟩
  | inlineData => exact .inl ⟨rfl, rfl⟩
  | fileData => exact .inl ⟨rfl, rfl⟩
  | functionCall id name hrereads =>
    obtain ⟨part, hpart, hcall⟩ := callPart_functionCall (hargs id name _ rfl) hrereads id name
      (signature.bind Text.Base64.decode?)
    exact .inr ⟨_, part, rfl, hpart, hcall⟩

theorem map_data_signFirst (signature : Option (List Nat)) (parts : List Part) :
    (signFirst signature parts).map (·.data) = parts.map (·.data) := by
  unfold signFirst
  split
  · rfl
  · split <;> rfl

theorem modelParts_assembled {parts : List Part} (h : ∀ p ∈ parts, p.IsRepeatable)
    (hreadable : ∀ p ∈ parts, p.data.HasReadableArgs) (grounding : Option Json) (report : ResponseMeta) :
    ∃ sent, modelParts (assembled parts grounding report) = .ok sent ∧
      sent.map (·.data) = shownOf parts ++ callsOf parts := by
  obtain ⟨hcontent, hmedia, hcalls⟩ := assembled_eq parts grounding report
  rw [answerOf_eq_textOf h] at hcontent
  obtain ⟨shown, hshown, hshownData⟩ := contentParts_shown h hcontent hmedia
  obtain ⟨called, hcalled, hcalledData⟩ := callParts h hreadable
  refine ⟨signFirst (Extra.signature? (assembled parts grounding report)) shown ++ called, ?_, ?_⟩
  · unfold modelParts
    rw [hshown, hcalls, hcalled]
    rfl
  · rw [List.map_append, map_data_signFirst, hshownData, hcalledData]

theorem join_eq_empty_iff {texts : List String} : String.join texts = "" ↔ ∀ t ∈ texts, t = "" := by
  induction texts with
  | nil => exact iff_of_true rfl (List.forall_mem_nil _)
  | cons t rest ih => rw [String.join_cons, String.append_eq_empty_iff, ih, List.forall_mem_cons]

theorem shownOf_append_callsOf_ne_nil {parts : List Part} (h : ∀ p ∈ parts, p.IsRepeatable)
    (hsome : ∃ p ∈ parts, p.data ≠ .text "") : shownOf parts ++ callsOf parts ≠ [] := by
  intro hnil
  obtain ⟨hshown, hcalls⟩ := List.append_eq_nil_iff.1 hnil
  have hmedia : parts.filterMap (·.data.medium?) = [] := by
    unfold shownOf at hshown
    dsimp only at hshown
    split at hshown
    · exact List.isEmpty_iff.1 ‹_›
    · exact hshown
  have htext : textOf parts = "" := by
    by_contra hne
    have hparts : textParts (textOf parts) = [(PartData.text (textOf parts)).part] := by
      rw [textParts, if_neg (mt String.isEmpty_iff.1 hne)]
    simp [shownOf, hmedia, hparts] at hshown
  rw [List.filterMap_eq_nil_iff] at hmedia
  rw [callsOf, List.filterMap_eq_nil_iff] at hcalls
  obtain ⟨p, hp, hdata⟩ := hsome
  have hsaid := join_eq_empty_iff.1 htext p.data.said (List.mem_map_of_mem hp)
  have hmedium := hmedia p hp
  have hcall := hcalls p hp
  cases hp' : p.data with
  | text t =>
    rw [hp'] at hsaid hdata
    exact hdata (congrArg PartData.text hsaid)
  | inlineData => simp [hp', PartData.medium?] at hmedium
  | fileData => simp [hp', PartData.medium?] at hmedium
  | functionCall => simp [hp', PartData.call?] at hcall
  | _ =>
    have hrepeatable := (h p hp).data
    rw [hp'] at hrepeatable
    cases hrepeatable

theorem contents_assistant {m : Message} (hrole : m.role = .assistant) {parts : List Part}
    (hparts : modelParts m = .ok parts) (hne : parts ≠ []) :
    contents [m] = .ok [⟨some .model, parts⟩] := by
  have hsaid : said .empty [m] = .ok [(.model, parts)] := by
    simp only [said, hrole, hparts]
    rfl
  rw [contents, hsaid]
  exact congrArg Except.ok (congrArg (List.map _) (Turn.ofMessages_singleton Side.model hne))

/-- What a reply brings comes back as one turn: all its calls with their arguments and, in front of
them, all its media in their order or, if it has none, all its text. -/
theorem contents_candidateMessage {text : String} {reply : Reply}
    (hreply : Decode.fromText Reply.decode text = some reply)
    (hparts : ∀ p ∈ reply.parts, p.IsRepeatable) (hsome : ∃ p ∈ reply.parts, p.data ≠ .text "") :
    ∃ m sent, candidateMessage reply = some m ∧ contents [m] = .ok [⟨some .model, sent⟩] ∧
      sent.map (·.data) = shownOf reply.parts ++ callsOf reply.parts := by
  have hreadable := yields_reply.of_fromText hreply
  obtain ⟨sent, hsent, hdata⟩ :=
    modelParts_assembled hparts hreadable reply.grounding? reply.report
  have hmessage : candidateMessage reply =
      some (assembled reply.parts reply.grounding? reply.report) := by
    have hgetD := candidateMessage_getD reply
    obtain ⟨p, hp, -⟩ := hsome
    unfold Reply.parts Reply.candidate? at hp
    cases hcandidates : reply.candidates with
    | nil =>
      rw [hcandidates] at hp
      cases hp
    | cons c rest =>
      rw [← hgetD, candidateMessage, hcandidates]
      rfl
  have hne : sent ≠ [] := by
    rintro rfl
    exact shownOf_append_callsOf_ne_nil hparts hsome hdata.symm
  exact ⟨_, sent, hmessage, contents_assistant (role_assembled _ _ _) hsent hne, hdata⟩

theorem contents_candidateMessage_textAndCall :
    let text := "\x7b\"candidates\":[\x7b\"content\":\x7b\"parts\":[\x7b\"text\":\"Hi\"\x7d," ++
      "\x7b\"functionCall\":\x7b\"name\":\"f\",\"args\":\x7b\"x\":1\x7d\x7d\x7d," ++
      "\x7b\"text\":\"!\"\x7d]\x7d\x7d]\x7d"
    let call := PartData.functionCall none "f" (.obj [("x", .int 1)])
    let reply : Reply := ⟨[⟨some ⟨none, [(PartData.text "Hi").part, call.part,
      (PartData.text "!").part]⟩, none, none⟩], none, none⟩
    Decode.fromText Reply.decode text = some reply ∧
    ∃ m sent, candidateMessage reply = some m ∧ contents [m] = .ok [⟨some .model, sent⟩] ∧
      sent.map (·.data) =
        [.text "Hi!", .functionCall (some "f") "f" (.obj [("x", .int 1)])] := by
  intro text call reply
  have hreply : Decode.fromText Reply.decode text = some reply := by decide +kernel
  have hargs : Json.Rereads (.obj [("x", .int 1)]) := .obj (by simp [Json.Rereads.int])
  have hparts : ∀ p ∈ reply.parts, p.IsRepeatable := by
    intro p hp
    obtain rfl | rfl | rfl : p = (PartData.text "Hi").part ∨ p = call.part ∨
        p = (PartData.text "!").part := by simpa [reply, Reply.parts, Reply.candidate?] using hp
    · exact ⟨.text _, fun _ _ h => nomatch h⟩
    · exact ⟨.functionCall _ _ hargs, fun _ _ h => nomatch h⟩
    · exact ⟨.text _, fun _ _ h => nomatch h⟩
  have hcall : call.part ∈ reply.parts := by simp [reply, Reply.parts, Reply.candidate?]
  exact ⟨hreply, contents_candidateMessage hreply hparts ⟨_, hcall, by decide⟩⟩

/-- A reply with a medium comes back without its text. -/
theorem contents_candidateMessage_drops_text :
    let parts := [(PartData.text "Here").part, (PartData.inlineData "image/png" "AA==").part]
    let reply : Reply := ⟨[⟨some ⟨some .model, parts⟩, none, none⟩], none, none⟩
    (candidateMessage reply).map (fun m => contents [m]) =
      some (.ok [⟨some .model, [(PartData.inlineData "image/png" "AA==").part]⟩]) := by
  rfl

end ChatRetrieval.Gemini
