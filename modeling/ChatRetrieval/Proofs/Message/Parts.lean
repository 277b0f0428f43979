import ChatRetrieval.Proofs.Gemini.Replay
import ChatRetrieval.Proofs.Message.Conversation

/-!
The parts of messages in a request. Every part that a user's or an assistant's message offers is sent
as a block of its own, in order, or else nothing is sent at all. Of the parts of an instruction only
the texts are sent.
-/

namespace ChatRetrieval

/-- The parts that a message has for the other side: a user's input, an assistant's output. -/
def Message.offered (m : Message) : List ContentPart :=
  match m.role with
  | .user => m.userParts
  | .assistant => m.assistantParts
  | _ => []

/-- The texts among the parts of the system messages, empty ones aside. -/
def systemPartTexts (input : List Message) : List String :=
  ((input.filter fun m => m.role = .system).flatMap fun m =>
    m.userParts.filterMap ContentPart.asText?).filter fun t => !t.isEmpty

theorem systemPartTexts_sublist (input : List Message) :
    (systemPartTexts input).Sublist (systemTexts input) := by
  refine List.Sublist.filter _ ?_
  induction input.filter fun m => m.role = .system with
  | nil => exact List.Sublist.refl _
  | cons m rest ih =>
    rw [List.flatMap_cons, List.flatMap_cons]
    exact (List.sublist_cons_self _ _).append ih

theorem flatMap_spokenAfter {α : Type} {f : Message → List α}
    (h : ∀ m, m.role = .system → f m = []) (before input : List Message) :
    (spokenAfter before input).flatMap (fun c => f c.2) = input.flatMap f := by
  induction input generalizing before with
  | nil => rfl
  | cons m rest ih =>
    rw [List.flatMap_cons]
    by_cases hrole : m.role = .system
    · rw [spokenAfter_cons_of_system hrole, ih, h m hrole, List.nil_append]
    · rw [spokenAfter_cons hrole, List.flatMap_cons, ih]

namespace Turn

/-- Every part that is offered is shown by a block of its own, on the side of its message and in order;
a part that no block can show leaves no turns. -/
structure Shows {ρ β γ : Type} (make : Turn ρ β → γ) (side : Role → ρ)
    (holds : β → ContentPart → Prop) (input : List Message) (result : Result (List γ)) : Prop where
  sent : ∀ sent, result = .ok sent → ∃ turns shown, sent = turns.map make ∧
    shown.Sublist (tagged turns) ∧
    List.Forall₂ (fun part block => block.1 = part.1 ∧ holds block.2 part.2)
      (input.flatMap fun m => m.offered.map (Prod.mk (side m.role))) shown
  failed : ∀ m ∈ input, ∀ part ∈ m.offered, (∀ block, ¬ holds block part) →
    ∃ f, result = .error f

variable {ρ β γ : Type} {make : Turn ρ β → γ} {side : Role → ρ}
  {own : List Message → Message → Result (List β)} {holds : β → ContentPart → Prop}
  {input : List Message} {result : Result (List γ)}

variable (side) in
theorem exists_shown
    (hown : ∀ before m blocks, own before m = .ok blocks →
      ∃ shown : List β, shown.Sublist blocks ∧
        List.Forall₂ (fun part block => holds block part) m.offered shown)
    {spoken : List (List Message × Message)} {blocks : List (List β)}
    (h : List.Forall₂ (fun c said => own c.1 c.2 = .ok said) spoken blocks) :
    ∃ shown, shown.Sublist ((spoken.zip blocks).flatMap fun r =>
        r.2.map fun b => (side r.1.2.role, b)) ∧
      List.Forall₂ (fun part block => block.1 = part.1 ∧ holds block.2 part.2)
        (spoken.flatMap fun c => c.2.offered.map (Prod.mk (side c.2.role))) shown := by
  induction h with
  | nil => exact ⟨[], List.Sublist.refl _, .nil⟩
  | @cons c said spoken blocks hc _ ih =>
    obtain ⟨shown, hsublist, hshown⟩ := hown c.1 c.2 said hc
    obtain ⟨more, hmore, hshows⟩ := ih
    refine ⟨shown.map (Prod.mk (side c.2.role)) ++ more, ?_, ?_⟩
    · rw [List.zip_cons_cons, List.flatMap_cons]
      exact (hsublist.map _).append hmore
    · rw [List.flatMap_cons]
      refine List.rel_append ?_ hshows
      rw [List.forall₂_map_left_iff, List.forall₂_map_right_iff]
      exact hshown.imp fun _ _ hblock => ⟨rfl, hblock⟩

theorem Converts.shows (h : Converts make side own input result)
    (hown : ∀ before m blocks, own before m = .ok blocks →
      ∃ shown : List β, shown.Sublist blocks ∧
        List.Forall₂ (fun part block => holds block part) m.offered shown) :
    Shows make side holds input result := by
  have hoffered : (spoken input).flatMap (fun c => c.2.offered.map (Prod.mk (side c.2.role))) =
      input.flatMap fun m => m.offered.map (Prod.mk (side m.role)) := by
    have hsystem : ∀ m : Message, m.role = .system → m.offered.map (Prod.mk (side m.role)) = [] := by
      intro m hrole
      rw [Message.offered, hrole, List.map_nil]
    rw [← spokenAfter_nil]
    exact flatMap_spokenAfter hsystem [] input
  have hsent : ∀ sent, result = .ok sent → ∃ turns shown, sent = turns.map make ∧
      shown.Sublist (tagged turns) ∧
      List.Forall₂ (fun part block => block.1 = part.1 ∧ holds block.2 part.2)
        (input.flatMap fun m => m.offered.map (Prod.mk (side m.role))) shown := by
    intro sent hresult
    obtain ⟨turns, blocks, hturns, -, hblocks, htagged⟩ := h.sent sent hresult
    obtain ⟨shown, hsublist, hshown⟩ := exists_shown side hown hblocks
    rw [← htagged] at hsublist
    rw [hoffered] at hshown
    exact ⟨turns, shown, hturns, hsublist, hshown⟩
  refine ⟨hsent, fun m hm part hpart hnone => ?_⟩
  cases hresult : result with
  | error f => exact ⟨f, rfl⟩
  | ok sent =>
    obtain ⟨turns, shown, -, -, hshown⟩ := hsent sent hresult
    have hmem : (side m.role, part) ∈ input.flatMap fun m => m.offered.map (Prod.mk (side m.role)) :=
      List.mem_flatMap.2 ⟨m, hm, List.mem_map_of_mem hpart⟩
    obtain ⟨block, -, -, hblock⟩ := Result.exists_of_mem_forall₂ hshown hmem
    exact absurd hblock (hnone block.2)

end Turn

namespace Claude

/-- A medium at this address: inline ones by their data, all others by the address itself. -/
inductive Source.IsOf : Source → String → Prop
  | base64 {i : Text.Inline} (h : ',' ∉ i.mediaType.toList) : IsOf (.base64 i.mediaType i.data) i.url
  | url {url : String} (h : Text.startsWith "data:" url = false) : IsOf (.url url) url

/-- A block that says what a part of a message says. -/
inductive Block.Shows : Block → ContentPart → Prop
  | text (t : String) : Shows (.text t false) (.text t)
  | image {s : Source} {url : String} (detail : Option ImageDetail) (mimeType : Option String)
      (h : s.IsOf url) : Shows (.image s false) (.image url detail mimeType)
  | document {s : Source} {url : String} (mimeType : Option String) (h : s.IsOf url) :
      Shows (.document s false) (.file url mimeType)

theorem Block.asText?_of_text_shows {t : String} {cached : Bool} {part : ContentPart}
    (h : (Block.text t cached).Shows part) : part.asText? = some t := by
  cases h
  rfl

theorem isOf_source {url : String} {s : Source} (h : source url = .ok s) : s.IsOf url := by
  obtain ⟨inline, hinline, rfl⟩ := Result.map_eq_ok h
  cases inline with
  | none => exact .url (Text.Inline.startsWith_of_ofUrl hinline)
  | some i =>
    obtain ⟨rfl, hcomma⟩ := Text.Inline.eq_of_ofUrl hinline
    exact .base64 hcomma

theorem shows_partBlock {part : ContentPart} {b : Block} (h : partBlock part = .ok b) :
    b.Shows part := by
  cases part with
  | text t =>
    cases h
    exact .text t
  | image url detail mimeType =>
    obtain ⟨s, hs, rfl⟩ := Result.map_eq_ok h
    exact .image detail mimeType (isOf_source hs)
  | file url mimeType =>
    obtain ⟨s, hs, rfl⟩ := Result.map_eq_ok h
    exact .document mimeType (isOf_source hs)
  | audio => cases h
  | video => cases h

theorem forall₂_contentBlocks {parts : List ContentPart} {text : String} {blocks : List Block}
    (h : contentBlocks parts text = .ok blocks) :
    ∃ shown, shown.Sublist blocks ∧ List.Forall₂ (fun part block => block.Shows part) parts shown := by
  unfold contentBlocks at h
  split at h
  · rename_i hempty
    rw [List.isEmpty_iff.1 hempty]
    exact ⟨[], List.nil_sublist _, .nil⟩
  · refine ⟨blocks, List.Sublist.refl _, (Result.mapM_eq_ok_iff.1 h).imp fun _ _ => shows_partBlock⟩

theorem forall₂_ownBlocks {m : Message} {blocks : List Block} (h : ownBlocks m = .ok blocks) :
    ∃ shown, shown.Sublist blocks ∧
      List.Forall₂ (fun part block => block.Shows part) m.offered shown := by
  unfold ownBlocks at h
  unfold Message.offered
  split at h <;> rename_i hrole <;> rw [hrole]
  · exact ⟨[], List.nil_sublist _, .nil⟩
  · exact forall₂_contentBlocks h
  · obtain ⟨content, hcontent, h⟩ := Result.bind_eq_ok h
    obtain ⟨calls, -, h⟩ := Result.bind_eq_ok h
    cases h
    obtain ⟨shown, hsublist, hshown⟩ := forall₂_contentBlocks hcontent
    refine ⟨shown, ?_, hshown⟩
    exact (hsublist.trans (List.sublist_append_right _ _)).trans (List.sublist_append_left _ _)
  · exact ⟨[], List.nil_sublist _, .nil⟩

end Claude

namespace Gemini

/-- A medium at this address: inline ones by their data, all others by the address itself. -/
inductive PartData.IsOf (mimeType : Option String) : PartData → String → Prop
  | inlineData {i : Text.Inline} (h : ',' ∉ i.mediaType.toList) :
      IsOf mimeType (.inlineData i.mediaType i.data) i.url
  | fileData {url : String} (h : Text.startsWith "data:" url = false) :
      IsOf mimeType (.fileData mimeType url) url

/-- Data that say what a part of a message says. -/
inductive PartData.Shows : PartData → ContentPart → Prop
  | text (t : String) : Shows (.text t) (.text t)
  | image {d : PartData} {url : String} {mimeType : Option String} (detail : Option ImageDetail)
      (h : d.IsOf mimeType url) : Shows d (.image url detail mimeType)
  | audio {d : PartData} {url : String} {mimeType : Option String} (h : d.IsOf mimeType url) :
      Shows d (.audio url mimeType)
  | video {d : PartData} {url : String} {mimeType : Option String} (h : d.IsOf mimeType url) :
      Shows d (.video url mimeType)
  | file {d : PartData} {url : String} {mimeType : Option String} (h : d.IsOf mimeType url) :
      Shows d (.file url mimeType)

theorem PartData.medium?_ne_none {d : PartData} {part : ContentPart} (h : d.Shows part)
    (hpart : part.asText? = none) : d.medium? ≠ none := by
  cases h with
  | text => cases hpart
  | image _ h | audio h | video h | file h => cases h <;> exact Option.some_ne_none _

theorem isOf_mediaData {url : String} {mimeType : Option String} {d : PartData}
    (h : mediaData url mimeType = .ok d) : d.IsOf mimeType url := by
  obtain ⟨inline, hinline, rfl⟩ := Result.map_eq_ok h
  cases inline with
  | none => exact .fileData (Text.Inline.startsWith_of_ofUrl hinline)
  | some i =>
    obtain ⟨rfl, hcomma⟩ := Text.Inline.eq_of_ofUrl hinline
    exact .inlineData hcomma

theorem shows_contentPart {m : Message} {part : ContentPart} {p : Part}
    (h : contentPart m part = .ok p) : p.data.Shows part := by
  cases part with
  | text t =>
    cases h
    exact .text t
  | image url detail mimeType =>
    obtain ⟨d, hd, rfl⟩ := Result.map_eq_ok h
    exact .image detail (isOf_mediaData hd)
  | audio url mimeType =>
    obtain ⟨d, hd, rfl⟩ := Result.map_eq_ok h
    exact .audio (isOf_mediaData hd)
  | video url mimeType =>
    obtain ⟨d, hd, rfl⟩ := Result.map_eq_ok h
    exact .video (isOf_mediaData hd)
  | file url mimeType =>
    obtain ⟨d, hd, rfl⟩ := Result.map_eq_ok h
    exact .file (isOf_mediaData hd)

theorem forall₂_contentParts {m : Message} {parts : List ContentPart} {sent : List Part}
    (h : contentParts m parts = .ok sent) :
    ∃ shown, shown.Sublist sent ∧ List.Forall₂ (fun part p => p.data.Shows part) parts shown := by
  unfold contentParts at h
  split at h
  · rename_i hempty
    rw [List.isEmpty_iff.1 hempty]
    exact ⟨[], List.nil_sublist _, .nil⟩
  · exact ⟨sent, List.Sublist.refl _, (Result.mapM_eq_ok_iff.1 h).imp fun _ _ => shows_contentPart⟩

theorem forall₂_ownParts {before : List Message} {m : Message} {sent : List Part}
    (h : ownParts before m = .ok sent) :
    ∃ shown, shown.Sublist sent ∧
      List.Forall₂ (fun part p => p.data.Shows part) m.offered shown := by
  unfold ownParts at h
  unfold Message.offered
  split at h <;> rename_i hrole <;> rw [hrole]
  · exact ⟨[], List.nil_sublist _, .nil⟩
  · exact forall₂_contentParts h
  · obtain ⟨content, hcontent, h⟩ := Result.bind_eq_ok h
    obtain ⟨calls, -, h⟩ := Result.bind_eq_ok h
    cases h
    obtain ⟨shown, hsublist, hshown⟩ := forall₂_contentParts hcontent
    -- Signing a part leaves its data as they are.
    have hdata := hsublist.map (·.data)
    rw [← map_data_signFirst (Extra.signature? m) content] at hdata
    obtain ⟨signed, hsigned, hsame⟩ := List.sublist_map_iff.1 hdata
    have hshows : List.Forall₂ (fun part (d : PartData) => d.Shows part) m.assistantParts
        (shown.map (·.data)) := List.forall₂_map_right_iff.2 hshown
    rw [hsame] at hshows
    exact ⟨signed, hsigned.trans (List.sublist_append_left _ _), List.forall₂_map_right_iff.1 hshows⟩
  · exact ⟨[], List.nil_sublist _, .nil⟩

end Gemini

/-- No part is lost on the way to Claude or Gemini: the parts of users and assistants are all sent, each
as a block of its own, unless one of them has no block, when nothing is sent. Instructions are texts, and
the texts among their parts are sent as well. -/
theorem parts_are_sent (input : List Message) :
    Turn.Shows (fun t => (⟨t.role, t.blocks⟩ : Claude.InputMessage)) Claude.sideOf
      Claude.Block.Shows input (Claude.inputMessages input) ∧
    ((systemPartTexts input).map (Claude.Block.text · false)).Sublist (Claude.systemBlocks input) ∧
    Turn.Shows (fun t => (⟨some t.role, t.blocks⟩ : Gemini.Content)) Gemini.sideOf
      (fun p part => p.data.Shows part) input (Gemini.contents input) ∧
    ((systemPartTexts input).map fun t => (Gemini.PartData.text t).part).Sublist
      (((Gemini.systemInstruction input).map (·.parts)).getD []) := by
  refine ⟨(Claude.inputMessages_converts input).shows fun _ _ _ => Claude.forall₂_ownBlocks, ?_,
    (Gemini.contents_converts input).shows fun _ _ _ => Gemini.forall₂_ownParts, ?_⟩
  · exact (systemPartTexts_sublist input).map _
  · have htexts := systemPartTexts_sublist input
    unfold Gemini.systemInstruction
    split <;> rename_i hsystem
    · rw [hsystem] at htexts
      rw [List.sublist_nil.1 htexts]
      exact List.Sublist.refl _
    · exact htexts.map _

/-- An instruction with an image is sent without it, and so is the result of a call. -/
theorem images_are_not_sent :
    let image := ContentPart.image "https://example.com/a.png" none none
    let input := [{ Message.blank .system with content := "rules", userParts := [image] },
      { Message.blank .user with content := "hi" },
      { Message.blank .assistant with toolCalls := [.function "c" "f" "\x7b\x7d"] },
      { Message.blank .tool with
        content := "done", toolCallId := some "c", toolName := some "f", userParts := [image] }]
    (∃ turns, Claude.inputMessages input = .ok turns ∧
      ∀ block ∈ Claude.systemBlocks input ++ turns.flatMap (·.content), ¬ block.Shows image) ∧
    ∃ contents, Gemini.contents input = .ok contents ∧
      ∀ p ∈ ((Gemini.systemInstruction input).map (·.parts)).getD [] ++ contents.flatMap (·.parts),
        ¬ p.data.Shows image := by
  intro image input
  have hno : image.asText? = none := rfl
  refine ⟨⟨_, rfl, fun block hblock hshows => ?_⟩, _, rfl, fun p hp hshows => ?_⟩
  · have hblocks : block ∈ [Claude.Block.text "rules" false, .text "hi" false,
      .toolUse "c" "f" (.obj []) false, .toolResult "c" "done" false] := hblock
    simp only [List.mem_cons, List.not_mem_nil, or_false] at hblocks
    obtain rfl | rfl | rfl | rfl := hblocks
    case inl | inr.inl => cases hno.symm.trans (Claude.Block.asText?_of_text_shows hshows)
    all_goals cases hshows
  · have hparts : p ∈ [(Gemini.PartData.text "rules").part, (Gemini.PartData.text "hi").part,
      (Gemini.PartData.functionCall (some "c") "f" (.obj [])).part,
      (Gemini.PartData.functionResponse (some "c") "f" (.obj [("output", .str "done")])).part] := hp
    simp only [List.mem_cons, List.not_mem_nil, or_false] at hparts
    obtain rfl | rfl | rfl | rfl := hparts
    all_goals exact Gemini.PartData.medium?_ne_none hshows hno rfl

end ChatRetrieval
