import ChatRetrieval.Proofs.Ark.Responses.Output

/-!
Streamed and whole replies agree on everything but where one part of a summary ends and the next begins.
A whole reply puts a blank line between the parts of its reasoning; a stream only continues the reasoning,
so the two are the same just when at most one part has text.
-/

namespace ChatRetrieval.Ark.Responses

open Chat (delivered)

namespace Reply

def thoughts (reply : Reply) : List String :=
  (reply.output.flatMap (·.summary)).filter (· ≠ "")

end Reply

/-- An event that may come before a reply is completed. Early versions of the reply tell of no tier that
the reply itself does not tell of. -/
inductive Event.Precedes (reply : Reply) : Event → Prop
  | created {early : Reply} (h : early.serviceTier.isSome → reply.serviceTier.isSome) :
      Precedes reply (.created early)
  | text (delta : String) : Precedes reply (.textDelta delta)
  | reasoning (delta : String) : Precedes reply (.reasoningDelta delta)
  | announcement (item : OutputItem) : Precedes reply (.itemAdded item)
  | arguments (itemId : String) (index : Nat) (delta : String) :
      Precedes reply (.argumentsDelta itemId index delta)
  | other : Precedes reply .other

/-- These events bring the text and the reasoning of a reply, cut anywhere. -/
structure Streams (reply : Reply) (events : List Event) : Prop where
  precede : ∀ e ∈ events, e.Precedes reply
  text : String.join (events.filterMap (·.text?)) = String.join reply.texts
  reasoning : String.join (events.filterMap (·.reasoning?)) = String.join reply.thoughts

section

variable {reply : Reply} {s : StreamState}

theorem isSome_get?_noted {cache : CacheState} {k : String} :
    ((noted reply cache).get? k).isSome ↔
      k = Extra.contextIdKey ∨ k = Extra.responseIdKey ∨
        (cache.enabled ∧ k = Extra.expireAtKey) ∨
        (reply.serviceTier.isSome ∧ k = Extra.serviceTierKey) := by
  have hkey (d : Dict String Json) (k' : String) (v : Json) :
      ((d.insert k' v).get? k).isSome ↔ k = k' ∨ (d.get? k).isSome := by
    simp only [Dict.get?_insert, Std.compare_eq_iff_eq]
    split <;> simp [*]
  simp only [noted, noteReply, Extra.setExpireAt, Extra.setText, Message.setExtra, Message.blank]
  cases reply.serviceTier <;> cases cache.enabled <;> simp [hkey, or_comm, or_left_comm]

theorem isSome_noted {early : Reply} (h : early.serviceTier.isSome → reply.serviceTier.isSome)
    {cache : CacheState} {k : String} (hk : ((noted early cache).get? k).isSome) :
    ((noted reply cache).get? k).isSome := by
  rw [isSome_get?_noted] at hk ⊢
  exact hk.imp_right (Or.imp_right (Or.imp_right (And.imp_left h)))

theorem union_noted {d : Dict String Json} {cache : CacheState}
    (h : ∀ k, (d.get? k).isSome → ((noted reply cache).get? k).isSome) :
    d.union (noted reply cache) = noted reply cache := by
  refine Dict.ext_get? fun k => ?_
  rw [Dict.get?_union]
  cases hk : (noted reply cache).get? k with
  | some v => rfl
  | none =>
    have hd : d.get? k = none := by
      simpa [hk] using mt (h k)
    rw [hd, Option.none_or]

def piece (content reasoning : String) (toolCalls : List ToolCall) (extra : Dict String Json) : Message :=
  { Message.blank .assistant with content, reasoning, toolCalls, extra }

theorem join_piece {m : Message} (hm : m.responseMeta = none) (content reasoning : String)
    (toolCalls : List ToolCall) (extra : Dict String Json) :
    m.join (piece content reasoning toolCalls extra) = { m with
      content := m.content ++ content
      reasoning := m.reasoning ++ reasoning
      toolCalls := toolCalls.foldl ToolCall.mergeInto m.toolCalls
      extra := m.extra.union extra } := by
  have hreport : (m.report.join (piece content reasoning toolCalls extra).report).nonEmpty? = none := by
    simp only [Message.report, hm]
    rfl
  rw [Message.join, hreport, ← hm]
  simp only [piece, Message.blank, ContentPart.appendAll, List.foldl_nil, Option.none_or]

theorem chunk?_of_precedes {e : Event} (he : e.Precedes reply) :
    (chunk? s e = none ∧ e.text? = none ∧ e.reasoning? = none) ∨
    ∃ calls extra,
      chunk? s e = some (piece (e.text?.getD "") (e.reasoning?.getD "") calls extra) ∧
      ∀ k, (extra.get? k).isSome → ((noted reply s.cache).get? k).isSome := by
  have hempty (k : String) (hk : ((Dict.empty : Dict String Json).get? k).isSome) :
      ((noted reply s.cache).get? k).isSome := by
    cases hk
  cases he with
  | @created early h =>
    refine Or.inr ⟨[], noted early s.cache, ?_, fun _ => isSome_noted h⟩
    simp only [chunk?, onEvent, noteReply_eq, Message.blank, Dict.empty_union]
    rfl
  | text delta => exact Or.inr ⟨[], Dict.empty, rfl, hempty⟩
  | reasoning delta => exact Or.inr ⟨[], Dict.empty, rfl, hempty⟩
  | announcement item => exact Or.inl ⟨by cases item <;> rfl, rfl, rfl⟩
  | arguments itemId index delta =>
    simp only [chunk?, onEvent]
    split
    · rename_i p _
      split
      · exact Or.inr ⟨[_], Dict.empty, rfl, hempty⟩
      · exact Or.inl ⟨rfl, rfl, rfl⟩
    · exact Or.inl ⟨rfl, rfl, rfl⟩
  | other => exact Or.inl ⟨rfl, rfl, rfl⟩

/-- Events continue the text and the reasoning; what they note, the completed reply notes again. -/
theorem foldl_join_delivered {events : List Event} (h : ∀ e ∈ events, e.Precedes reply) {m : Message}
    (hm : m.responseMeta = none)
    (hextra : ∀ k, (m.extra.get? k).isSome → ((noted reply s.cache).get? k).isSome) :
    ∃ calls extra, (delivered onEvent s events).foldl Message.join m = { m with
        content := m.content ++ String.join (events.filterMap (·.text?))
        reasoning := m.reasoning ++ String.join (events.filterMap (·.reasoning?))
        toolCalls := calls
        extra := extra } ∧
      ∀ k, (extra.get? k).isSome → ((noted reply s.cache).get? k).isSome := by
  induction events generalizing s m with
  | nil => exact ⟨m.toolCalls, m.extra, by simp [delivered_nil], hextra⟩
  | cons e es ih =>
    have hes : ∀ e' ∈ es, e'.Precedes reply := fun e' he' => h e' (List.mem_cons_of_mem _ he')
    have hjoin (f : Event → Option String) :
        String.join ((e :: es).filterMap f) = (f e).getD "" ++ String.join (es.filterMap f) := by
      cases hf : f e <;> simp [hf]
    rw [delivered_cons, List.foldl_append, hjoin, hjoin]
    rcases chunk?_of_precedes (s := s) (h e (List.mem_cons_self ..)) with
      ⟨hnone, htext, hreasoning⟩ | ⟨calls, extra, hsome, hkeys⟩
    · obtain ⟨calls', extra', hrest, hkeys'⟩ :=
        ih (s := ⟨s.cache, e.announced?.or s.pending⟩) hes hm hextra
      refine ⟨calls', extra', ?_, hkeys'⟩
      rw [hnone, Option.toList_none, List.foldl_nil, hrest, htext, hreasoning]
      simp only [Option.getD_none, String.empty_append]
    · have hunion (k : String) (hk : ((m.extra.union extra).get? k).isSome) :
          ((noted reply s.cache).get? k).isSome := by
        rw [Dict.get?_union, Option.isSome_or, Bool.or_eq_true] at hk
        exact hk.elim (hkeys k) (hextra k)
      have hstep := join_piece hm (e.text?.getD "") (e.reasoning?.getD "") calls extra
      obtain ⟨calls', extra', hrest, hkeys'⟩ :=
        ih (s := ⟨s.cache, e.announced?.or s.pending⟩) (m := m.join (piece _ _ calls extra)) hes
          (by rw [hstep]; exact hm) (by rw [hstep]; exact hunion)
      refine ⟨calls', extra', ?_, hkeys'⟩
      rw [hsome, Option.toList_some, List.foldl_cons, List.foldl_nil, hrest, hstep]
      simp only [String.append_assoc]

end

theorem foldl_addSummary (r : String) (parts : List String) :
    parts.foldl addSummary r = "\n\n".intercalate ((r :: parts).filter (· ≠ "")) := by
  induction parts generalizing r with
  | nil => by_cases hr : r = "" <;> simp [hr]
  | cons p ps ih =>
    rw [List.foldl_cons, ih, addSummary]
    by_cases hp : p = ""
    · simp [hp, List.filter_cons]
    · by_cases hr : r = ""
      · simp [hp, hr]
      · simp [hp, hr]

theorem length_intercalate (sep : String) (parts : List String) :
    (sep.intercalate parts).length =
      (String.join parts).length + sep.length * (parts.length - 1) := by
  induction parts with
  | nil => simp
  | cons p ps ih =>
    cases ps with
    | nil => simp
    | cons q qs =>
      have hjoin : (String.join (p :: q :: qs)).length =
          p.length + (String.join (q :: qs)).length := by
        rw [String.join_cons, String.length_append]
      rw [String.intercalate_cons_cons, String.length_append, String.length_append, ih, hjoin]
      simp only [List.length_cons, Nat.add_sub_cancel, Nat.mul_succ]
      omega

theorem join_eq_intercalate_iff {sep : String} (hsep : sep.length ≠ 0) {parts : List String} :
    String.join parts = sep.intercalate parts ↔ parts.length ≤ 1 := by
  constructor
  · intro h
    have hlength := length_intercalate sep parts
    rw [← h, Nat.left_eq_add, Nat.mul_eq_zero] at hlength
    have hzero := hlength.resolve_left hsep
    omega
  · intro h
    match parts, h with
    | [], _ => simp
    | [p], _ => simp

theorem OutputItem.several_eq_nil {item : OutputItem} (h : item.texts.length ≤ 1) :
    item.several = [] := by
  cases item with
  | message texts => match texts, h with
    | [], _ | [t], _ => rfl
  | _ => rfl

theorem Reply.loneTexts_eq {reply : Reply} (h : ∀ item ∈ reply.output, item.texts.length ≤ 1) :
    reply.loneTexts = reply.texts ∧ reply.output.flatMap (·.several) = [] := by
  have hseveral : ∀ item ∈ reply.output, item.several = [] := fun item hitem =>
    OutputItem.several_eq_nil (h item hitem)
  refine ⟨?_, List.flatMap_eq_nil_iff.2 hseveral⟩
  rw [Reply.loneTexts, List.filterMap_eq_flatMap_toList, Reply.texts]
  apply List.flatMap_congr
  intro item hitem
  rw [item.texts_eq, hseveral item hitem, List.append_nil]

section

variable {reply : Reply} {cache : CacheState}

theorem join_statusMessage {m : Message} (hm : m.responseMeta = none)
    (hextra : ∀ k, (m.extra.get? k).isSome → ((noted reply cache).get? k).isSome) :
    m.join (statusMessage reply "completed" cache) = { m with
      responseMeta := (statusMessage reply "completed" cache).responseMeta
      extra := (statusMessage reply "completed" cache).extra } := by
  simp only [statusMessage_eq, Message.join, Message.blank, Message.report, hm, union_noted hextra,
    ContentPart.appendAll, List.foldl_nil, Option.none_or, String.append_empty]
  rfl

theorem outputMessage_completed (hstatus : reply.status = .completed) (houtput : reply.output ≠ [])
    (htexts : reply.texts.length ≤ 1) :
    ∃ calls, outputMessage reply cache = .ok { statusMessage reply "completed" cache with
      content := String.join reply.texts
      reasoning := "\n\n".intercalate reply.thoughts
      toolCalls := calls } := by
  have hitems : ∀ item ∈ reply.output, item.texts.length ≤ 1 := by
    intro item hitem
    have hsublist : item.texts.Sublist reply.texts := by
      rw [Reply.texts, List.flatMap_def]
      exact List.sublist_flatten_of_mem (List.mem_map_of_mem hitem)
    exact Nat.le_trans hsublist.length_le htexts
  have hcontent : reply.texts.getLast?.getD "" = String.join reply.texts := by
    cases htext : reply.texts with
    | nil => rfl
    | cons t more =>
      rw [htext, List.length_cons] at htexts
      have hmore : more = [] := List.eq_nil_of_length_eq_zero (by omega)
      simp [hmore]
  have hreason : finishReason reply = "completed" := by
    rw [finishReason, hstatus]
    rfl
  obtain ⟨hlone, hseveral⟩ := Reply.loneTexts_eq hitems
  refine ⟨reply.output.filterMap (·.toolCall?), ?_⟩
  have hblank : (statusMessage reply "completed" cache).content = "" ∧
      (statusMessage reply "completed" cache).reasoning = "" ∧
      (statusMessage reply "completed" cache).toolCalls = [] := by
    simp only [statusMessage_eq, Message.blank, and_self]
  rw [outputMessage, hreason, if_neg (by simp [hstatus]), if_neg (by simpa using houtput),
    foldl_addItem, foldl_addSummary, hblank.1, hblank.2.1, hblank.2.2, hseveral]
  rw [← hlone, Reply.loneTexts] at hcontent ⊢
  simp only [Reply.thoughts, hcontent, List.filter_cons, ne_eq, not_true, decide_false,
    Bool.false_eq_true, if_false, List.map_nil, List.append_nil, List.nil_append]

/-- A completed reply with at most one text, streamed: the message is that of the whole reply but for the
blank lines of its reasoning, which make a difference just when more than one part has text. A reply
without output is only accepted when it is streamed. -/
theorem concat_completed (hstatus : reply.status = .completed) (htexts : reply.texts.length ≤ 1)
    {events : List Event} (h : Streams reply events) (pending : Option PendingCall) :
    ∃ m, Message.concat (delivered onEvent ⟨cache, pending⟩ (events ++ [.completed reply])) = .ok m ∧
      (reply.output = [] → outputMessage reply cache = Result.fail "received empty output from ARK") ∧
      (reply.output ≠ [] → ∃ w, outputMessage reply cache = .ok w ∧
        { m with reasoning := "", toolCalls := [] } = { w with reasoning := "", toolCalls := [] } ∧
        m.reasoning = String.join reply.thoughts ∧
        w.reasoning = "\n\n".intercalate reply.thoughts ∧
        (m.reasoning = w.reasoning ↔ reply.thoughts.length ≤ 1)) := by
  have hchunk : chunk? ⟨cache, ((events.filterMap (·.announced?)).getLast?).or pending⟩
      (.completed reply) = some (statusMessage reply "completed" cache) := by
    simp only [chunk?, onEvent, hstatus]
    rfl
  have hdelivered : delivered onEvent ⟨cache, pending⟩ (events ++ [.completed reply]) =
      delivered onEvent ⟨cache, pending⟩ events ++ [statusMessage reply "completed" cache] := by
    rw [delivered_append, delivered_cons, hchunk, delivered_nil]
    rfl
  have hconcat := @Message.concat_eq_foldl_join .assistant
    (delivered onEvent ⟨cache, pending⟩ (events ++ [.completed reply])) (by simp [hdelivered])
    fun m hm => role_of_mem_delivered hm
  obtain ⟨calls, extra, hevents, hextra⟩ := foldl_join_delivered (s := ⟨cache, pending⟩) h.precede
    (m := .blank .assistant) rfl fun k hk => by cases hk
  rw [hdelivered, List.foldl_append, hevents, List.foldl_cons, List.foldl_nil,
    join_statusMessage rfl hextra, h.text, h.reasoning] at hconcat
  refine ⟨_, hdelivered ▸ hconcat, fun houtput => ?_, fun houtput => ?_⟩
  · rw [outputMessage, if_neg (by simp [hstatus]), houtput]
    rfl
  · obtain ⟨calls', hwhole⟩ := @outputMessage_completed reply cache hstatus houtput htexts
    refine ⟨_, hwhole, ?_, ?_, rfl, ?_⟩
    · simp only [statusMessage_eq, Message.blank, String.empty_append]
    · simp only [Message.blank, String.empty_append]
    · simp only [Message.blank, String.empty_append]
      exact join_eq_intercalate_iff (by decide)

def greeting (summary : List String) : Reply where
  id := "r"
  model := "m"
  status := .completed
  error := none
  incompleteReason := none
  output := [.reasoning summary, .message ["hi"]]
  usage := some ⟨1, 2, 3, none, none⟩
  serviceTier := some "default"

def greetingEvents (early : Reply) : List Event :=
  [.created early, .reasoningDelta "a", .other, .reasoningDelta "b", .textDelta "hi"]

theorem streams_greeting {summary : List String} (h : String.join (greeting summary).thoughts = "ab")
    (early : Reply) : Streams (greeting summary) (greetingEvents early) := by
  refine ⟨?_, rfl, h.symm⟩
  simp only [greetingEvents, List.mem_cons, List.not_mem_nil, or_false]
  rintro e (rfl | rfl | rfl | rfl | rfl)
  · exact .created fun _ => rfl
  · exact .reasoning "a"
  · exact .other
  · exact .reasoning "b"
  · exact .text "hi"

theorem concat_completed_one_thought :
    Streams (greeting ["ab", ""]) (greetingEvents (greeting [])) ∧
    ∃ m w, Message.concat (delivered onEvent ⟨⟨true, some 60⟩, none⟩
        (greetingEvents (greeting []) ++ [.completed (greeting ["ab", ""])])) = .ok m ∧
      outputMessage (greeting ["ab", ""]) ⟨true, some 60⟩ = .ok w ∧
      { m with toolCalls := [] } = { w with toolCalls := [] } := by
  have h : Streams (greeting ["ab", ""]) (greetingEvents (greeting [])) :=
    streams_greeting (by decide) (greeting [])
  obtain ⟨m, hm, -, hwhole⟩ := @concat_completed (greeting ["ab", ""]) ⟨true, some 60⟩ rfl (by decide) _ h none
  obtain ⟨w, hw, hfields, -, -, hreasoning⟩ := hwhole (by decide)
  refine ⟨h, m, w, hm, hw, ?_⟩
  have hsame : m.reasoning = w.reasoning := hreasoning.2 (by decide)
  simp only [Message.mk.injEq, true_and] at hfields ⊢
  simpa only [hsame, true_and] using hfields

/-- Two parts of a summary run together when they are streamed. -/
theorem concat_completed_two_thoughts :
    Streams (greeting ["a", "b"]) (greetingEvents (greeting [])) ∧
    ∃ m w, Message.concat (delivered onEvent ⟨⟨true, some 60⟩, none⟩
        (greetingEvents (greeting []) ++ [.completed (greeting ["a", "b"])])) = .ok m ∧
      outputMessage (greeting ["a", "b"]) ⟨true, some 60⟩ = .ok w ∧
      m.reasoning = "ab" ∧ w.reasoning = "a\n\nb" := by
  have h : Streams (greeting ["a", "b"]) (greetingEvents (greeting [])) :=
    streams_greeting (by decide) (greeting [])
  exact ⟨h, _, _, rfl, rfl, rfl, rfl⟩

end

end ChatRetrieval.Ark.Responses
