import ChatRetrieval.Chat.Client
import ChatRetrieval.Gemini.Reply
import ChatRetrieval.Proofs.Message.Grouping

/-!
Streamed and whole Gemini replies agree. A message is made of a list of parts, and joining the messages
of two lists gives the message of both, so the parts may be cut anywhere.
-/

namespace ChatRetrieval.Gemini

def sources : Option Json → Dict String Json
  | some g => Dict.empty.insert Extra.groundingKey g
  | none => Dict.empty

def assembled (parts : List Part) (grounding : Option Json) (report : ResponseMeta) : Message :=
  parts.foldl addPart { Message.blank .assistant with
    responseMeta := report.nonEmpty?, extra := sources grounding }

theorem mediumPart_ne_text (mimeType data t : String) : mediumPart mimeType data ≠ .text t := by
  unfold mediumPart
  split
  · exact ContentPart.noConfusion
  · split <;> exact ContentPart.noConfusion

theorem index_functionCall (id : Option String) (name : String) (args : Json)
    (signature : Option (List Nat)) : (functionCall id name args signature).index = none := rfl

theorem join_setSignature (m piece : Message) (bytes : List Nat) :
    m.join (Extra.setSignature piece bytes) = Extra.setSignature (m.join piece) bytes := by
  unfold Extra.setSignature Extra.withSignature
  split
  · rfl
  · exact Message.join_setExtra m piece _ _

theorem join_addData (m piece : Message) (thought : Bool) (data : PartData) :
    m.join (addData piece thought data) = addData (m.join piece) thought data := by
  cases data with
  | text t =>
    unfold addData
    cases thought <;> simp only [if_true, Bool.false_eq_true, if_false, Message.join, Message.report,
      String.append_assoc]
  | inlineData mimeType data =>
    simp only [addData, Message.join, Message.report,
      ContentPart.appendAll_concat_of_ne_text (mediumPart_ne_text mimeType data)]
  | fileData mimeType uri =>
    have hfile : ∀ t, ContentPart.file uri mimeType ≠ .text t := fun _ => ContentPart.noConfusion
    simp only [addData, Message.join, Message.report, ContentPart.appendAll_concat_of_ne_text hfile]
  | executableCode code => exact Message.join_setExtra m piece _ _
  | codeExecutionResult result => exact Message.join_setExtra m piece _ _
  | functionCall => rfl
  | functionResponse => rfl

theorem join_addPart (m piece : Message) (p : Part) :
    m.join (addPart piece p) = addPart (m.join piece) p := by
  have hdata (data : PartData) (bytes : List Nat) :
      m.join (Extra.setSignature (addData piece (p.thought = some true) data) bytes) =
        Extra.setSignature (addData (m.join piece) (p.thought = some true) data) bytes := by
    rw [join_setSignature, join_addData]
  unfold addPart
  cases p.data with
  | functionCall id name args =>
    simp only [Message.join, Message.report, List.foldl_append, List.foldl_cons, List.foldl_nil,
      ToolCall.mergeInto_of_none (index_functionCall ..)]
  | _ => exact hdata _ _

theorem join_foldl_addPart (m piece : Message) (parts : List Part) :
    m.join (parts.foldl addPart piece) = parts.foldl addPart (m.join piece) :=
  (List.foldl_hom m.join fun x p => (join_addPart m x p).symm).symm

theorem get?_sources_of_ne {key : String} (h : key ≠ Extra.groundingKey) (grounding : Option Json) :
    (sources grounding).get? key = none := by
  cases grounding with
  | none => rfl
  | some g => exact Dict.get?_insert_of_ne Dict.empty g h

theorem union_sources (a b : Option Json) : (sources a).union (sources b) = sources (b.or a) := by
  cases b with
  | none => rfl
  | some g =>
    refine Dict.ext_get? fun k => ?_
    rw [Option.some_or, Dict.get?_union]
    by_cases hk : k = Extra.groundingKey
    · subst hk
      simp only [sources, Dict.get?_insert_self, Option.some_or]
    · rw [get?_sources_of_ne hk, get?_sources_of_ne hk, Option.none_or]

theorem join_assembled_nil (m : Message) (grounding : Option Json) (report : ResponseMeta) :
    m.join (assembled [] grounding report) =
      { m with
        responseMeta := (m.report.join report).nonEmpty?
        extra := m.extra.union (sources grounding) } := by
  have hreport : (assembled [] grounding report).report = report := ResponseMeta.getD_nonEmpty? _
  rw [Message.join, hreport]
  simp [assembled, Message.blank, ContentPart.appendAll]

theorem setExtra_join {key : String} (h : key ≠ Extra.groundingKey) (m : Message) (value : Json)
    (grounding : Option Json) (report : ResponseMeta) :
    (m.setExtra key value).join (assembled [] grounding report) =
      (m.join (assembled [] grounding report)).setExtra key value := by
  simp only [join_assembled_nil, Message.setExtra, Message.report,
    Dict.insert_union (get?_sources_of_ne h grounding)]

theorem setSignature_join (m : Message) (bytes : List Nat) (grounding : Option Json)
    (report : ResponseMeta) :
    (Extra.setSignature m bytes).join (assembled [] grounding report) =
      Extra.setSignature (m.join (assembled [] grounding report)) bytes := by
  unfold Extra.setSignature Extra.withSignature
  split
  · rfl
  · exact setExtra_join (by decide) m _ grounding report

theorem addData_join (m : Message) (thought : Bool) (data : PartData) (grounding : Option Json)
    (report : ResponseMeta) :
    (addData m thought data).join (assembled [] grounding report) =
      addData (m.join (assembled [] grounding report)) thought data := by
  cases data with
  | executableCode code => exact setExtra_join (by decide) m _ grounding report
  | codeExecutionResult result => exact setExtra_join (by decide) m _ grounding report
  | text t => cases thought <;> simp only [join_assembled_nil] <;> rfl
  | _ =>
    simp only [join_assembled_nil]
    rfl

theorem addPart_join (m : Message) (p : Part) (grounding : Option Json) (report : ResponseMeta) :
    (addPart m p).join (assembled [] grounding report) =
      addPart (m.join (assembled [] grounding report)) p := by
  have hdata (data : PartData) (bytes : List Nat) :
      (Extra.setSignature (addData m (p.thought = some true) data) bytes).join
          (assembled [] grounding report) =
        Extra.setSignature
          (addData (m.join (assembled [] grounding report)) (p.thought = some true) data) bytes := by
    rw [setSignature_join, addData_join]
  unfold addPart
  cases p.data with
  | functionCall id name args => simp only [join_assembled_nil, Message.report]
  | _ => exact hdata _ _

/-- The messages of two lists of parts join to the message of both. -/
theorem assembled_join (ps qs : List Part) (g g' : Option Json) (r r' : ResponseMeta) :
    (assembled ps g r).join (assembled qs g' r') = assembled (ps ++ qs) (g'.or g) (r.join r') := by
  have hbase : (assembled [] g r).join (assembled [] g' r') = assembled [] (g'.or g) (r.join r') := by
    have hreport : (assembled [] g r).report = r := ResponseMeta.getD_nonEmpty? _
    rw [join_assembled_nil, hreport]
    simp only [assembled, List.foldl_nil, union_sources]
  calc (assembled ps g r).join (assembled qs g' r')
      = qs.foldl addPart ((assembled ps g r).join (assembled [] g' r')) :=
        join_foldl_addPart _ _ qs
    _ = qs.foldl addPart (ps.foldl addPart ((assembled [] g r).join (assembled [] g' r'))) :=
        congrArg (qs.foldl addPart)
          (List.foldl_hom (fun m => Message.join m (assembled [] g' r'))
            fun m p => (addPart_join m p g' r').symm).symm
    _ = assembled (ps ++ qs) (g'.or g) (r.join r') := by
        rw [hbase]
        exact List.foldl_append.symm

namespace Reply

def candidate? (reply : Reply) : Option Candidate := reply.candidates.head?

def parts (reply : Reply) : List Part :=
  ((reply.candidate?.bind (·.content)).map (·.parts)).getD []

def reason? (reply : Reply) : Option String := reply.candidate?.bind (·.finishReason)

def grounding? (reply : Reply) : Option Json := reply.candidate?.bind (·.grounding)

/-- What a reply or chunk reports. -/
def report (reply : Reply) : ResponseMeta :=
  ⟨reply.reason?, reply.usage.map (·.toTokenUsage), none⟩

end Reply

instance : LE UsageMetadata where
  le a b := a.promptTokens ≤ b.promptTokens ∧ a.candidatesTokens ≤ b.candidatesTokens ∧
    a.totalTokens ≤ b.totalTokens ∧ a.cachedTokens ≤ b.cachedTokens ∧
    a.thoughtsTokens ≤ b.thoughtsTokens

instance (a b : UsageMetadata) : Decidable (a ≤ b) := inferInstanceAs (Decidable (_ ∧ _))

/-- Chunks that stream this reply: they cut the parts of its first candidate anywhere, one of them
has its finish reason and one its sources, and the counts grow to those of the reply. Chunks with
nothing in them may stand anywhere. -/
structure Streamed (reply : Reply) (chunks : List Reply) : Prop where
  resolved : ∃ c ∈ chunks, (candidateMessage c).isSome
  parts : chunks.flatMap (·.parts) = reply.parts
  reason : chunks.filterMap (·.reason?) = reply.reason?.toList
  reason_nonempty : ∀ r ∈ reply.reason?, r ≠ ""
  grounding : chunks.filterMap (·.grounding?) = reply.grounding?.toList
  usage_mono : (chunks.filterMap (·.usage)).Pairwise (· ≤ ·)
  usage_last : (chunks.filterMap (·.usage)).getLast? = reply.usage

theorem candidateMessage_getD (reply : Reply) :
    (candidateMessage reply).getD (Message.blank .assistant) =
      assembled reply.parts reply.grounding? reply.report := by
  unfold candidateMessage Reply.parts Reply.grounding? Reply.report Reply.reason? Reply.candidate?
  cases reply.candidates with
  | cons c rest =>
    simp only [List.head?_cons, Option.bind_some, Option.getD_some, Candidate.message, assembled]
    cases c.grounding <;> rfl
  | nil => cases reply.usage <;> rfl

theorem role_addPart (m : Message) (p : Part) : (addPart m p).role = m.role := by
  unfold addPart
  cases p.data with
  | text t => cases h : decide (p.thought = some true) <;> rfl
  | _ => rfl

theorem role_assembled (parts : List Part) (grounding : Option Json) (report : ResponseMeta) :
    (assembled parts grounding report).role = .assistant := by
  have hfold : ∀ m : Message, (parts.foldl addPart m).role = m.role := by
    intro m
    induction parts generalizing m with
    | nil => rfl
    | cons p ps ih => rw [List.foldl_cons, ih, role_addPart]
  exact hfold _

theorem role_candidateMessage {reply : Reply} {m : Message} (h : candidateMessage reply = some m) :
    m.role = .assistant := by
  have hm := candidateMessage_getD reply
  rw [h, Option.getD_some] at hm
  rw [hm, role_assembled]

/-- The tokens of the completion, thoughts included, are a number of 64 bits. -/
def UsageMetadata.CompletionFits (u : UsageMetadata) : Prop :=
  u.candidatesTokens + u.thoughtsTokens < UInt64.size

instance (u : UsageMetadata) : Decidable u.CompletionFits := inferInstanceAs (Decidable (_ < _))

theorem UsageMetadata.toTokenUsage_mono {a b : UsageMetadata} (h : a ≤ b) (hb : b.CompletionFits) :
    a.toTokenUsage ≤ b.toTokenUsage := by
  obtain ⟨hprompt, hcandidates, htotal, hcached, hthoughts⟩ := h
  have hsum : a.candidatesTokens + a.thoughtsTokens ≤ b.candidatesTokens + b.thoughtsTokens :=
    Nat.add_le_add hcandidates hthoughts
  refine ⟨hprompt, hcached, ?_, hthoughts, htotal⟩
  simp only [toTokenUsage, TokenUsage.plus]
  rw [Nat.mod_eq_of_lt hb, Nat.mod_eq_of_lt (Nat.lt_of_le_of_lt hsum hb)]
  exact hsum

theorem Streamed.completionFits {reply : Reply} {chunks : List Reply} (h : Streamed reply chunks)
    (hfits : ∀ u ∈ reply.usage, u.CompletionFits) :
    ∀ u ∈ chunks.filterMap (·.usage), u.CompletionFits := by
  intro u hu
  obtain ⟨earlier, last, hsplit⟩ := (List.eq_nil_or_concat' _).resolve_left (List.ne_nil_of_mem hu)
  have hmono := h.usage_mono
  have hlast := h.usage_last
  rw [hsplit] at hu hmono hlast
  rw [List.getLast?_concat] at hlast
  have hbound : last.CompletionFits := hfits last hlast.symm
  rcases List.mem_append.1 hu with hu | hu
  · have hle := (List.pairwise_append.1 hmono).2.2 u hu last (List.mem_singleton_self last)
    exact Nat.lt_of_le_of_lt (Nat.add_le_add hle.2.1 hle.2.2.2.2) hbound
  · rwa [List.mem_singleton.1 hu]

/-- The reports of the chunks come to the report of the reply. -/
theorem Streamed.foldl_reports {reply : Reply} {chunks : List Reply} (h : Streamed reply chunks)
    (hfits : ∀ u ∈ reply.usage, u.CompletionFits) :
    (chunks.map (·.report)).foldl ResponseMeta.join .empty = reply.report := by
  have hreason : ((chunks.map (·.report)).foldl ResponseMeta.join .empty).finishReason =
      reply.reason? := by
    rw [ResponseMeta.finishReason_foldl_join, List.filterMap_map]
    have hfilter : chunks.filterMap (fun c => c.reason?.filter fun t => !t.isEmpty) =
        reply.reason?.toList := by
      rw [← List.filter_filterMap, h.reason, List.filter_eq_self]
      intro t ht
      simpa using h.reason_nonempty t (Option.mem_toList.1 ht)
    rw [show ((fun r : ResponseMeta => r.finishReason.filter fun t => !t.isEmpty) ∘ Reply.report) =
      fun c => c.reason?.filter fun t => !t.isEmpty from rfl, hfilter]
    cases reply.reason? <;> rfl
  have husage : ((chunks.map (·.report)).foldl ResponseMeta.join .empty).usage =
      reply.usage.map (·.toTokenUsage) := by
    have hcounts : ((chunks.map (·.report)).map (·.usage)).filterMap id =
        (chunks.filterMap (·.usage)).map (·.toTokenUsage) := by
      rw [List.map_filterMap, List.map_map, List.filterMap_map]
      rfl
    have hmono : (((chunks.map (·.report)).map (·.usage)).filterMap id).Pairwise (· ≤ ·) := by
      rw [hcounts, List.pairwise_map]
      exact h.usage_mono.imp_of_mem fun _ hb hle =>
        UsageMetadata.toTokenUsage_mono hle (h.completionFits hfits _ hb)
    rw [ResponseMeta.usage_foldl_join, ResponseMeta.empty, ResponseMeta.foldl_combine_max hmono,
      hcounts, List.getLast?_map, h.usage_last]
  have hlogprobs : ((chunks.map (·.report)).foldl ResponseMeta.join .empty).logprobs = none := by
    have hnone : ((chunks.map (·.report)).map (·.logprobs)).filterMap id = [] := by
      rw [List.map_map, List.filterMap_map]
      exact List.filterMap_eq_nil_iff.2 fun _ _ => rfl
    rw [ResponseMeta.logprobs_foldl_join, ResponseMeta.empty, ResponseMeta.foldl_combine_none, hnone]
  rw [Reply.report, ← hreason, ← husage, ← hlogprobs]

theorem foldl_join_chunks (chunks : List Reply) (ps : List Part) (g : Option Json)
    (r : ResponseMeta) :
    (chunks.map fun c => assembled c.parts c.grounding? c.report).foldl Message.join
        (assembled ps g r) =
      assembled (ps ++ chunks.flatMap (·.parts))
        (((chunks.filterMap (·.grounding?)).getLast?).or g)
        ((chunks.map (·.report)).foldl ResponseMeta.join r) := by
  induction chunks generalizing ps g r with
  | nil => simp
  | cons c cs ih =>
    rw [List.map_cons, List.foldl_cons, assembled_join, ih, getLast?_filterMap_cons,
      List.flatMap_cons, List.append_assoc, List.map_cons, List.foldl_cons]

theorem messagesOf_chunks (chunks : List Reply) :
    Chat.messagesOf (fun chunk => .ok (candidateMessage chunk)) (chunks.map .ok) =
      (chunks.filterMap candidateMessage).map .ok := by
  induction chunks with
  | nil => rfl
  | cons c cs ih =>
    rw [List.map_cons, Chat.messagesOf, ih]
    cases hc : candidateMessage c with
    | none => rw [List.filterMap_cons_none hc]
    | some m => rw [List.filterMap_cons_some hc, List.map_cons]

def crowded : Reply :=
  ⟨[⟨some ⟨some .model, [⟨.text "Hi", none, none, none⟩]⟩, some "STOP", none⟩],
    some ⟨0, UInt64.size - 1, 0, 0, 1⟩, none⟩

def crowdedChunks : List Reply :=
  [{ crowded with usage := some ⟨0, UInt64.size - 1, 0, 0, 0⟩ }, ⟨[], crowded.usage, none⟩]

end ChatRetrieval.Gemini
