import ChatRetrieval.Proofs.Gemini.Signatures
import ChatRetrieval.Proofs.Message.Conversation

/-!
Tool results in a Gemini conversation. A result says which function it comes from: the one its message
names or else that of the latest call with its id, and where there is neither there is no conversation.
-/

namespace ChatRetrieval.Gemini

def callsIn (messages : List Message) : List ToolCall :=
  (messages.filter fun m => m.role = .assistant).flatMap (·.toolCalls)

/-- A call with this id that no call with it comes after. -/
def IsLatest (calls : List ToolCall) (id : String) (c : ToolCall) : Prop :=
  ∃ earlier later, calls = earlier ++ c :: later ∧ c.id = id ∧ ∀ d ∈ later, d.id ≠ id

/-- The id of the call a message answers; one without an id has the empty one. -/
def answeredId (m : Message) : String := m.toolCallId.getD ""

/-- The function a tool's message comes from: the one it names or else the one the latest call with its id
was for. -/
inductive ComesFrom (before : List Message) (m : Message) : String → Prop
  | named {name : String} (h : m.toolName = some name) : ComesFrom before m name
  | called {c : ToolCall} (unnamed : m.toolName = none)
      (latest : IsLatest (callsIn before) (answeredId m) c) : ComesFrom before m c.name

section

variable {calls : List ToolCall} {id : String}

theorem isLatest_concat {c d : ToolCall} :
    IsLatest (calls ++ [d]) id c ↔ if d.id = id then c = d else IsLatest calls id c := by
  constructor
  · rintro ⟨earlier, later, hcalls, hid, hlater⟩
    -- The call added last either comes after the latest one or is the latest one.
    rcases List.eq_nil_or_concat later with rfl | ⟨later, last, rfl⟩
    · obtain ⟨-, hlast⟩ := List.append_inj' hcalls rfl
      obtain rfl := List.head_eq_of_cons_eq hlast
      rw [if_pos hid]
    · rw [List.concat_eq_append, ← List.cons_append, ← List.append_assoc] at hcalls
      obtain ⟨hfront, hlast⟩ := List.append_inj' hcalls rfl
      obtain rfl := List.head_eq_of_cons_eq hlast
      rw [if_neg (hlater d (by simp))]
      exact ⟨earlier, later, hfront, hid, fun d hd => hlater d (by simp [hd])⟩
  · split
    · rename_i hid
      rintro rfl
      exact ⟨calls, [], rfl, hid, nofun⟩
    · rename_i hid
      rintro ⟨earlier, later, rfl, hc, hlater⟩
      refine ⟨earlier, later ++ [d], by simp, hc, fun e he => ?_⟩
      rcases List.mem_append.1 he with he | he
      · exact hlater e he
      · rwa [List.mem_singleton.1 he]

theorem get?_ofList_eq_some_iff {name : String} :
    (Dict.ofList (calls.map fun c => (c.id, c.name))).get? id = some name ↔
      ∃ c, IsLatest calls id c ∧ c.name = name := by
  rw [Dict.get?_ofList]
  induction calls using List.reverseRecOn with
  | nil => simp [IsLatest]
  | append_singleton calls d ih =>
    rw [List.map_append, List.reverse_append, List.map_singleton, List.reverse_singleton,
      List.singleton_append, lookup_cons_eq_ite]
    simp only [isLatest_concat]
    by_cases hid : id = d.id
    · simp [hid]
    · rw [if_neg hid, ih]
      simp [Ne.symm hid]

end

theorem callNames_eq (before : List Message) :
    callNames before = .ofList ((callsIn before).map fun c => (c.id, c.name)) := by
  rw [callNames, callsIn, List.map_flatMap]

theorem comesFrom_iff {before : List Message} {m : Message} {name : String} :
    ComesFrom before m name ↔ m.toolName.or ((callNames before).get? (answeredId m)) = some name := by
  rw [callNames_eq]
  constructor
  · rintro (hnamed | ⟨hunnamed, hlatest⟩)
    · rw [hnamed, Option.some_or]
    · rw [hunnamed, Option.none_or]
      exact get?_ofList_eq_some_iff.2 ⟨_, hlatest, rfl⟩
  · intro h
    cases hname : m.toolName with
    | some said =>
      rw [hname, Option.some_or] at h
      exact .named (hname.trans h)
    | none =>
      rw [hname, Option.none_or] at h
      obtain ⟨c, hlatest, rfl⟩ := get?_ofList_eq_some_iff.1 h
      exact .called hname hlatest

def resultData (m : Message) (name : String) : PartData :=
  .functionResponse (givenId (answeredId m)) name (.ofFields [Json.field "output" (.str m.content)])

theorem resultPart_eq_ok_iff {before : List Message} {m : Message} {part : Part} :
    resultPart (callNames before) m = .ok part ↔
      ∃ name, ComesFrom before m name ∧ part = (resultData m name).part := by
  simp only [comesFrom_iff]
  unfold resultPart
  dsimp only
  rw [← answeredId]
  cases m.toolName.or ((callNames before).get? (answeredId m)) with
  | none => simp [Result.fail]
  | some name => simp [resultData, eq_comm]

def PartData.isResult : PartData → Bool
  | functionResponse _ _ _ => true
  | _ => false

theorem isResult_contentPart {m : Message} {c : ContentPart} {p : Part} (h : contentPart m c = .ok p) :
    p.data.isResult = false := by
  have hmedia {url : String} {mimeType : Option String} {d : PartData}
      (hd : mediaData url mimeType = .ok d) : d.isResult = false := by
    obtain ⟨inline, -, rfl⟩ := Result.map_eq_ok hd
    cases inline <;> rfl
  cases c with
  | text t =>
    cases h
    rfl
  | _ =>
    obtain ⟨d, hd, rfl⟩ := Result.map_eq_ok h
    exact hmedia hd

theorem isResult_contentParts {m : Message} {parts : List ContentPart} {sent : List Part}
    (h : contentParts m parts = .ok sent) : ∀ p ∈ sent, p.data.isResult = false :=
  forall_mem_contentParts h (fun _ => rfl) fun _ _ => isResult_contentPart

theorem isResult_modelParts {m : Message} {sent : List Part} (h : modelParts m = .ok sent) :
    ∀ p ∈ sent, p.data.isResult = false := by
  obtain ⟨content, hcontent, h⟩ := Result.bind_eq_ok h
  obtain ⟨calls, hcalls, h⟩ := Result.bind_eq_ok h
  cases h
  intro p hp
  rcases List.mem_append.1 hp with hp | hp
  · have hdata : p.data ∈ content.map (·.data) := by
      rw [← map_data_signFirst (Extra.signature? m) content]
      exact List.mem_map_of_mem hp
    obtain ⟨q, hq, hdata⟩ := List.mem_map.1 hdata
    rw [← hdata]
    exact isResult_contentParts hcontent q hq
  · obtain ⟨c, -, hc⟩ := Result.exists_of_mem_mapM hcalls hp
    obtain ⟨args, -, rfl⟩ := Result.map_eq_ok hc
    rfl

theorem isResult_ownParts {before : List Message} {m : Message} {said : List Part} (hrole : m.role ≠ .tool)
    (h : ownParts before m = .ok said) : ∀ p ∈ said, p.data.isResult = false := by
  unfold ownParts at h
  cases hm : m.role with
  | tool => exact absurd hm hrole
  | system =>
    rw [hm] at h
    cases h
    exact List.forall_mem_nil _
  | user =>
    rw [hm] at h
    exact isResult_contentParts h
  | assistant =>
    rw [hm] at h
    exact isResult_modelParts h

def resultMessages (input : List Message) : List (List Message × Message) :=
  (spoken input).filter fun c => c.2.role = .tool

def resultsIn (sent : List Content) : List PartData :=
  ((sent.flatMap (·.parts)).map (·.data)).filter (·.isResult)

/-- The result of a tool's message says the one function it comes from. -/
def IsResultOf (c : List Message × Message) (d : PartData) : Prop :=
  ∃ name, d = resultData c.2 name ∧ ∀ n, ComesFrom c.1 c.2 n ↔ n = name

theorem isResultOf_of_resultPart {before : List Message} {m : Message} {part : Part}
    (h : resultPart (callNames before) m = .ok part) : IsResultOf (before, m) part.data := by
  obtain ⟨name, hname, rfl⟩ := resultPart_eq_ok_iff.1 h
  refine ⟨name, rfl, fun n => ?_⟩
  rw [comesFrom_iff, comesFrom_iff.1 hname, Option.some.injEq, eq_comm]

theorem filter_isResult_eq_nil {parts : List Part} (h : ∀ p ∈ parts, p.data.isResult = false) :
    (parts.map (·.data)).filter (·.isResult) = [] := by
  rw [List.filter_eq_nil_iff]
  intro d hd
  obtain ⟨p, hp, rfl⟩ := List.mem_map.1 hd
  rw [h p hp]
  exact Bool.false_ne_true

theorem results_of_ownParts {cs : List (List Message × Message)} {blocks : List (List Part)}
    (h : List.Forall₂ (fun c said => ownParts c.1 c.2 = .ok said) cs blocks) :
    List.Forall₂ IsResultOf (cs.filter fun c => c.2.role = .tool)
      ((blocks.flatten.map (·.data)).filter (·.isResult)) := by
  induction h with
  | nil => exact .nil
  | @cons c said cs blocks hc _ ih =>
    obtain ⟨before, m⟩ := c
    rw [List.flatten_cons, List.map_append, List.filter_append]
    by_cases hrole : m.role = .tool
    · rw [ownParts, hrole] at hc
      obtain ⟨part, hpart, rfl⟩ := Result.map_eq_ok hc
      have hresult := isResultOf_of_resultPart hpart
      have hkept : part.data.isResult = true := by
        obtain ⟨name, hdata, -⟩ := hresult
        rw [hdata]
        rfl
      rw [List.filter_cons, if_pos (decide_eq_true hrole), List.map_singleton,
        List.filter_cons_of_pos hkept]
      exact .cons hresult ih
    · rw [List.filter_cons, if_neg (mt of_decide_eq_true hrole),
        filter_isResult_eq_nil (isResult_ownParts hrole hc), List.nil_append]
      exact ih

theorem isOk_ownParts {m : Message} (hrole : m.role ≠ .tool) (h : (contents [m]).isOk = true)
    (hspoken : m.role ≠ .system) (before : List Message) : (ownParts before m).isOk = true := by
  have hown : ownParts before m = ownParts [] m := by
    unfold ownParts
    split <;> first | rfl | exact absurd ‹_› hrole
  obtain ⟨sent, hsent⟩ := Result.exists_ok_of_isOk h
  obtain ⟨-, blocks, -, -, hblocks, -⟩ := (contents_converts [m]).sent sent hsent
  have hmem : ([], m) ∈ spoken [m] := by simp [spoken, hspoken]
  obtain ⟨said, -, hsaid⟩ := Result.exists_of_mem_forall₂ hblocks hmem
  rw [hown, hsaid]
  rfl

/-- Every tool's message becomes the result of the one function it comes from, in order and nothing else
does, and where all other messages can be sent there is no conversation just if one of them comes from
nowhere. -/
structure Resolves (input : List Message) (result : Result (List Content)) : Prop where
  results : ∀ sent, result = .ok sent → List.Forall₂ IsResultOf (resultMessages input) (resultsIn sent)
  failed : (∀ m ∈ input, m.role ≠ .tool → (contents [m]).isOk = true) →
    ((∃ f, result = .error f) ↔ ∃ c ∈ resultMessages input, ∀ name, ¬ComesFrom c.1 c.2 name)

theorem mem_of_mem_spoken {input : List Message} {c : List Message × Message} (h : c ∈ spoken input) :
    c.2 ∈ input ∧ c.2.role ≠ .system := by
  obtain ⟨hmem, hrole⟩ := List.mem_filter.1 h
  exact ⟨(List.of_mem_zip hmem).2, of_decide_eq_true hrole⟩

theorem resultsIn_eq {input : List Message} {turns : List (Turn Side Part)} {blocks : List (List Part)}
    (hlength : (spoken input).length = blocks.length)
    (h : Turn.tagged turns = ((spoken input).zip blocks).flatMap fun r =>
      r.2.map fun b => (sideOf r.1.2.role, b)) :
    resultsIn (turns.map fun t => ⟨some t.role, t.blocks⟩) =
      (blocks.flatten.map (·.data)).filter (·.isResult) := by
  have hparts : turns.flatMap (·.blocks) = blocks.flatten := by
    have hsnd := congrArg (List.map Prod.snd) h
    simp only [Turn.tagged, List.map_flatMap, List.map_map, Function.comp_def, List.map_id'] at hsnd
    rw [hsnd, List.flatMap_def]
    exact congrArg List.flatten (List.map_snd_zip hlength.ge)
  rw [resultsIn, List.flatMap_map, hparts]

theorem resolves (input : List Message) : Resolves input (contents input) := by
  have hconverts := contents_converts input
  constructor
  · intro sent hsent
    obtain ⟨turns, blocks, rfl, -, hblocks, htagged⟩ := hconverts.sent sent hsent
    rw [resultsIn_eq hblocks.length_eq htagged]
    exact results_of_ownParts hblocks
  · intro hothers
    constructor
    · rintro ⟨f, hf⟩
      obtain ⟨earlier, c, later, hspoken, -, hc⟩ := (hconverts.failed f).1 hf
      have hmem : c ∈ spoken input := hspoken ▸ List.mem_append_right _ (List.mem_cons_self ..)
      obtain ⟨hinput, hsystem⟩ := mem_of_mem_spoken hmem
      by_cases hrole : c.2.role = .tool
      · refine ⟨c, List.mem_filter.2 ⟨hmem, decide_eq_true hrole⟩, fun name hname => ?_⟩
        rw [ownParts, hrole] at hc
        have hok := resultPart_eq_ok_iff.2 ⟨name, hname, rfl⟩
        rw [hok] at hc
        cases hc
      · have hok := isOk_ownParts hrole (hothers _ hinput hrole) hsystem c.1
        rw [hc] at hok
        cases hok
    · rintro ⟨c, hc, hnowhere⟩
      obtain ⟨hmem, hrole⟩ := List.mem_filter.1 hc
      cases hresult : contents input with
      | error f => exact ⟨f, rfl⟩
      | ok sent =>
        obtain ⟨turns, blocks, -, -, hblocks, -⟩ := hconverts.sent sent hresult
        obtain ⟨said, -, hsaid⟩ := Result.exists_of_mem_forall₂ hblocks hmem
        rw [ownParts, of_decide_eq_true hrole] at hsaid
        obtain ⟨part, hpart, -⟩ := Result.map_eq_ok hsaid
        obtain ⟨name, hname, -⟩ := resultPart_eq_ok_iff.1 hpart
        exact absurd hname (hnowhere name)

/-- The calls of a reply, each the id it is known by, which is its function's name where it has none, and
its function. -/
def Reply.calls (reply : Reply) : List (String × String) :=
  reply.parts.filterMap fun p => match p.data with
    | .functionCall id name _ => some (id.getD name, name)
    | _ => none

theorem callsIn_append (a b : List Message) : callsIn (a ++ b) = callsIn a ++ callsIn b := by
  rw [callsIn, List.filter_append, List.flatMap_append]
  rfl

theorem map_toolCalls_candidateMessage {reply : Reply} {m : Message} (h : candidateMessage reply = some m) :
    m.toolCalls.map (fun c => (c.id, c.name)) = reply.calls := by
  have hm := candidateMessage_getD reply
  rw [h, Option.getD_some] at hm
  rw [hm, (assembled_eq ..).2.2, List.map_filterMap, Reply.calls]
  refine List.filterMap_congr fun p _ => ?_
  unfold Part.toolCall?
  cases p.data <;> rfl

theorem isLatest_of_mem_calls {reply : Reply} {m : Message} (h : candidateMessage reply = some m)
    (hdistinct : (reply.calls.map (·.1)).Nodup) {id name : String} (hcall : (id, name) ∈ reply.calls)
    (before : List Message) {between : List Message} (hbetween : ∀ c ∈ callsIn between, c.id ≠ id) :
    ∃ c, IsLatest (callsIn (before ++ m :: between)) id c ∧ c.name = name := by
  rw [← map_toolCalls_candidateMessage h] at hcall hdistinct
  obtain ⟨c, hc, hpair⟩ := List.mem_map.1 hcall
  cases hpair
  refine ⟨c, ?_, rfl⟩
  obtain ⟨earlier, later, hsplit⟩ := List.append_of_mem hc
  have hcalls : callsIn [m] = m.toolCalls := by simp [callsIn, role_candidateMessage h]
  refine ⟨callsIn before ++ earlier, later ++ callsIn between, ?_, rfl, fun d hd => ?_⟩
  · rw [callsIn_append, ← List.singleton_append, callsIn_append, hcalls, hsplit]
    simp
  · rcases List.mem_append.1 hd with hd | hd
    · rw [List.map_map, hsplit, List.map_append, List.map_cons] at hdistinct
      have hnot := (List.nodup_cons.1 (List.nodup_append.1 hdistinct).2.1).1
      exact fun heq => hnot (List.mem_map.2 ⟨d, hd, heq⟩)
    · exact hbetween d hd

/-- The results in a conversation name the functions they come from, and a result that answers a call of a
reply by the call's id comes from the function that was called. -/
theorem contents_resolves (input : List Message) :
    Resolves input (contents input) ∧
    ∀ (reply : Reply) (m : Message), candidateMessage reply = some m → (reply.calls.map (·.1)).Nodup →
      ∀ (before between : List Message) (t : Message) (id name : String), (id, name) ∈ reply.calls →
        t.toolName = none → answeredId t = id → (∀ c ∈ callsIn between, c.id ≠ id) →
        ∀ n, ComesFrom (before ++ m :: between) t n ↔ n = name := by
  refine ⟨resolves input, ?_⟩
  rintro reply m hm hdistinct before between t id name hcall hunnamed rfl hbetween n
  have hlatest := get?_ofList_eq_some_iff.2 (isLatest_of_mem_calls hm hdistinct hcall before hbetween)
  rw [comesFrom_iff, hunnamed, Option.none_or, callNames_eq, hlatest, Option.some.injEq, eq_comm]

def twoCalls : Reply where
  candidates := [⟨some ⟨some .model, [(PartData.functionCall none "now" .null).part,
    (PartData.functionCall (some "1") "sum" (.obj [])).part]⟩, none, none⟩]
  usage := none
  blockReason := none

def earlierCall : Message :=
  { Message.blank .assistant with toolCalls := [.function "1" "old" "\x7b\x7d"] }

def answer (id : String) : Message :=
  { Message.blank .tool with content := "3", toolCallId := some id }

theorem contents_resolves_twoCalls :
    ∃ m, candidateMessage twoCalls = some m ∧ (twoCalls.calls.map (·.1)).Nodup ∧
      (∀ n, ComesFrom [earlierCall, m] (answer "now") n ↔ n = "now") ∧
      (∀ n, ComesFrom [earlierCall, m, answer "now"] (answer "1") n ↔ n = "sum") ∧
      ∃ f, contents [answer "1", earlierCall] = .error f := by
  refine ⟨_, rfl, by decide, ?_, ?_, ?_⟩
  · exact (contents_resolves []).2 twoCalls _ rfl (by decide) [earlierCall] [] (answer "now") "now" "now"
      (by decide) rfl rfl nofun
  · exact (contents_resolves []).2 twoCalls _ rfl (by decide) [earlierCall] [answer "now"] (answer "1") "1"
      "sum" (by decide) rfl rfl nofun
  · -- The call that comes after the result does not count.
    refine ((contents_resolves _).1.failed ?_).2 ⟨([], answer "1"), by simp [resultMessages, spoken, answer,
      Message.blank], fun name hname => ?_⟩
    · intro m hm hrole
      rcases List.mem_cons.1 hm with rfl | hm
      · exact absurd rfl hrole
      · rw [List.mem_singleton.1 hm]
        decide +kernel
    · rw [comesFrom_iff] at hname
      cases hname

end ChatRetrieval.Gemini
