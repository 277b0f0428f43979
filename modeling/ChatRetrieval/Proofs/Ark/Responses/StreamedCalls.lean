import ChatRetrieval.Proofs.Ark.Responses.Chunks
import Mathlib.Data.List.Nodup

/-!
Function calls of a stream. Arguments are heard only while their call is the one announced last, so calls
whose arguments come in turn are complete and calls announced side by side are not.
-/

namespace ChatRetrieval.Ark.Responses

open Chat (delivered)

def Event.arguments? (itemId : String) : Event → Option String
  | .argumentsDelta id _ delta => if id = itemId then some delta else none
  | _ => none

def Event.addressee? : Event → Option (String × Nat)
  | .argumentsDelta itemId index _ => some (itemId, index)
  | _ => none

/-- Texts, thoughts and reports bring a piece of the message wherever they come. -/
def Event.speaks : Event → Bool
  | .created _ | .completed _ | .incomplete _ | .failed _ | .reasoningDelta _ | .textDelta _ => true
  | _ => false

structure OutputCall where
  item : PendingCall
  index : Nat

def OutputCall.toToolCall (c : OutputCall) (arguments : String) : ToolCall :=
  { ToolCall.function c.item.callId c.item.name arguments with index := some c.index }

/-- The events announce these calls in this order, and arguments come for no others. -/
structure Announces (calls : List OutputCall) (events : List Event) : Prop where
  announced : events.filterMap (·.announced?) = calls.map (·.item)
  ids : (calls.map (·.item.itemId)).Nodup
  indexes : (calls.map (·.index)).Nodup
  addressees : ∀ a ∈ events.filterMap (·.addressee?), a ∈ calls.map fun c => (c.item.itemId, c.index)

/-- Arguments come only for the call announced last before them. -/
def InTurn (events : List Event) : Prop :=
  ∀ before itemId index delta after, events = before ++ .argumentsDelta itemId index delta :: after →
    ∃ c, (before.filterMap (·.announced?)).getLast? = some c ∧ c.itemId = itemId

/-- The arguments that come for an item while it is the call announced last. -/
def heard (itemId : String) : Option PendingCall → List Event → List String
  | _, [] => []
  | last, e :: es =>
    (if last.any (·.itemId = itemId) then (e.arguments? itemId).toList else []) ++
      heard itemId (e.announced?.or last) es

theorem arguments?_of_announced {e : Event} {p : PendingCall} (h : e.announced? = some p)
    (itemId : String) : e.arguments? itemId = none := by
  cases e with
  | argumentsDelta => cases h
  | _ => rfl

theorem chunk?_of_announced {e : Event} {p : PendingCall} (h : e.announced? = some p)
    (s : StreamState) : chunk? s e = none := by
  cases e with
  | itemAdded item =>
    cases item with
    | call => rfl
    | _ => cases h
  | _ => cases h

theorem delivered_ne_nil_of_speaks {e : Event} (he : e.speaks = true) {events : List Event}
    (hmem : e ∈ events) (s : StreamState) : delivered onEvent s events ≠ [] := by
  obtain ⟨before, after, rfl⟩ := List.append_of_mem hmem
  have hchunk (s : StreamState) : (chunk? s e).toList ≠ [] := by
    cases e with
    | created | completed | incomplete | failed | reasoningDelta | textDelta =>
      exact List.cons_ne_nil _ _
    | _ => cases he
  rw [delivered_append, delivered_cons]
  intro hnil
  exact hchunk _ (List.append_eq_nil_iff.1 (List.append_eq_nil_iff.1 hnil).2).1

theorem heard_eq_nil {itemId : String} {events : List Event} {last : Option PendingCall}
    (hlast : ∀ p ∈ last, p.itemId ≠ itemId)
    (hlater : ∀ p ∈ events.filterMap (·.announced?), p.itemId ≠ itemId) :
    heard itemId last events = [] := by
  induction events generalizing last with
  | nil => rfl
  | cons e es ih =>
    have hnone : last.any (·.itemId = itemId) = false := by
      cases last with
      | none => rfl
      | some p => simpa using hlast p rfl
    have hnext : ∀ p ∈ e.announced?.or last, p.itemId ≠ itemId := by
      cases he : e.announced? with
      | none => simpa only [Option.none_or] using hlast
      | some q =>
        rw [List.filterMap_cons_some he] at hlater
        rintro p ⟨⟩
        exact hlater _ (List.mem_cons_self ..)
    have hrest : ∀ p ∈ es.filterMap (·.announced?), p.itemId ≠ itemId := by
      intro p hp
      obtain ⟨e', he', hp⟩ := List.mem_filterMap.1 hp
      exact hlater p (List.mem_filterMap.2 ⟨e', List.mem_cons_of_mem _ he', hp⟩)
    rw [heard, hnone, ih hnext hrest]
    rfl

theorem toolCalls_chunk? {cache : CacheState} {last : Option OutputCall} {e : Event}
    (hindex : ∀ itemId index delta, e = .argumentsDelta itemId index delta →
      ∀ c ∈ last, c.item.itemId = itemId → c.index = index) :
    (chunk? ⟨cache, last.map (·.item)⟩ e).toList.flatMap (·.toolCalls) =
      last.toList.flatMap fun c => (e.arguments? c.item.itemId).toList.map c.toToolCall := by
  have hsilent (hnone : ∀ itemId, e.arguments? itemId = none) :
      (last.toList.flatMap fun c => (e.arguments? c.item.itemId).toList.map c.toToolCall) = [] :=
    List.flatMap_eq_nil_iff.2 fun c _ => by rw [hnone]; rfl
  cases e with
  | created reply | completed reply | incomplete reply | failed reply =>
    rw [hsilent fun _ => rfl]
    simp only [chunk?, onEvent, statusMessage, noteReply_eq]
    rfl
  | itemAdded item =>
    rw [hsilent fun _ => rfl]
    cases item <;> rfl
  | argumentsDelta itemId index delta =>
    cases last with
    | none => rfl
    | some c =>
      by_cases hc : c.item.itemId = itemId
      · obtain rfl := hindex itemId index delta rfl c rfl hc
        simp [chunk?, onEvent, Event.arguments?, hc, Except.toOption, Message.assistant,
          OutputCall.toToolCall]
      · simp [chunk?, onEvent, Event.arguments?, hc, Ne.symm hc, Except.toOption]
  | reasoningDelta delta | textDelta delta | error message | other =>
    rw [hsilent fun _ => rfl]
    rfl

def heardCalls (last : Option OutputCall) (events : List Event) (calls : List OutputCall) :
    List ToolCall :=
  calls.flatMap fun c => (heard c.item.itemId (last.map (·.item)) events).map c.toToolCall

section

variable {last : Option OutputCall} {e : Event} {es : List Event} {calls : List OutputCall}

theorem heardCalls_announced {c : OutputCall} (he : e.announced? = some c.item)
    (hcalls : es.filterMap (·.announced?) = calls.map (·.item))
    (hids : ((last.toList ++ c :: calls).map (·.item.itemId)).Nodup) :
    heardCalls last (e :: es) (last.toList ++ c :: calls) = heardCalls (some c) es (c :: calls) := by
  rw [List.map_append, List.nodup_append] at hids
  have hheard : ∀ l ∈ last.toList, (heard l.item.itemId (some c.item) es).map l.toToolCall = [] := by
    intro l hl
    have hne : ∀ d ∈ c :: calls, d.item.itemId ≠ l.item.itemId := fun d hd heq =>
      hids.2.2 _ (List.mem_map_of_mem hl) _ (List.mem_map_of_mem hd) heq.symm
    rw [heard_eq_nil, List.map_nil]
    · rintro q ⟨⟩
      exact hne c (List.mem_cons_self ..)
    · intro q hq
      rw [hcalls] at hq
      obtain ⟨d, hd, rfl⟩ := List.mem_map.1 hq
      exact hne d (List.mem_cons_of_mem _ hd)
  have hstep (itemId : String) : heard itemId (last.map (·.item)) (e :: es) =
      heard itemId (some c.item) es := by
    rw [heard, he, arguments?_of_announced he]
    split <;> rfl
  simp only [heardCalls, hstep, Option.map_some]
  rw [List.flatMap_append, List.flatMap_eq_nil_iff.2 hheard, List.nil_append]

theorem heardCalls_silent (he : e.announced? = none)
    (hids : ((last.toList ++ calls).map (·.item.itemId)).Nodup) :
    heardCalls last (e :: es) (last.toList ++ calls) =
      (last.toList.flatMap fun c => (e.arguments? c.item.itemId).toList.map c.toToolCall) ++
        heardCalls last es (last.toList ++ calls) := by
  have hother : ∀ c ∈ calls, heard c.item.itemId (last.map (·.item)) (e :: es) =
      heard c.item.itemId (last.map (·.item)) es := by
    intro c hc
    have hnone : (last.map (·.item)).any (·.itemId = c.item.itemId) = false := by
      cases last with
      | none => rfl
      | some l =>
        rw [List.map_append, List.nodup_append] at hids
        simpa using hids.2.2 _ (List.mem_singleton_self _) _ (List.mem_map_of_mem hc)
    rw [heard, hnone, he]
    rfl
  have hcalls : heardCalls last (e :: es) calls = heardCalls last es calls := by
    simp only [heardCalls, List.flatMap_def]
    rw [List.map_congr_left fun c hc => congrArg (List.map c.toToolCall) (hother c hc)]
  have happend (events : List Event) : heardCalls last events (last.toList ++ calls) =
      heardCalls last events last.toList ++ heardCalls last events calls := List.flatMap_append
  rw [happend, happend, hcalls, ← List.append_assoc]
  congr 1
  cases last with
  | none => rfl
  | some l =>
    have hhead : heard l.item.itemId (some l.item) (e :: es) =
        (e.arguments? l.item.itemId).toList ++ heard l.item.itemId (some l.item) es := by
      simp only [heard, Option.any_some, decide_true, if_true, he, Option.none_or]
    simp only [heardCalls, Option.map_some, Option.toList_some, List.flatMap_singleton, hhead,
      List.map_append]

end

/-- The pieces of calls that are delivered are those heard. -/
theorem toolCalls_delivered {cache : CacheState} {events : List Event} {last : Option OutputCall}
    {calls : List OutputCall} (hcalls : events.filterMap (·.announced?) = calls.map (·.item))
    (hids : ((last.toList ++ calls).map (·.item.itemId)).Nodup)
    (hdeltas : ∀ itemId index delta, .argumentsDelta itemId index delta ∈ events →
      ∀ c ∈ last.toList ++ calls, c.item.itemId = itemId → c.index = index) :
    (delivered onEvent ⟨cache, last.map (·.item)⟩ events).flatMap (·.toolCalls) =
      heardCalls last events (last.toList ++ calls) := by
  induction events generalizing last calls with
  | nil =>
    rw [delivered_nil, List.flatMap_nil, eq_comm, heardCalls, List.flatMap_eq_nil_iff]
    intro c _
    rfl
  | cons e es ih =>
    have hrest : ∀ itemId index delta, .argumentsDelta itemId index delta ∈ es →
        ∀ c ∈ last.toList ++ calls, c.item.itemId = itemId → c.index = index :=
      fun itemId index delta hmem => hdeltas itemId index delta (List.mem_cons_of_mem _ hmem)
    rw [delivered_cons, List.flatMap_append]
    cases he : e.announced? with
    | some p =>
      rw [List.filterMap_cons_some he] at hcalls
      obtain ⟨c, cs, rfl, rfl, hcs⟩ : ∃ c cs, calls = c :: cs ∧ c.item = p ∧
          es.filterMap (·.announced?) = cs.map (·.item) := by
        cases calls with
        | nil => cases hcalls
        | cons c cs =>
          obtain ⟨hc, hcs⟩ := List.cons.inj hcalls
          exact ⟨c, cs, rfl, hc.symm, hcs⟩
      have hlater : ((c :: cs).map (·.item.itemId)).Nodup := by
        rw [List.map_append] at hids
        exact hids.of_append_right
      rw [heardCalls_announced he hcs hids, chunk?_of_announced he]
      exact @ih (some c) cs hcs hlater fun itemId index delta hmem d hd =>
        hrest itemId index delta hmem d (List.mem_append_right _ hd)
    | none =>
      rw [List.filterMap_cons_none he] at hcalls
      rw [Option.none_or, ih hcalls hids hrest, heardCalls_silent he hids]
      congr 1
      exact toolCalls_chunk? fun itemId index delta hdelta c hc =>
        hdeltas itemId index delta (hdelta ▸ List.mem_cons_self ..) c
          (List.mem_append_left _ (Option.mem_toList.2 hc))

theorem OutputCall.foldl_continued (c : OutputCall) (first : String) (rest : List String) :
    (rest.map c.toToolCall).foldl ToolCall.continued (c.toToolCall first) =
      c.toToolCall (first ++ String.join rest) := by
  induction rest generalizing first with
  | nil => simp
  | cons t ts ih =>
    have hstep : (c.toToolCall first).continued (c.toToolCall t) = c.toToolCall (first ++ t) := by
      simp [ToolCall.continued, OutputCall.toToolCall, ToolCall.function, firstNonEmpty_self]
    rw [List.map_cons, List.foldl_cons, hstep, ih, String.join_cons, String.append_assoc]

theorem merge_pieces {calls : List OutputCall} (hindexes : (calls.map (·.index)).Nodup)
    (pieces : OutputCall → List String) :
    ToolCall.merge (calls.flatMap fun c => (pieces c).map c.toToolCall) =
      (calls.filter fun c => pieces c ≠ []).map fun c => c.toToolCall (String.join (pieces c)) := by
  induction calls with
  | nil => rfl
  | cons c cs ih =>
    rw [List.map_cons, List.nodup_cons] at hindexes
    have hrest := ih hindexes.2
    cases hc : pieces c with
    | nil => simpa [hc] using hrest
    | cons first rest =>
      have hown : ∀ p ∈ rest.map c.toToolCall, p.index = some c.index := by
        intro p hp
        obtain ⟨t, _, rfl⟩ := List.mem_map.1 hp
        rfl
      have hother : ∀ p ∈ cs.flatMap (fun d => (pieces d).map d.toToolCall),
          p.index ≠ some c.index := by
        intro p hp hpc
        obtain ⟨d, hd, hp⟩ := List.mem_flatMap.1 hp
        obtain ⟨t, _, rfl⟩ := List.mem_map.1 hp
        exact hindexes.1 (Option.some.inj hpc ▸ List.mem_map_of_mem hd)
      have hkeep : (rest.map c.toToolCall ++ cs.flatMap fun d => (pieces d).map d.toToolCall).filter
          (fun p => p.index == some c.index) = rest.map c.toToolCall := by
        rw [List.filter_append, List.filter_eq_self.2 fun p hp => beq_iff_eq.2 (hown p hp),
          List.filter_eq_nil_iff.2 fun p hp => mt beq_iff_eq.1 (hother p hp), List.append_nil]
      have hleave : (rest.map c.toToolCall ++ cs.flatMap fun d => (pieces d).map d.toToolCall).filter
          (fun p => p.index != some c.index) = cs.flatMap fun d => (pieces d).map d.toToolCall := by
        rw [List.filter_append, List.filter_eq_self.2 fun p hp => bne_iff_ne.2 (hother p hp),
          List.filter_eq_nil_iff.2 fun p hp => by simp [hown p hp], List.nil_append]
      rw [List.flatMap_cons, hc, List.map_cons, List.cons_append,
        ToolCall.merge_cons_of_some (show (c.toToolCall first).index = some c.index from rfl),
        hkeep, hleave, hrest, c.foldl_continued]
      simp [hc]

theorem heard_eq_arguments {itemId : String} {events : List Event} {last : Option PendingCall}
    (h : ∀ before index delta after, events = before ++ .argumentsDelta itemId index delta :: after →
      ∃ c, ((before.filterMap (·.announced?)).getLast?).or last = some c ∧ c.itemId = itemId) :
    heard itemId last events = events.filterMap (·.arguments? itemId) := by
  induction events generalizing last with
  | nil => rfl
  | cons e es ih =>
    have hrest := @ih (e.announced?.or last) fun before index delta after hes => by
      rw [← getLast?_filterMap_cons]
      exact h (e :: before) index delta after (hes ▸ rfl)
    rw [heard, hrest]
    cases ha : e.arguments? itemId with
    | none => rw [List.filterMap_cons_none ha, Option.toList_none, ite_self, List.nil_append]
    | some delta =>
      obtain ⟨index, rfl⟩ : ∃ index, e = .argumentsDelta itemId index delta := by
        cases e with
        | argumentsDelta id index d =>
          simp only [Event.arguments?] at ha
          split at ha
          · rename_i hid
            cases ha
            exact ⟨index, hid ▸ rfl⟩
          · cases ha
        | _ => cases ha
      obtain ⟨c, hlast, hc⟩ := h [] index delta es rfl
      rw [List.filterMap_cons_some ha, show last = some c from hlast]
      simp only [Option.any_some, hc, decide_true, if_true, Option.toList_some,
        List.singleton_append]

section

variable {cache : CacheState} {calls : List OutputCall} {events : List Event}

/-- A call with the arguments that are heard for it, and with all that come for it. -/
def OutputCall.asHeard (events : List Event) (c : OutputCall) : ToolCall :=
  c.toToolCall (String.join (heard c.item.itemId none events))

def OutputCall.complete (events : List Event) (c : OutputCall) : ToolCall :=
  c.toToolCall (String.join (events.filterMap (·.arguments? c.item.itemId)))

theorem merge_delivered (h : Announces calls events) :
    ToolCall.merge ((delivered onEvent ⟨cache, none⟩ events).flatMap (·.toolCalls)) =
      (calls.filter fun c => heard c.item.itemId none events ≠ []).map (·.asHeard events) := by
  have hpieces := @toolCalls_delivered cache events none calls h.announced h.ids
    fun itemId index delta hmem c hc hid => by
      obtain ⟨d, hd, hplace⟩ := List.mem_map.1
        (h.addressees (itemId, index) (List.mem_filterMap.2 ⟨_, hmem, rfl⟩))
      obtain ⟨hdid, hindex⟩ := Prod.mk.inj hplace
      -- Ids are distinct, so the call that the arguments are for is this one.
      obtain rfl : d = c := List.inj_on_of_nodup_map h.ids hd hc (hdid.trans hid.symm)
      exact hindex
  rw [Option.map_none] at hpieces
  rw [hpieces]
  exact merge_pieces h.indexes _

theorem Announces.delivered_ne_nil (h : Announces calls events)
    (hsome : (∃ e ∈ events, e.speaks) ∨ ∃ c ∈ calls, heard c.item.itemId none events ≠ []) :
    delivered onEvent ⟨cache, none⟩ events ≠ [] := by
  rcases hsome with ⟨e, hmem, he⟩ | ⟨c, hc, hheard⟩
  · exact delivered_ne_nil_of_speaks he hmem _
  · intro hnil
    have hcalls := @merge_delivered cache calls events h
    rw [hnil, eq_comm] at hcalls
    have hnone := List.filter_eq_nil_iff.1 (List.map_eq_nil_iff.1 hcalls) c hc
    exact hnone (decide_eq_true hheard)

/-- The calls of a streamed reply are those for which arguments are heard, in the order in which they
are announced. They are all there and complete just when every one is heard in full, as it is when
arguments come in turn. -/
theorem concat_announced (h : Announces calls events)
    (hsome : (∃ e ∈ events, e.speaks) ∨ ∃ c ∈ calls, heard c.item.itemId none events ≠ []) :
    ∃ m, Message.concat (delivered onEvent ⟨cache, none⟩ events) = .ok m ∧
      m.toolCalls =
        (calls.filter fun c => heard c.item.itemId none events ≠ []).map (·.asHeard events) ∧
      (m.toolCalls = calls.map (·.complete events) ↔
        ∀ c ∈ calls, heard c.item.itemId none events ≠ [] ∧ c.asHeard events = c.complete events) ∧
      (InTurn events → (∀ c ∈ calls, events.filterMap (·.arguments? c.item.itemId) ≠ []) →
        m.toolCalls = calls.map (·.complete events)) := by
  have hconcat := Message.concat_eq_foldl_join (@Announces.delivered_ne_nil cache _ _ h hsome)
    fun m hm => role_of_mem_delivered hm
  rw [Message.foldl_join_blank] at hconcat
  have hcalls := @merge_delivered cache calls events h
  have hiff : (calls.filter fun c => heard c.item.itemId none events ≠ []).map (·.asHeard events) =
        calls.map (·.complete events) ↔
      ∀ c ∈ calls, heard c.item.itemId none events ≠ [] ∧ c.asHeard events = c.complete events := by
    constructor
    · intro heq
      have hlength := congrArg List.length heq
      rw [List.length_map, List.length_map] at hlength
      have hall := List.length_filter_eq_length_iff.1 hlength
      rw [List.filter_eq_self.2 hall, List.map_inj_left] at heq
      exact fun c hc => ⟨of_decide_eq_true (hall c hc), heq c hc⟩
    · intro hall
      rw [List.filter_eq_self.2 fun c hc => decide_eq_true (hall c hc).1]
      exact List.map_congr_left fun c hc => (hall c hc).2
  refine ⟨_, hconcat, hcalls, ?_, fun hturn hdeltas => ?_⟩
  · rw [← hiff, ← hcalls]
    rfl
  · refine hcalls.trans (hiff.2 fun c hc => ?_)
    have hheard : heard c.item.itemId none events =
        events.filterMap (·.arguments? c.item.itemId) :=
      heard_eq_arguments fun before index delta after heq => by
        simpa only [Option.or_none] using hturn before _ index delta after heq
    rw [OutputCall.asHeard, OutputCall.complete, hheard]
    exact ⟨hdeltas c hc, rfl⟩

def twoCalls : List OutputCall := [⟨⟨"fc_1", "call_1", "f"⟩, 0⟩, ⟨⟨"fc_2", "call_2", "g"⟩, 1⟩]

def turns : List Event := [
  .itemAdded (.call (some "fc_1") "call_1" "f" ""), .argumentsDelta "fc_1" 0 "[",
  .textDelta "so", .argumentsDelta "fc_1" 0 "]",
  .itemAdded (.call (some "fc_2") "call_2" "g" ""), .argumentsDelta "fc_2" 1 "\x7b\x7d"]

def sideBySide : List Event := [
  .itemAdded (.call (some "fc_1") "call_1" "f" ""), .itemAdded (.call (some "fc_2") "call_2" "g" ""),
  .argumentsDelta "fc_1" 0 "\x7b\x7d", .argumentsDelta "fc_2" 1 "\x7b\x7d"]

theorem concat_announced_turns :
    Announces twoCalls turns ∧ (∃ e ∈ turns, e.speaks) ∧
    ∃ m, Message.concat (delivered onEvent ⟨⟨false, none⟩, none⟩ turns) = .ok m ∧
      m.toolCalls = twoCalls.map (·.complete turns) := by
  have h : Announces twoCalls turns := ⟨rfl, by decide, by decide, by decide⟩
  have hsome : ∃ e ∈ turns, e.speaks := by decide
  obtain ⟨m, hm, -, hiff, -⟩ := concat_announced h (.inl hsome)
  exact ⟨h, hsome, m, hm, hiff.2 (by decide)⟩

theorem concat_sideBySide :
    Announces twoCalls sideBySide ∧
    ∃ m, Message.concat (delivered onEvent ⟨⟨false, none⟩, none⟩ sideBySide) = .ok m ∧
      m.toolCalls = [⟨some 1, "call_2", "function", "g", "\x7b\x7d", Dict.empty⟩] ∧
      m.toolCalls ≠ twoCalls.map (·.complete sideBySide) := by
  have h : Announces twoCalls sideBySide := ⟨rfl, by decide, by decide, by decide⟩
  have hm : Message.concat (delivered onEvent ⟨⟨false, none⟩, none⟩ sideBySide) =
      .ok (.assistant "" [⟨some 1, "call_2", "function", "g", "\x7b\x7d", Dict.empty⟩]) := by
    rfl
  exact ⟨h, _, hm, rfl, by decide⟩

end

end ChatRetrieval.Ark.Responses
