import ChatRetrieval.Ark.Responses.Model
import ChatRetrieval.Proofs.Message.Join

/-!
The pieces that the events of a stream bring. All that an event leaves behind is the call it announces,
and each field of the pieces comes from one kind of event.
-/

namespace ChatRetrieval

/-- The messages that events bring when they are read with a state, failures left out. -/
def Chat.delivered {α σ : Type} (step : σ → α → Result (Option Message) × σ) (s : σ)
    (events : List α) : List Message :=
  (messagesFrom step s (events.map .ok)).filterMap (·.toOption)

namespace Ark.Responses

open Chat (delivered)

def Event.announced? : Event → Option PendingCall
  | .itemAdded (.call id callId name _) => some ⟨id.getD "", callId, name⟩
  | _ => none

def Event.text? : Event → Option String
  | .textDelta delta => some delta
  | _ => none

def Event.reasoning? : Event → Option String
  | .reasoningDelta delta => some delta
  | _ => none

/-- The piece that an event brings, if it does not fail. -/
def chunk? (s : StreamState) (e : Event) : Option Message := (onEvent s e).1.toOption.join

def noted (reply : Reply) (cache : CacheState) : Dict String Json :=
  (noteReply reply cache (.blank .assistant)).extra

theorem noteReply_eq (reply : Reply) (cache : CacheState) (m : Message) :
    noteReply reply cache m = { m with extra := m.extra.union (noted reply cache) } := by
  simp only [noted, noteReply, Extra.setExpireAt, Extra.setText, Message.setExtra]
  split <;> split <;> simp only [Dict.union_insert, Message.blank, Dict.union_empty]

theorem statusMessage_eq (reply : Reply) (cache : CacheState) (reason : String) :
    statusMessage reply reason cache = { Message.blank .assistant with
      responseMeta := some ⟨if reason.isEmpty then none else some reason,
        some (Usage.toTokenUsage reply.usage), none⟩
      extra := noted reply cache } := by
  simp only [statusMessage, noteReply_eq, Message.blank, Dict.empty_union]

theorem onEvent_state (s : StreamState) (e : Event) :
    (onEvent s e).2 = ⟨s.cache, e.announced?.or s.pending⟩ := by
  cases e with
  | itemAdded item => cases item <;> rfl
  | argumentsDelta itemId index delta =>
    simp only [onEvent]
    split
    · split <;> rfl
    · rfl
  | _ => rfl

theorem delivered_nil (s : StreamState) : delivered onEvent s [] = [] := rfl

theorem delivered_cons (s : StreamState) (e : Event) (events : List Event) :
    delivered onEvent s (e :: events) =
      (chunk? s e).toList ++ delivered onEvent ⟨s.cache, e.announced?.or s.pending⟩ events := by
  rw [← onEvent_state]
  simp only [delivered, List.map_cons, Chat.messagesFrom, chunk?]
  rcases onEvent s e with ⟨_ | _ | m, s'⟩ <;> rfl

theorem delivered_append (s : StreamState) (events more : List Event) :
    delivered onEvent s (events ++ more) = delivered onEvent s events ++
      delivered onEvent ⟨s.cache, ((events.filterMap (·.announced?)).getLast?).or s.pending⟩ more := by
  induction events generalizing s with
  | nil => rfl
  | cons e es ih =>
    rw [List.cons_append, delivered_cons, delivered_cons, ih, List.append_assoc,
      ← getLast?_filterMap_cons]

theorem role_of_chunk? {s : StreamState} {e : Event} {m : Message} (h : chunk? s e = some m) :
    m.role = .assistant := by
  cases e with
  | created reply | completed reply | incomplete reply | failed reply =>
    cases h
    simp only [statusMessage, noteReply_eq, Message.blank]
  | itemAdded item => cases item <;> cases h
  | argumentsDelta itemId index delta =>
    simp only [chunk?, onEvent] at h
    split at h
    · split at h <;> cases h
      rfl
    · cases h
  | reasoningDelta delta | textDelta delta =>
    cases h
    rfl
  | error message | other => cases h

theorem role_of_mem_delivered {s : StreamState} {events : List Event} {m : Message}
    (h : m ∈ delivered onEvent s events) : m.role = .assistant := by
  induction events generalizing s with
  | nil => cases h
  | cons e es ih =>
    rw [delivered_cons] at h
    rcases List.mem_append.1 h with h | h
    · exact role_of_chunk? (Option.mem_toList.1 h)
    · exact ih h

end Ark.Responses

end ChatRetrieval
