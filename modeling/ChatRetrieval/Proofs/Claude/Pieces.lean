import ChatRetrieval.Proofs.Claude.Streaming

/-!
What the events of a stream bring, in whatever order they come. Thoughts and signatures come with deltas of
their own, the calls of tools with the starts of their blocks and with pieces of their inputs.
-/

namespace ChatRetrieval.Claude

namespace Event

def fails : Event → Bool
  | error _ _ => true
  | _ => false

def reports : Event → Bool
  | messageDelta _ _ => true
  | _ => false

def delta? : Event → Option Delta
  | blockDelta _ delta => some delta
  | _ => none

def thinking? (e : Event) : Option String := e.delta?.bind (·.thinking?)

def signature? (e : Event) : Option String := e.delta?.bind (·.signature?)

def toolCall? : Event → Option ToolCall
  | blockStart index (.toolUse id name _) =>
    some { ToolCall.function id name "" with index := some index }
  | blockDelta index (.inputJson piece) => some ⟨some index, "", "", "", piece, Dict.empty⟩
  | _ => none

end Event

/-- The pieces of a message hold what the events bring. -/
structure Brought (events : List Event) (pieces : List Message) : Prop where
  role : ∀ m ∈ pieces, m.role = .assistant
  reasoning : String.join (pieces.map (·.reasoning)) = String.join (events.filterMap (·.thinking?))
  toolCalls : pieces.flatMap (·.toolCalls) = events.filterMap (·.toolCall?)
  extra : ∀ d, (pieces.map (·.extra)).foldl Dict.union d =
    sign d (events.filterMap (·.signature?))
  report : (∃ e ∈ events, e.reports) → pieces ≠ []

namespace Brought

theorem nil : Brought [] [] where
  role := fun _ h => absurd h List.not_mem_nil
  reasoning := rfl
  toolCalls := rfl
  extra := fun _ => rfl
  report := fun ⟨_, h, _⟩ => absurd h List.not_mem_nil

theorem append {events more : List Event} {pieces rest : List Message} (h : Brought events pieces)
    (hrest : Brought more rest) : Brought (events ++ more) (pieces ++ rest) where
  role := fun m hm => (List.mem_append.1 hm).elim (h.role m) (hrest.role m)
  reasoning := by
    simp only [List.map_append, List.filterMap_append, String.join_append, h.reasoning,
      hrest.reasoning]
  toolCalls := by
    rw [List.flatMap_append, List.filterMap_append, h.toolCalls, hrest.toolCalls]
  extra := fun d => by
    rw [List.map_append, List.foldl_append, h.extra, hrest.extra, List.filterMap_append,
      sign_append]
  report := fun ⟨e, hmem, he⟩ hnil => by
    obtain ⟨rfl, rfl⟩ := List.append_eq_nil_iff.1 hnil
    rcases List.mem_append.1 hmem with hmem | hmem
    · exact h.report ⟨e, hmem, he⟩ rfl
    · exact hrest.report ⟨e, hmem, he⟩ rfl

theorem silent {e : Event} (hthinking : e.thinking? = none) (hsignature : e.signature? = none)
    (hcall : e.toolCall? = none) (hreport : e.reports = false) : Brought [e] [] where
  role := fun _ h => absurd h List.not_mem_nil
  reasoning := by rw [List.filterMap_cons_none hthinking]; rfl
  toolCalls := by rw [List.filterMap_cons_none hcall]; rfl
  extra := fun d => by rw [List.filterMap_cons_none hsignature]; rfl
  report := fun ⟨f, hmem, hf⟩ => by
    rw [List.mem_singleton.1 hmem, hreport] at hf
    cases hf

theorem piece {e : Event} {m : Message} (hrole : m.role = .assistant)
    (hthinking : m.reasoning = e.thinking?.getD "") (hcall : m.toolCalls = e.toolCall?.toList)
    (hsignature : m.extra = sign .empty e.signature?.toList) :
    Brought [e] [m] where
  role := fun n hn => List.mem_singleton.1 hn ▸ hrole
  reasoning := by
    rw [List.map_singleton, hthinking]
    cases ht : e.thinking? <;> simp [ht]
  toolCalls := by
    rw [List.flatMap_singleton, hcall]
    cases hc : e.toolCall? <;> simp [hc]
  extra := fun d => by
    rw [List.map_singleton, List.foldl_cons, List.foldl_nil, hsignature]
    cases hs : e.signature? with
    | none => simp [hs, sign]
    | some s => simp [hs, sign, Dict.union_insert]
  report := fun _ => List.cons_ne_nil _ _

end Brought

/-- An event that does not fail leaves a piece of what it brings, or nothing if that is nothing. -/
theorem brought_onEvent (usage : Usage) {e : Event} (he : e.fails = false) :
    ∃ piece, (onEvent usage e).1 = .ok piece ∧ Brought [e] piece.toList := by
  cases e with
  | messageStart reply => exact ⟨none, rfl, .silent rfl rfl rfl rfl⟩
  | blockStart index block =>
    refine ⟨_, rfl, ?_⟩
    cases block with
    | text t =>
      simp only [startMessage]
      split
      · exact .silent rfl rfl rfl rfl
      · exact .piece rfl rfl rfl rfl
    | toolUse id name input => exact .piece rfl rfl rfl rfl
    | thinking | other => exact .silent rfl rfl rfl rfl
  | blockDelta index delta =>
    refine ⟨_, rfl, ?_⟩
    cases delta with
    | other => exact .silent rfl rfl rfl rfl
    | _ => exact .piece rfl rfl rfl rfl
  | messageDelta reason more => exact ⟨_, rfl, .piece rfl rfl rfl rfl⟩
  | error => cases he
  | other => exact ⟨none, rfl, .silent rfl rfl rfl rfl⟩

theorem messagesFrom_brought {events : List Event} (h : ∀ e ∈ events, e.fails = false)
    (usage : Usage) :
    ∃ pieces, Chat.messagesFrom onEvent usage (events.map .ok) = pieces.map .ok ∧
      Brought events pieces := by
  induction events generalizing usage with
  | nil => exact ⟨[], rfl, .nil⟩
  | cons e es ih =>
    obtain ⟨piece, hpiece, hbrought⟩ := brought_onEvent usage (h e (List.mem_cons_self ..))
    obtain ⟨pieces, hpieces, hrest⟩ :=
      ih (fun e he => h e (List.mem_cons_of_mem _ he)) (onEvent usage e).2
    refine ⟨piece.toList ++ pieces, ?_, hbrought.append hrest⟩
    have hstep : onEvent usage e = (.ok piece, (onEvent usage e).2) := Prod.ext hpiece rfl
    rw [List.map_cons, Chat.messagesFrom, hstep, List.map_append, ← hpieces]
    cases piece <;> rfl

/-- The events come to this message. -/
def Streamed (events : List Event) (m : Message) : Prop :=
  ∃ pieces, Chat.messagesFrom onEvent .zero (events.map .ok) = pieces.map .ok ∧
    Message.concat pieces = .ok m

theorem Streamed.unique {events : List Event} {a b : Message} (ha : Streamed events a)
    (hb : Streamed events b) : a = b := by
  obtain ⟨pieces, hpieces, ha⟩ := ha
  obtain ⟨others, hothers, hb⟩ := hb
  have hsame : pieces = others :=
    (List.map_inj_right fun _ _ => Except.ok.inj).1 (hpieces.symm.trans hothers)
  rw [hsame] at ha
  exact Except.ok.inj (ha.symm.trans hb)

/-- A stream that does not fail and comes to its report. -/
structure Complete (events : List Event) : Prop where
  succeeds : ∀ e ∈ events, e.fails = false
  reports : ∃ e ∈ events, e.reports

/-- A message put together from what the events bring. -/
structure Assembled (events : List Event) (m : Message) : Prop where
  role : m.role = .assistant
  reasoning : m.reasoning = String.join (events.filterMap (·.thinking?))
  toolCalls : m.toolCalls = ToolCall.merge (events.filterMap (·.toolCall?))
  extra : m.extra = sign .empty (events.filterMap (·.signature?))

theorem Complete.exists_streamed {events : List Event} (h : Complete events) :
    ∃ m, Streamed events m ∧ Assembled events m := by
  obtain ⟨pieces, hpieces, hbrought⟩ := messagesFrom_brought h.succeeds .zero
  refine ⟨Message.merged .assistant pieces, ⟨pieces, hpieces, ?_⟩, rfl, hbrought.reasoning, ?_,
    hbrought.extra .empty⟩
  · rw [Message.concat_eq_foldl_join (hbrought.report h.reports) hbrought.role,
      Message.foldl_join_blank]
  · rw [Message.merged, hbrought.toolCalls]

theorem Streamed.assembled {events : List Event} {m : Message} (h : Streamed events m)
    (hcomplete : Complete events) : Assembled events m := by
  obtain ⟨n, hn, hassembled⟩ := hcomplete.exists_streamed
  exact h.unique hn ▸ hassembled

end ChatRetrieval.Claude
