import ChatRetrieval.Claude.Input
import ChatRetrieval.Gemini.Input
import ChatRetrieval.Proofs.Message.Turns
import ChatRetrieval.Proofs.Result
import Mathlib.Data.List.Infix

/-!
Conversations message by message. Instructions stand apart; every other message adds what it says by
itself, which may depend on the messages before it, and the first one that cannot be converted fails
the whole conversation. The turns that come of it are in normal form.
-/

namespace ChatRetrieval

/-- The messages that are no instructions, each with the messages before it. -/
def spoken (input : List Message) : List (List Message × Message) :=
  (input.inits.zip input).filter fun c => c.2.role ≠ .system

def spokenAfter (before input : List Message) : List (List Message × Message) :=
  ((input.inits.map (before ++ ·)).zip input).filter fun c => c.2.role ≠ .system

theorem spokenAfter_nil (input : List Message) : spokenAfter [] input = spoken input := by
  simp only [spokenAfter, spoken, List.nil_append, List.map_id']

theorem spokenAfter_cons_of_system {m : Message} (h : m.role = .system)
    (before rest : List Message) :
    spokenAfter before (m :: rest) = spokenAfter (before ++ [m]) rest := by
  simp [spokenAfter, h, Function.comp_def]

theorem spokenAfter_cons {m : Message} (h : m.role ≠ .system) (before rest : List Message) :
    spokenAfter before (m :: rest) = (before, m) :: spokenAfter (before ++ [m]) rest := by
  simp [spokenAfter, h, Function.comp_def]

namespace Turn

/-- Turns that hold, in normal form and in order, what each message says by itself. Where one of the
messages says nothing that can be sent, the first such message tells why. -/
structure Converts {ρ β γ : Type} (make : Turn ρ β → γ) (side : Role → ρ)
    (own : List Message → Message → Result (List β)) (input : List Message)
    (result : Result (List γ)) : Prop where
  sent : ∀ sent, result = .ok sent → ∃ turns blocks, sent = turns.map make ∧ IsNormal turns ∧
    List.Forall₂ (fun c said => own c.1 c.2 = .ok said) (spoken input) blocks ∧
    tagged turns = ((spoken input).zip blocks).flatMap fun r =>
      r.2.map fun b => (side r.1.2.role, b)
  failed : ∀ f, result = .error f ↔ ∃ earlier c later, spoken input = earlier ++ c :: later ∧
    (∀ d ∈ earlier, (own d.1 d.2).isOk = true) ∧ own c.1 c.2 = .error f

variable {ρ β γ : Type} [DecidableEq ρ]

theorem Converts.of_mapM {make : Turn ρ β → γ} {side : Role → ρ}
    {own : List Message → Message → Result (List β)} {input : List Message}
    {result : Result (List γ)}
    (h : result = ((spoken input).mapM fun c => (own c.1 c.2).map (Prod.mk (side c.2.role))).map
      fun said => (ofMessages said).map make) : Converts make side own input result := by
  rw [Result.mapM_map_mk] at h
  subst h
  constructor
  · intro sent h
    obtain ⟨said, hsaid, rfl⟩ := Result.map_eq_ok h
    obtain ⟨blocks, hblocks, rfl⟩ := Result.map_eq_ok hsaid
    refine ⟨_, blocks, rfl, isNormal_ofMessages _, Result.mapM_eq_ok_iff.1 hblocks, ?_⟩
    rw [tagged_ofMessages, List.zip_map_left, List.flatMap_map]
    rfl
  · intro f
    rw [Result.map_eq_error_iff, Result.map_eq_error_iff, Result.mapM_eq_error_iff]

end Turn

namespace Claude

def sideOf : Role → Side
  | .assistant => .assistant
  | _ => .user

def ownBlocks (m : Message) : Result (List Block) :=
  match m.role with
  | .system => .ok []
  | .user => contentBlocks m.userParts m.content
  | .assistant => assistantBlocks m
  | .tool => .ok [.toolResult (m.toolCallId.getD "") m.content false]

theorem said_of_system {m : Message} (h : m.role = .system) : said m = .ok none := by
  rw [said, h]

theorem said_of_ne_system {m : Message} (h : m.role ≠ .system) :
    said m = (ownBlocks m).map fun blocks => some (sideOf m.role, blocks) := by
  unfold said ownBlocks
  cases hrole : m.role with
  | system => exact absurd hrole h
  | _ => rfl

theorem mapM_said (before input : List Message) :
    (input.mapM said).map (·.filterMap id) =
      (spokenAfter before input).mapM fun c => (ownBlocks c.2).map (Prod.mk (sideOf c.2.role)) := by
  induction input generalizing before with
  | nil => rfl
  | cons m rest ih =>
    rw [List.mapM_cons]
    by_cases hrole : m.role = .system
    · rw [spokenAfter_cons_of_system hrole, ← ih (before ++ [m]), said_of_system hrole,
        Result.ok_bind]
      cases rest.mapM said <;> rfl
    · rw [spokenAfter_cons hrole, List.mapM_cons, ← ih (before ++ [m]), said_of_ne_system hrole]
      cases ownBlocks m with
      | error f => rfl
      | ok blocks => cases rest.mapM said <;> rfl

theorem inputMessages_converts (input : List Message) :
    Turn.Converts (fun t => (⟨t.role, t.blocks⟩ : InputMessage)) sideOf (fun _ m => ownBlocks m)
      input (inputMessages input) := by
  refine Turn.Converts.of_mapM ?_
  have hsaid := mapM_said [] input
  rw [spokenAfter_nil] at hsaid
  rw [← hsaid, inputMessages]
  cases input.mapM said <;> rfl

end Claude

namespace Gemini

def sideOf : Role → Side
  | .assistant => .model
  | _ => .user

/-- The function names of the calls in earlier messages, by call id; of several under one id the last
one counts. -/
def callNames (before : List Message) : CallNames :=
  .ofList ((before.filter fun m => m.role = .assistant).flatMap fun m =>
    m.toolCalls.map fun c => (c.id, c.name))

def ownParts (before : List Message) (m : Message) : Result (List Part) :=
  match m.role with
  | .system => .ok []
  | .user => contentParts m m.userParts
  | .assistant => modelParts m
  | .tool => (resultPart (callNames before) m).map fun part => [part]

theorem callNames_concat (before : List Message) (m : Message) :
    callNames (before ++ [m]) = if m.role = .assistant
      then (callNames before).insertMany (m.toolCalls.map fun c => (c.id, c.name))
      else callNames before := by
  unfold callNames Dict.ofList Dict.insertMany
  rw [List.filter_append, List.flatMap_append, List.foldl_append]
  split <;> rename_i hrole <;> simp [hrole]

theorem said_cons {m : Message} (h : m.role ≠ .system) (before rest : List Message) :
    said (callNames before) (m :: rest) = do
      let own ← (ownParts before m).map (Prod.mk (sideOf m.role))
      let more ← said (callNames (before ++ [m])) rest
      return own :: more := by
  rw [callNames_concat, said]
  unfold ownParts
  cases hrole : m.role with
  | system => exact absurd hrole h
  | user => cases contentParts m m.userParts <;> rfl
  | assistant => cases modelParts m <;> rfl
  | tool => cases resultPart (callNames before) m <;> rfl

theorem said_of_callNames (before input : List Message) :
    said (callNames before) input =
      (spokenAfter before input).mapM fun c =>
        (ownParts c.1 c.2).map (Prod.mk (sideOf c.2.role)) := by
  induction input generalizing before with
  | nil => rfl
  | cons m rest ih =>
    by_cases hrole : m.role = .system
    · have hnames : callNames (before ++ [m]) = callNames before := by simp [callNames_concat, hrole]
      rw [spokenAfter_cons_of_system hrole, ← ih (before ++ [m]), hnames, said, hrole]
    · rw [said_cons hrole, spokenAfter_cons hrole, List.mapM_cons, ih (before ++ [m])]

theorem contents_converts (input : List Message) :
    Turn.Converts (fun t => (⟨some t.role, t.blocks⟩ : Content)) sideOf ownParts input
      (contents input) := by
  refine Turn.Converts.of_mapM ?_
  have hsaid := said_of_callNames [] input
  rw [spokenAfter_nil] at hsaid
  rw [← hsaid]
  rfl

end Gemini

/-- Claude and Gemini conversations alike: their turns alternate, none is empty, and what they say is
what the messages say one by one, for the user's side those of users and tools and for the model's
side its own; the first message that cannot be converted tells why there are no turns. -/
theorem turns_of_messages (input : List Message) :
    Turn.Converts (fun t => (⟨t.role, t.blocks⟩ : Claude.InputMessage)) Claude.sideOf
      (fun _ m => Claude.ownBlocks m) input (Claude.inputMessages input) ∧
    Turn.Converts (fun t => (⟨some t.role, t.blocks⟩ : Gemini.Content)) Gemini.sideOf
      Gemini.ownParts input (Gemini.contents input) :=
  ⟨Claude.inputMessages_converts input, Gemini.contents_converts input⟩

end ChatRetrieval
