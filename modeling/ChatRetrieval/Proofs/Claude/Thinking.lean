import ChatRetrieval.Proofs.Claude.Pieces
import ChatRetrieval.Proofs.Message.Turns
import ChatRetrieval.Proofs.Result

/-!
Thinking sent back. A message has one place for the texts of all thoughts of a reply and one for their
signatures, where each takes the place of the one before. What goes back is one thought that joins all
the texts under the last signature.
-/

namespace ChatRetrieval.Claude

namespace Block

def isThinking : Block → Bool
  | thinking _ _ => true
  | _ => false

end Block

/-- The thinking among what is sent. -/
def sentThinking (turns : List InputMessage) : List Block :=
  (turns.flatMap (·.content)).filter (·.isThinking)

/-- The thinking that a message is sent with. -/
def thinkingOf (m : Message) : List Block :=
  if m.role = .assistant then thinkingBlocks m else []

theorem filter_thinkingBlocks (m : Message) :
    (thinkingBlocks m).filter (·.isThinking) = thinkingBlocks m := by
  unfold thinkingBlocks
  split
  · split <;> rfl
  · rfl

theorem isThinking_of_partBlock {part : ContentPart} {b : Block} (h : partBlock part = .ok b) :
    b.isThinking = false := by
  cases part with
  | text t =>
    cases h
    rfl
  | audio | video => cases h
  | _ =>
    obtain ⟨source, -, rfl⟩ := Result.map_eq_ok h
    rfl

theorem filter_contentBlocks {parts : List ContentPart} {text : String} {blocks : List Block}
    (h : contentBlocks parts text = .ok blocks) : blocks.filter (·.isThinking) = [] := by
  unfold contentBlocks at h
  split at h
  · cases h
    unfold textBlocks
    split <;> rfl
  · rw [List.filter_eq_nil_iff]
    intro b hb
    obtain ⟨part, -, hpart⟩ := Result.exists_of_mem_mapM h hb
    rw [isThinking_of_partBlock hpart]
    exact Bool.false_ne_true

theorem filter_calls {calls : List ToolCall} {blocks : List Block}
    (h : calls.mapM callBlock = .ok blocks) : blocks.filter (·.isThinking) = [] := by
  rw [List.filter_eq_nil_iff]
  intro b hb
  obtain ⟨c, -, hc⟩ := Result.exists_of_mem_mapM h hb
  obtain ⟨input, -, rfl⟩ := Result.map_eq_ok hc
  exact Bool.false_ne_true

theorem filter_assistantBlocks {m : Message} {blocks : List Block}
    (h : assistantBlocks m = .ok blocks) : blocks.filter (·.isThinking) = thinkingBlocks m := by
  obtain ⟨content, hcontent, h⟩ := Result.bind_eq_ok h
  obtain ⟨calls, hcalls, h⟩ := Result.bind_eq_ok h
  cases h
  rw [List.filter_append, List.filter_append, filter_thinkingBlocks, filter_contentBlocks hcontent,
    filter_calls hcalls, List.append_nil, List.append_nil]

theorem filter_said {m : Message} {share : Option (Side × List Block)} (h : said m = .ok share) :
    (share.toList.flatMap (·.2)).filter (·.isThinking) = thinkingOf m := by
  unfold said at h
  unfold thinkingOf
  split at h
  · rename_i hrole
    cases h
    rw [hrole]
    rfl
  · rename_i hrole
    obtain ⟨blocks, hblocks, rfl⟩ := Result.map_eq_ok h
    simp [hrole, filter_contentBlocks hblocks]
  · rename_i hrole
    obtain ⟨blocks, hblocks, rfl⟩ := Result.map_eq_ok h
    simp [hrole, filter_assistantBlocks hblocks]
  · rename_i hrole
    cases h
    rw [hrole]
    rfl

theorem sentThinking_inputMessages {input : List Message} {turns : List InputMessage}
    (h : inputMessages input = .ok turns) : sentThinking turns = input.flatMap thinkingOf := by
  obtain ⟨all, hall, h⟩ := Result.bind_eq_ok h
  cases h
  rw [sentThinking, List.flatMap_map, Turn.blocks_ofMessages, List.filterMap_eq_flatMap_toList,
    List.flatMap_assoc, List.filter_flatMap]
  exact Result.flatMap_of_mapM hall fun _ _ => filter_said

namespace Reply

variable (reply : Reply)

def thoughts : List (String × String) := reply.content.filterMap (·.thought?)

def signatures : List String := reply.content.filterMap (·.signature?)

def spoken : List (String × String) := reply.thoughts.filter (!·.1.isEmpty)

/-- The thought that goes back: all the texts under the last signature. -/
def sentThought : List Block :=
  let text := String.join (reply.thoughts.map (·.1))
  match reply.signatures.getLast? with
  | some signature => if text.isEmpty then [] else [.thinking text signature]
  | none => []

/-- A message of the reply's thoughts. -/
structure ThoughtIn (m : Message) : Prop where
  role : m.role = .assistant
  reasoning : m.reasoning = String.join (reply.thoughts.map (·.1))
  extra : m.extra = sign .empty reply.signatures

end Reply

theorem get?_sign (extra : Dict String Json) (signatures : List String) :
    (sign extra signatures).get? signatureKey =
      (signatures.getLast?.map .str).or (extra.get? signatureKey) := by
  induction signatures using List.reverseRecOn with
  | nil => rfl
  | append_singleton signatures s _ =>
    rw [sign_append, List.getLast?_concat]
    exact Dict.get?_insert_self _ _ _

variable {reply : Reply}

theorem Reply.ThoughtIn.thinkingOf_eq {m : Message} (h : reply.ThoughtIn m) :
    thinkingOf m = reply.sentThought := by
  have hsignature : thinkingSignature? m = reply.signatures.getLast? := by
    rw [thinkingSignature?, h.extra, get?_sign]
    cases reply.signatures.getLast? <;> rfl
  rw [thinkingOf, if_pos h.role, thinkingBlocks, hsignature, h.reasoning]
  rfl

theorem thoughtIn_responseMessage (reply : Reply) : reply.ThoughtIn (responseMessage reply) := by
  rw [responseMessage, foldl_addBlock]
  exact ⟨rfl, String.empty_append, rfl⟩

/-- A stream of the reply's thoughts, their texts cut anywhere. -/
structure BringsThoughts (reply : Reply) (events : List Event) : Prop extends Complete events where
  texts : String.join (events.filterMap (·.thinking?)) = String.join (reply.thoughts.map (·.1))
  signatures : events.filterMap (·.signature?) = reply.signatures

theorem BringsThoughts.thoughtIn {events : List Event} (h : BringsThoughts reply events)
    {m : Message} (hm : Streamed events m) : reply.ThoughtIn m := by
  have hassembled := hm.assembled h.toComplete
  exact ⟨hassembled.role, h.texts ▸ hassembled.reasoning, h.signatures ▸ hassembled.extra⟩

theorem join_map_fst_eq_empty {l : List (String × String)} (hl : ∀ t ∈ l, t.1 ≠ "") :
    String.join (l.map (·.1)) = "" ↔ l = [] := by
  constructor
  · intro h
    cases l with
    | nil => rfl
    | cons t l =>
      rw [List.map_cons, String.join_cons, String.append_eq_empty_iff] at h
      exact absurd h.1 (hl t (List.mem_cons_self ..))
  · rintro rfl
    rfl

theorem eq_singleton_of_join_mem {l : List (String × String)} (hl : ∀ t ∈ l, t.1 ≠ "") {s : String}
    (h : (String.join (l.map (·.1)), s) ∈ l) : l = [(String.join (l.map (·.1)), s)] := by
  obtain ⟨before, after, heq⟩ := List.append_of_mem h
  have hlength := congrArg String.length (congrArg (fun l => String.join (l.map (·.1))) heq)
  simp only [List.map_append, List.map_cons, String.join_append, String.join_cons,
    String.length_append] at hlength
  have hnil {part : List (String × String)} (hpart : ∀ t ∈ part, t ∈ l)
      (hzero : (String.join (part.map (·.1))).length = 0) : part = [] :=
    (join_map_fst_eq_empty fun t ht => hl t (hpart t ht)).1 (String.length_eq_zero_iff.1 hzero)
  have hbefore : before = [] := hnil (fun t ht => heq ▸ List.mem_append_left _ ht) (by omega)
  have hafter : after = [] :=
    hnil (fun t ht => heq ▸ List.mem_append_right _ (List.mem_cons_of_mem _ ht)) (by omega)
  rw [hbefore, hafter] at heq
  exact heq

namespace Reply

theorem nonempty_of_mem_spoken {t : String × String} (h : t ∈ reply.spoken) : t.1 ≠ "" := by
  have ht := (List.mem_filter.1 h).2
  intro hempty
  rw [hempty] at ht
  cases ht

theorem join_spoken :
    String.join (reply.spoken.map (·.1)) = String.join (reply.thoughts.map (·.1)) := by
  unfold spoken
  induction reply.thoughts with
  | nil => rfl
  | cons t thoughts ih =>
    rw [List.filter_cons, List.map_cons, String.join_cons, ← ih]
    split
    · rw [List.map_cons, String.join_cons]
    · rename_i hempty
      rw [Bool.not_eq_true, Bool.not_eq_false', String.isEmpty_iff] at hempty
      rw [hempty, String.empty_append]

theorem mem_thoughts {t s : String} : (t, s) ∈ reply.thoughts ↔ .thinking t s ∈ reply.content := by
  rw [thoughts, List.mem_filterMap]
  constructor
  · rintro ⟨b, hb, ht⟩
    cases b with
    | thinking =>
      cases ht
      exact hb
    | _ => cases ht
  · exact fun h => ⟨_, h, rfl⟩

theorem mem_sentThought {t s : String} : .thinking t s ∈ reply.sentThought ↔
    reply.signatures.getLast? = some s ∧ t = String.join (reply.spoken.map (·.1)) ∧
      reply.spoken ≠ [] := by
  rw [sentThought, ← join_spoken, Ne, ← join_map_fst_eq_empty fun t => nonempty_of_mem_spoken]
  cases reply.signatures.getLast? with
  | none => simp
  | some signature =>
    by_cases h : String.join (reply.spoken.map (·.1)) = ""
    · simp [h]
    · simp only [String.isEmpty_iff, h, if_false, List.mem_singleton, Block.thinking.injEq,
        Option.some.injEq, not_false_eq_true, and_true]
      exact ⟨fun ⟨ht, hs⟩ => ⟨hs.symm, ht⟩, fun ⟨hs, ht⟩ => ⟨ht, hs.symm⟩⟩

/-- What goes back is a thought of the reply if no other thought has a text. -/
theorem sentThought_own_iff :
    (∀ t s, .thinking t s ∈ reply.sentThought → .thinking t s ∈ reply.content) ↔
      ∀ s ∈ reply.signatures.getLast?, reply.spoken = [] ∨ ∃ t, reply.spoken = [(t, s)] := by
  constructor
  · intro hown s hs
    by_cases hspoken : reply.spoken = []
    · exact .inl hspoken
    · have hmem := mem_thoughts.2 (hown _ s (mem_sentThought.2 ⟨hs, rfl, hspoken⟩))
      have hnonempty := mt (join_map_fst_eq_empty fun t => nonempty_of_mem_spoken).1 hspoken
      refine .inr ⟨_, eq_singleton_of_join_mem (fun t => nonempty_of_mem_spoken) ?_⟩
      exact List.mem_filter.2 ⟨hmem, by simp [hnonempty]⟩
  · intro halone t s hsent
    obtain ⟨hs, rfl, hspoken⟩ := mem_sentThought.1 hsent
    obtain ⟨t, ht⟩ := (halone s hs).resolve_left hspoken
    have hmem : (t, s) ∈ reply.spoken := ht ▸ List.mem_singleton_self _
    have hjoin : String.join [t] = t := String.empty_append
    rw [ht, List.map_singleton, hjoin]
    exact mem_thoughts.1 (List.mem_filter.1 hmem).1

end Reply

/-- A reply goes back with one thought at most, all its texts under the last signature, whether it was
streamed or not. That is a thought of the reply just if it is the only one with a text. -/
theorem sentThinking_reply (reply : Reply) :
    (∀ events, BringsThoughts reply events → ∃ m, Streamed events m) ∧
    (∀ m, m = responseMessage reply ∨
        (∃ events, BringsThoughts reply events ∧ Streamed events m) →
      ∀ before after turns, inputMessages (before ++ m :: after) = .ok turns →
        sentThinking turns =
          before.flatMap thinkingOf ++ reply.sentThought ++ after.flatMap thinkingOf) ∧
    ((∀ t s, .thinking t s ∈ reply.sentThought → .thinking t s ∈ reply.content) ↔
      ∀ s ∈ reply.signatures.getLast?, reply.spoken = [] ∨ ∃ t, reply.spoken = [(t, s)]) := by
  refine ⟨fun events h => ?_, fun m hm before after turns hturns => ?_, Reply.sentThought_own_iff⟩
  · obtain ⟨m, hm, -⟩ := h.exists_streamed
    exact ⟨m, hm⟩
  · have hthought : reply.ThoughtIn m := by
      rcases hm with rfl | ⟨events, hevents, hm⟩
      · exact thoughtIn_responseMessage reply
      · exact hevents.thoughtIn hm
    rw [sentThinking_inputMessages hturns, List.flatMap_append, List.flatMap_cons,
      hthought.thinkingOf_eq, List.append_assoc]

def twoThoughts : Reply :=
  ⟨"m", "", [.thinking "a" "s1", .thinking "b" "s2", .text "Hi"], some "end_turn", ⟨5, 9, 0, 0⟩⟩

def twoThoughtsEvents : List Event := [
  .messageStart ⟨"m", "", [], none, ⟨5, 1, 0, 0⟩⟩,
  .blockStart 0 (.thinking "" ""), .blockDelta 0 (.thinking ""), .blockDelta 0 (.thinking "a"),
  .blockDelta 0 (.signature "s1"), .other,
  .blockStart 1 (.thinking "" ""), .blockDelta 1 (.thinking "b"), .blockDelta 1 (.signature "s2"),
  .blockStart 2 (.text ""), .blockDelta 2 (.text "Hi"),
  .messageDelta (some "end_turn") (some ⟨0, 9, 0, 0⟩), .other]

theorem sentThinking_reply_twoThoughts :
    BringsThoughts twoThoughts twoThoughtsEvents ∧
    (∃ turns, inputMessages [.user "q", responseMessage twoThoughts, .user "more"] = .ok turns ∧
      sentThinking turns = [.thinking "ab" "s2"]) ∧
    ∃ m, Streamed twoThoughtsEvents m ∧ ∃ turns, inputMessages [.user "q", m] = .ok turns ∧
      sentThinking turns = [.thinking "ab" "s2"] := by
  have hbrings : BringsThoughts twoThoughts twoThoughtsEvents :=
    { succeeds := by decide
      reports := by decide
      texts := by decide
      signatures := by decide }
  have hstreamed : ∃ m, Streamed twoThoughtsEvents m ∧
      ∃ turns, inputMessages [.user "q", m] = .ok turns := by
    let deltas : List Delta :=
      [.thinking "", .thinking "a", .signature "s1", .thinking "b", .signature "s2", .text "Hi"]
    exact ⟨_, ⟨deltas.filterMap (deltaMessage 0) ++ [closingPiece twoThoughts], rfl, rfl⟩, _, rfl⟩
  obtain ⟨m, hm, turns, hturns⟩ := hstreamed
  obtain ⟨-, hsent, -⟩ := sentThinking_reply twoThoughts
  exact ⟨hbrings, ⟨_, rfl, hsent _ (.inl rfl) [.user "q"] [.user "more"] _ rfl⟩,
    m, hm, turns, hturns, hsent m (.inr ⟨_, hbrings, hm⟩) [.user "q"] [] turns hturns⟩

/-- A text that no thought has is sent under a signature that was given for another one. -/
theorem sentThinking_joins_thoughts :
    ∃ turns, inputMessages [.user "q", responseMessage twoThoughts] = .ok turns ∧
      sentThinking turns = [.thinking "ab" "s2"] ∧
      .thinking "ab" "s2" ∉ twoThoughts.content :=
  ⟨_, rfl, rfl, by decide⟩

end ChatRetrieval.Claude
