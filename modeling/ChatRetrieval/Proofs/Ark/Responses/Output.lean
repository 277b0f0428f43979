import ChatRetrieval.Proofs.Ark.Responses.Chunks
import Mathlib.Data.List.Perm.Basic

/-!
The message of a whole reply, field by field, and what becomes of the texts in its output. Items with
several texts add theirs to the parts; an item with one text sets the content, so that of such texts only
the last is left.
-/

namespace ChatRetrieval

/-- The texts that a message holds, in its content and in its parts. -/
def Message.heldTexts (m : Message) : List String :=
  m.content :: m.assistantParts.filterMap ContentPart.asText?

namespace Ark.Responses

namespace OutputItem

def texts : OutputItem → List String
  | message texts => texts
  | _ => []

def summary : OutputItem → List String
  | reasoning summary => summary
  | _ => []

def lone? : OutputItem → Option String
  | message [text] => some text
  | _ => none

def several : OutputItem → List String
  | message [_] => []
  | message texts => texts
  | _ => []

def toolCall? : OutputItem → Option ToolCall
  | call _ callId name arguments => some (.function callId name arguments)
  | _ => none

theorem texts_eq (item : OutputItem) : item.texts = item.lone?.toList ++ item.several := by
  unfold texts lone? several
  cases item with
  | message texts => match texts with
    | [] | [t] | t :: t' :: more => rfl
  | _ => rfl

theorem addItem_eq (m : Message) (item : OutputItem) :
    addItem m item = { m with
      content := item.lone?.getD m.content
      assistantParts := m.assistantParts ++ item.several.map .text
      reasoning := item.summary.foldl addSummary m.reasoning
      toolCalls := m.toolCalls ++ item.toolCall?.toList } := by
  unfold addItem lone? several
  cases item with
  | message texts => match texts with
    | [] | [t] | t :: t' :: more => simp [summary, toolCall?]
  | _ => simp [summary, toolCall?]

end OutputItem

theorem foldl_addItem (items : List OutputItem) (m : Message) :
    items.foldl addItem m = { m with
      content := (items.filterMap (·.lone?)).getLast?.getD m.content
      assistantParts := m.assistantParts ++ (items.flatMap (·.several)).map .text
      reasoning := (items.flatMap (·.summary)).foldl addSummary m.reasoning
      toolCalls := m.toolCalls ++ items.filterMap (·.toolCall?) } := by
  induction items generalizing m with
  | nil => simp
  | cons item items ih =>
    have hcontent : (items.filterMap (·.lone?)).getLast?.getD (item.lone?.getD m.content) =
        ((item :: items).filterMap (·.lone?)).getLast?.getD m.content := by
      rw [← Option.getD_or, getLast?_filterMap_cons_eq]
    rw [List.foldl_cons, ih, item.addItem_eq]
    simp only [hcontent, List.flatMap_cons, List.map_append, List.append_assoc, List.foldl_append]
    cases hcall : item.toolCall? <;> simp [hcall]

namespace Reply

def texts (reply : Reply) : List String := reply.output.flatMap (·.texts)

/-- The texts that come alone in their messages. -/
def loneTexts (reply : Reply) : List String := reply.output.filterMap (·.lone?)

theorem perm_texts (reply : Reply) :
    reply.texts.Perm (reply.loneTexts ++ reply.output.flatMap (·.several)) := by
  have hlone : reply.loneTexts = reply.output.flatMap fun item => item.lone?.toList :=
    List.filterMap_eq_flatMap_toList _ _
  rw [hlone, texts, funext OutputItem.texts_eq]
  exact (List.flatMap_append_perm _ _ _).symm

end Reply

variable {reply : Reply} {cache : CacheState}

theorem heldTexts_foldl_addItem (m : Message) :
    (reply.output.foldl addItem m).heldTexts = reply.loneTexts.getLast?.getD m.content ::
      (m.assistantParts.filterMap ContentPart.asText? ++ reply.output.flatMap (·.several)) := by
  have hparts (texts : List String) :
      (texts.map ContentPart.text).filterMap ContentPart.asText? = texts := by
    rw [List.filterMap_map]
    exact List.filterMap_some
  rw [foldl_addItem, Message.heldTexts, List.filterMap_append, hparts]
  rfl

theorem count_getLast? (texts : List String) {t : String} (ht : t ≠ "") :
    [texts.getLast?.getD ""].count t + texts.dropLast.count t = texts.count t := by
  cases hlast : texts.getLast? with
  | none => simp [List.getLast?_eq_none_iff.1 hlast, Ne.symm ht]
  | some last =>
    rw [← List.dropLast_append_getLast? last hlast, List.count_append, Option.getD_some,
      List.dropLast_concat, Nat.add_comm]

/-- Of each text, what is held and the lone ones before the last make up what came. -/
theorem count_heldTexts {t : String} (ht : t ≠ "") :
    (reply.output.foldl addItem (statusMessage reply (finishReason reply) cache)).heldTexts.count t +
      reply.loneTexts.dropLast.count t = reply.texts.count t := by
  have hheld :
      (reply.output.foldl addItem (statusMessage reply (finishReason reply) cache)).heldTexts =
        reply.loneTexts.getLast?.getD "" :: reply.output.flatMap (·.several) := by
    rw [heldTexts_foldl_addItem, statusMessage_eq]
    rfl
  have hlast := count_getLast? reply.loneTexts ht
  rw [List.count_singleton] at hlast
  rw [hheld, List.count_cons, reply.perm_texts.count_eq, List.count_append]
  omega

/-- All texts are kept as often as they came, but for those that come alone before another that does. -/
theorem outputMessage_texts (hfailed : reply.status ≠ .failed)
    (hincomplete : reply.status ≠ .incomplete) :
    (reply.output = [] →
      outputMessage reply cache = Result.fail "received empty output from ARK") ∧
    (reply.output ≠ [] → ∃ m, outputMessage reply cache = .ok m ∧
      (∀ t, t ≠ "" →
        m.heldTexts.count t + reply.loneTexts.dropLast.count t = reply.texts.count t) ∧
      ((∀ t, t ≠ "" → m.heldTexts.count t = reply.texts.count t) ↔
        ∀ t ∈ reply.loneTexts.dropLast, t = "")) := by
  have hstatus : ¬ (reply.status = .failed ∨ reply.status = .incomplete) := by
    simp only [hfailed, hincomplete, or_self, not_false_eq_true]
  constructor
  · intro houtput
    rw [outputMessage, if_neg hstatus, houtput]
    rfl
  intro houtput
  refine ⟨_, by rw [outputMessage, if_neg hstatus, if_neg (by simpa using houtput)],
    fun _ => count_heldTexts, ?_⟩
  constructor
  · intro hall t hmem
    by_contra ht
    have hcount := @count_heldTexts reply cache t ht
    have hpos := List.count_pos_iff.2 hmem
    rw [hall t ht] at hcount
    omega
  · intro hblank t ht
    have hzero : reply.loneTexts.dropLast.count t = 0 :=
      List.count_eq_zero.2 fun hmem => ht (hblank t hmem)
    rw [← count_heldTexts ht, hzero, Nat.add_zero]

def completedWith (output : List OutputItem) : Reply where
  id := "r"
  model := "m"
  status := .completed
  error := none
  incompleteReason := none
  output := output
  usage := none
  serviceTier := none

theorem outputMessage_texts_threeMessages :
    let reply := completedWith [.message ["a", "b"], .reasoning ["so"], .message [], .message ["b"]]
    ∃ m, outputMessage reply ⟨false, none⟩ = .ok m ∧
      ∀ t, t ≠ "" → m.heldTexts.count t = reply.texts.count t := by
  intro reply
  obtain ⟨-, hsome⟩ := @outputMessage_texts reply ⟨false, none⟩ (by decide) (by decide)
  obtain ⟨m, hm, -, hiff⟩ := hsome (by decide)
  exact ⟨m, hm, hiff.2 (by decide)⟩

/-- Of two messages with a text each, the first is lost. -/
theorem outputMessage_loses_text :
    let reply := completedWith [.message ["a"], .message ["b"]]
    ∃ m, outputMessage reply ⟨false, none⟩ = .ok m ∧
      m.heldTexts = ["b"] ∧ m.heldTexts.count "a" ≠ reply.texts.count "a" :=
  ⟨_, rfl, rfl, by decide⟩

end Ark.Responses

end ChatRetrieval
