import ChatRetrieval.Claude.Reply

/-!
The message of a whole reply, field by field: each kind of block is kept in a place of its own, in the
order in which the blocks come.
-/

namespace ChatRetrieval.Claude

namespace ReplyBlock

def text? : ReplyBlock → Option String
  | text t => some t
  | _ => none

def thought? : ReplyBlock → Option (String × String)
  | thinking t signature => some (t, signature)
  | _ => none

def signature? (b : ReplyBlock) : Option String :=
  (b.thought?.map (·.2)).filter (· ≠ "")

def call? : ReplyBlock → Option ToolCall
  | toolUse id name input => some (.function id name (argumentText input))
  | _ => none

end ReplyBlock

structure ToolUse where
  id : String
  name : String
  input : Json

def ReplyBlock.toolUse? : ReplyBlock → Option ToolUse
  | .toolUse id name input => some ⟨id, name, input⟩
  | _ => none

def Reply.toolUses (reply : Reply) : List ToolUse := reply.content.filterMap (·.toolUse?)

/-- The call of a message is this one, whatever its arguments are. -/
structure ToolUse.Named (u : ToolUse) (c : ToolCall) : Prop where
  id : c.id = u.id
  kind : c.kind = "function"
  name : c.name = u.name

def sign (extra : Dict String Json) (signatures : List String) : Dict String Json :=
  signatures.foldl (fun extra s => extra.insert signatureKey (.str s)) extra

theorem sign_append (extra : Dict String Json) (signatures more : List String) :
    sign extra (signatures ++ more) = sign (sign extra signatures) more := List.foldl_append

theorem addBlock_eq (m : Message) (b : ReplyBlock) :
    addBlock m b = { m with
      content := m.content ++ b.text?.getD ""
      reasoning := m.reasoning ++ (b.thought?.map (·.1)).getD ""
      toolCalls := m.toolCalls ++ b.call?.toList
      extra := sign m.extra b.signature?.toList } := by
  cases b with
  | thinking t signature =>
    by_cases h : signature = "" <;>
      simp [addBlock, h, ReplyBlock.text?, ReplyBlock.thought?, ReplyBlock.call?,
        ReplyBlock.signature?, sign, setThinkingSignature, Message.setExtra, Option.filter_some]
  | _ => simp [addBlock, ReplyBlock.text?, ReplyBlock.thought?, ReplyBlock.call?,
      ReplyBlock.signature?, sign]

theorem foldl_addBlock (content : List ReplyBlock) (m : Message) :
    content.foldl addBlock m = { m with
      content := m.content ++ String.join (content.filterMap (·.text?))
      reasoning := m.reasoning ++ String.join ((content.filterMap (·.thought?)).map (·.1))
      toolCalls := m.toolCalls ++ content.filterMap (·.call?)
      extra := sign m.extra (content.filterMap (·.signature?)) } := by
  induction content generalizing m with
  | nil => simp [sign]
  | cons b content ih =>
    have hpicked {α : Type} (pick : ReplyBlock → Option α) :
        (b :: content).filterMap pick = (pick b).toList ++ content.filterMap pick := by
      cases h : pick b <;> simp [h]
    rw [List.foldl_cons, ih, addBlock_eq]
    simp only [hpicked, List.map_append, String.join_append, List.append_assoc, sign_append,
      String.append_assoc]
    cases b.text? <;> cases b.thought? <;> simp

theorem toolCalls_foldl_addBlock (content : List ReplyBlock) (m : Message) :
    (content.foldl addBlock m).toolCalls = m.toolCalls ++ content.filterMap (·.call?) := by
  rw [foldl_addBlock]

end ChatRetrieval.Claude
