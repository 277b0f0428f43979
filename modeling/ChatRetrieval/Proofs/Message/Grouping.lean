import ChatRetrieval.Proofs.Message.Join
import ChatRetrieval.Proofs.Result

/-!
Grouping of a stream. Pieces may be put together in groups first: joining is associative on messages
that concatenation itself could have made, so the outcome does not depend on the groups.
-/

namespace ChatRetrieval.Message

/-- A message as concatenation leaves it: its tool calls are merged and an empty report is no
report. -/
structure Settled (m : Message) : Prop where
  merged : ToolCall.merge m.toolCalls = m.toolCalls
  reported : m.responseMeta ≠ some .empty

theorem settled_blank (r : Role) : (blank r).Settled := ⟨rfl, Option.some_ne_none _ |>.symm⟩

theorem foldl_mergeInto_eq_merge {calls : List ToolCall} (h : ToolCall.merge calls = calls)
    (more : List ToolCall) :
    more.foldl ToolCall.mergeInto calls = ToolCall.merge (calls ++ more) := by
  rw [ToolCall.merge, List.foldl_append, ← ToolCall.merge, h]

theorem Settled.join {m : Message} (h : m.Settled) (piece : Message) : (m.join piece).Settled where
  merged := by
    change ToolCall.merge (piece.toolCalls.foldl ToolCall.mergeInto m.toolCalls) =
      piece.toolCalls.foldl ToolCall.mergeInto m.toolCalls
    rw [foldl_mergeInto_eq_merge h.merged, ToolCall.merge_merge]
  reported := ResponseMeta.nonEmpty?_ne_some_empty _

theorem Settled.foldl_join {m : Message} (h : m.Settled) (pieces : List Message) :
    (pieces.foldl Message.join m).Settled := by
  induction pieces generalizing m with
  | nil => exact h
  | cons p ps ih => exact ih (h.join p)

theorem report_join (m piece : Message) : (m.join piece).report = m.report.join piece.report :=
  ResponseMeta.getD_nonEmpty? _

theorem join_assoc (a : Message) {b : Message} (hb : b.Settled) (c : Message) :
    (a.join b).join c = a.join (b.join c) := by
  have hcalls : c.toolCalls.foldl ToolCall.mergeInto (b.toolCalls.foldl ToolCall.mergeInto a.toolCalls) =
      (c.toolCalls.foldl ToolCall.mergeInto b.toolCalls).foldl ToolCall.mergeInto a.toolCalls := by
    rw [foldl_mergeInto_eq_merge hb.merged, ToolCall.foldl_mergeInto_merge, List.foldl_append]
  have hreport : (a.join b).report.join c.report = a.report.join (b.join c).report := by
    rw [report_join, report_join, ResponseMeta.join_assoc]
  rw [join.eq_1 (a.join b) c, join.eq_1 a (b.join c), hreport]
  simp only [Message.join, String.append_assoc, ContentPart.appendAll_assoc, hcalls,
    Option.or_assoc, Dict.union_assoc]

theorem Settled.join_blank {m : Message} (h : m.Settled) (r : Role) : m.join (blank r) = m := by
  have hreport : m.report.nonEmpty? = m.responseMeta := by
    unfold report
    cases hm : m.responseMeta with
    | none => rfl
    | some b =>
      have hb : b ≠ .empty := fun hb => h.reported (hm.trans (congrArg some hb))
      simp only [Option.getD_some, ResponseMeta.nonEmpty?, if_neg hb]
  have hempty : (blank r).report = .empty := rfl
  rw [Message.join, hempty, ResponseMeta.join_empty, hreport]
  simp [blank, ContentPart.appendAll]

theorem Settled.foldl_filterMap {α : Type} {m : Message} (h : m.Settled) (r : Role)
    (f : α → Option Message) (steps : List α) :
    (steps.filterMap f).foldl Message.join m =
      (steps.map fun a => (f a).getD (blank r)).foldl Message.join m := by
  induction steps generalizing m with
  | nil => rfl
  | cons a rest ih =>
    cases ha : f a with
    | none =>
      rw [List.filterMap_cons_none ha, List.map_cons, List.foldl_cons, ha, Option.getD_none,
        h.join_blank, ih h]
    | some p =>
      rw [List.filterMap_cons_some ha, List.map_cons, List.foldl_cons, List.foldl_cons, ha,
        Option.getD_some, ih (h.join p)]

/-- A settled message is continued by what a group comes to as by the group's pieces. -/
theorem Settled.join_foldl {m : Message} (h : m.Settled) (r : Role) (pieces : List Message) :
    m.join (pieces.foldl Message.join (blank r)) = pieces.foldl Message.join m := by
  -- The fold must start anywhere for the induction, not only from a blank message.
  have hmove (start : Message) (hs : start.Settled) :
      m.join (pieces.foldl Message.join start) = pieces.foldl Message.join (m.join start) := by
    induction pieces generalizing start with
    | nil => rfl
    | cons p ps ih => rw [List.foldl_cons, List.foldl_cons, ih _ (hs.join p), join_assoc m hs]
  rw [hmove _ (settled_blank r), h.join_blank]

theorem Settled.foldl_groups {m : Message} (h : m.Settled) (r : Role)
    (groups : List (List Message)) :
    (groups.map fun g => g.foldl Message.join (blank r)).foldl Message.join m =
      groups.flatten.foldl Message.join m := by
  induction groups generalizing m with
  | nil => rfl
  | cons g gs ih =>
    rw [List.map_cons, List.foldl_cons, h.join_foldl, List.flatten_cons, List.foldl_append]
    exact ih (h.foldl_join g)

/-- However a stream of one role is cut into groups, putting each group together and then the results
succeeds and gives what all pieces give at once; that message is not changed by doing so again. -/
theorem concat_groups {r : Role} {groups : List (List Message)} (hne : groups ≠ [])
    (hfull : ∀ g ∈ groups, g ≠ []) (hrole : ∀ g ∈ groups, ∀ m ∈ g, m.role = r) :
    ∃ parts m, groups.mapM concat = .ok parts ∧ concat parts = .ok m ∧
      concat groups.flatten = .ok m ∧ concat [m] = .ok m := by
  have hparts : groups.mapM concat = .ok (groups.map fun g => g.foldl join (blank r)) :=
    Result.mapM_eq_ok fun g hg => concat_eq_foldl_join (hfull g hg) (hrole g hg)
  have hflat : groups.flatten ≠ [] := by
    obtain ⟨g, hg⟩ := List.exists_mem_of_ne_nil _ hne
    obtain ⟨m, hm⟩ := List.exists_mem_of_ne_nil _ (hfull g hg)
    exact List.ne_nil_of_mem (List.mem_flatten_of_mem hg hm)
  have hall : concat groups.flatten = .ok (groups.flatten.foldl join (blank r)) := by
    refine concat_eq_foldl_join hflat fun m hm => ?_
    obtain ⟨g, hg, hm⟩ := List.mem_flatten.1 hm
    exact hrole g hg m hm
  refine ⟨_, _, hparts, ?_, hall, ?_⟩
  · have hrole' : ∀ m ∈ groups.map fun g => g.foldl join (blank r), m.role = r := by
      intro m hm
      obtain ⟨g, _, rfl⟩ := List.mem_map.1 hm
      exact role_foldl_join _ g
    rw [concat_eq_foldl_join (mt List.map_eq_nil_iff.1 hne) hrole',
      (settled_blank r).foldl_groups r groups]
  · have hlone : ∀ m ∈ [groups.flatten.foldl join (blank r)], m.role = r := by
      intro m hm
      rw [List.mem_singleton.1 hm]
      exact role_foldl_join _ _
    rw [concat_eq_foldl_join (List.cons_ne_nil _ _) hlone, List.foldl_cons, List.foldl_nil,
      (settled_blank r).join_foldl r]

theorem concat_groups_across_call : ∃ parts m,
    [[{ blank .assistant with
        content := "a", assistantParts := [.text "x"], toolCalls := [⟨some 0, "c", "", "f", "[", .empty⟩] },
      blank .assistant],
    [{ blank .assistant with
        content := "b", assistantParts := [.text "y"], toolCalls := [⟨some 0, "", "", "", "]", .empty⟩],
        responseMeta := some ⟨some "stop", none, none⟩ }]].mapM concat = .ok parts ∧
    concat parts = .ok m ∧
    concat [{ blank .assistant with
        content := "a", assistantParts := [.text "x"], toolCalls := [⟨some 0, "c", "", "f", "[", .empty⟩] },
      blank .assistant,
      { blank .assistant with
        content := "b", assistantParts := [.text "y"], toolCalls := [⟨some 0, "", "", "", "]", .empty⟩],
        responseMeta := some ⟨some "stop", none, none⟩ }] = .ok m ∧
    concat [m] = .ok m :=
  concat_groups (r := .assistant) (by decide) (by decide) (by decide)

end ChatRetrieval.Message
