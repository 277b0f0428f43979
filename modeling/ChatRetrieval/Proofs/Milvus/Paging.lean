import ChatRetrieval.Proofs.Milvus.Iterator
import ChatRetrieval.Proofs.Number.Pieces

/-!
Pages as one search. A store that gives the rows from an offset on gives a walk the first rows of its
list: each page starts where the rows before it end, and none is asked for twice unless it failed.
-/

namespace ChatRetrieval.Milvus

def pages (exchanges : List Exchange) : List (List Json) :=
  exchanges.filterMap fun x => rowsOf x.reply

theorem pages_cons_of_none {x : Exchange} (h : rowsOf x.reply = none) (exchanges : List Exchange) :
    pages (x :: exchanges) = pages exchanges := List.filterMap_cons_none h

theorem pages_cons_of_some {x : Exchange} {rows : List Json} (h : rowsOf x.reply = some rows)
    (exchanges : List Exchange) : pages (x :: exchanges) = rows :: pages exchanges :=
  List.filterMap_cons_some h

theorem batchOf_of_pos {rows : List Json} (h : 0 < rows.length) :
    batchOf rows = some (.ofRows true rows) := if_neg (Nat.ne_of_gt h)

namespace IteratorRequest

/-- How many pages are left after so many hits, the last one cut off at the total. -/
def pagesAt (r : IteratorRequest) (hits : Nat) : Nat := pieces r.batchSize (r.total - hits)

theorem pagesAt_step {r : IteratorRequest} (hsize : 1 ≤ r.batchSize) {hits : Nat}
    (hroom : hits < r.total) : r.pagesAt (hits + r.sizeAt hits) + 1 = r.pagesAt hits := by
  rw [pagesAt, ← Nat.sub_sub]
  exact pieces_step hsize (Nat.sub_pos_of_lt hroom)

end IteratorRequest

namespace Walk

variable {c : ClientConfig} {r : IteratorRequest} {ranked : List Json} {hits : Nat}
  {outcomes : List Outcome} {exchanges : List Exchange}

theorem rows_of_total {rows : List Json}
    (hrows : rows = (ranked.drop hits).take (r.sizeAt hits)) :
    rows = ((ranked.take r.total).drop hits).take (r.sizeAt hits) := by
  rw [List.drop_take, List.take_take, hrows, IteratorRequest.sizeAt, Nat.min_assoc, Nat.min_self]

theorem flatten_pages (h : Walk c r ranked hits outcomes exchanges) :
    (pages exchanges).flatten <+: (ranked.take r.total).drop hits := by
  induction h with
  | stop => exact List.nil_prefix
  | unreachable => exact List.nil_prefix
  | exhausted => exact List.nil_prefix
  | failed _ _ hreply _ ih => rwa [pages_cons_of_none hreply]
  | @full hits rows x outcomes exchanges _ _ hreply hrows hfull _ ih =>
    rw [pages_cons_of_some hreply, List.flatten_cons]
    rw [← List.drop_drop] at ih
    have hsplit := List.take_append_drop rows.length ((ranked.take r.total).drop hits)
    rw [hfull, ← rows_of_total hrows, ← hfull] at hsplit
    rw [← hsplit]
    exact (List.prefix_append_right_inj _).2 ih
  | @short hits rows x outcomes _ _ hreply hrows _ _ =>
    rw [pages_cons_of_some hreply, rows_of_total hrows]
    simp only [pages, List.filterMap_nil, List.flatten_cons, List.flatten_nil, List.append_nil]
    exact List.take_prefix _ _

theorem flatten_pages_of_mem (h : Walk c r ranked hits outcomes exchanges)
    (hnone : .ok none ∈ outcomes) (hsize : 1 ≤ r.batchSize) :
    (pages exchanges).flatten = (ranked.take r.total).drop hits := by
  induction h with
  | stop => cases hnone
  | unreachable _ hfailed =>
    obtain ⟨f, hf⟩ := hfailed _ hnone
    cases hf
  | exhausted h _ =>
    refine (List.drop_eq_nil_of_le ?_).symm
    exact Nat.le_trans (List.length_take_le ..) h
  | failed _ _ hreply _ ih =>
    rw [pages_cons_of_none hreply]
    exact ih ((List.mem_cons.1 hnone).resolve_left nofun)
  | @full hits rows x outcomes exchanges hroom _ hreply hrows hfull _ ih =>
    have hne : (.ok none : Outcome) ≠ .ok (batchOf rows) := by
      rw [batchOf_of_pos (hfull ▸ r.sizeAt_pos hsize hroom)]
      nofun
    rw [pages_cons_of_some hreply, List.flatten_cons, ih ((List.mem_cons.1 hnone).resolve_left hne),
      ← List.drop_drop]
    have hsplit := List.take_append_drop rows.length ((ranked.take r.total).drop hits)
    rwa [hfull, ← rows_of_total hrows, ← hfull] at hsplit
  | @short hits rows x outcomes _ _ hreply hrows hshort _ =>
    -- As fewer rows came than were asked for, there are no more.
    have htotal := rows_of_total hrows
    have hlength := congrArg List.length htotal
    rw [List.length_take] at hlength
    rw [pages_cons_of_some hreply, htotal, List.take_of_length_le (by omega)]
    exact List.append_nil _

theorem position (h : Walk c r ranked hits outcomes exchanges) {before after : List Exchange}
    {x : Exchange} (hsplit : exchanges = before ++ x :: after) :
    hits + (pages before).flatten.length < r.total ∧
      c.AsksFrom r (hits + (pages before).flatten.length) x.request := by
  induction h generalizing before with
  | stop => cases before <;> cases hsplit
  | unreachable => cases before <;> cases hsplit
  | exhausted => cases before <;> cases hsplit
  | failed hroom hasks hreply _ ih =>
    cases before with
    | nil =>
      cases hsplit
      exact ⟨hroom, hasks⟩
    | cons y before =>
      cases hsplit
      rw [pages_cons_of_none hreply]
      exact ih rfl
  | full hroom hasks hreply _ _ _ ih =>
    cases before with
    | nil =>
      cases hsplit
      exact ⟨hroom, hasks⟩
    | cons y before =>
      cases hsplit
      rw [pages_cons_of_some hreply, List.flatten_cons, List.length_append, ← Nat.add_assoc]
      exact ih rfl
  | short hroom hasks =>
    cases before with
    | nil =>
      cases hsplit
      exact ⟨hroom, hasks⟩
    | cons y before => cases before <;> cases hsplit

theorem batches (h : Walk c r ranked hits outcomes exchanges) :
    outcomes.filterMap (·.toOption.join) = (pages exchanges).filterMap batchOf := by
  have hnothing : ∀ outcomes : List Outcome, (∀ o ∈ outcomes, o = .ok none) →
      outcomes.filterMap (·.toOption.join) = [] := by
    intro outcomes hnone
    refine List.filterMap_eq_nil_iff.2 fun o ho => ?_
    rw [hnone o ho]
    rfl
  induction h with
  | stop => rfl
  | unreachable _ hfailed =>
    refine List.filterMap_eq_nil_iff.2 fun o ho => ?_
    obtain ⟨f, rfl⟩ := hfailed o ho
    rfl
  | exhausted _ hnone => exact hnothing _ hnone
  | failed _ _ hreply _ ih => rwa [pages_cons_of_none hreply]
  | full _ _ hreply _ _ _ ih =>
    rw [pages_cons_of_some hreply, List.filterMap_cons, List.filterMap_cons, ih]
    rfl
  | short _ _ hreply _ _ hnone =>
    rw [pages_cons_of_some hreply, List.filterMap_cons, List.filterMap_cons, hnothing _ hnone]
    rfl

theorem answers (h : Walk c r ranked hits outcomes exchanges) :
    (outcomes.take exchanges.length).map (·.toOption) =
      exchanges.map fun x => (rowsOf x.reply).map batchOf := by
  induction h with
  | stop => rfl
  | unreachable => rfl
  | exhausted => rfl
  | failed _ _ hreply _ ih =>
    rw [List.length_cons, List.take_succ_cons, List.map_cons, List.map_cons, ih, hreply]
    rfl
  | full _ _ hreply _ _ _ ih =>
    rw [List.length_cons, List.take_succ_cons, List.map_cons, List.map_cons, ih, hreply]
    rfl
  | short _ _ hreply =>
    rw [List.length_singleton, List.take_succ_cons, List.map_cons, List.map_cons, hreply]
    rfl

theorem length_le (h : Walk c r ranked hits outcomes exchanges) :
    exchanges.length ≤ outcomes.length := by
  induction h with
  | stop => exact Nat.le_refl _
  | unreachable => exact Nat.zero_le _
  | exhausted => exact Nat.zero_le _
  | failed _ _ _ _ ih => exact Nat.succ_le_succ ih
  | full _ _ _ _ _ _ ih => exact Nat.succ_le_succ ih
  | short => exact Nat.succ_le_succ (Nat.zero_le _)

theorem repeats (h : Walk c r ranked hits outcomes exchanges) {before after : List Exchange}
    {x : Exchange} (hsplit : exchanges = before ++ x :: after) (hreply : rowsOf x.reply = none) :
    (∀ y ∈ after.head?, y.request = x.request) ∧
      (after = [] → outcomes.length = exchanges.length) := by
  constructor
  · intro y hy
    cases after with
    | nil => cases hy
    | cons z after =>
      cases hy
      have hnext : exchanges = (before ++ [x]) ++ y :: after := by
        rw [hsplit, List.append_assoc]
        rfl
      obtain ⟨-, target, htarget, hx⟩ := h.position hsplit
      obtain ⟨-, target', htarget', hy⟩ := h.position hnext
      have hlast : pages [x] = [] := pages_cons_of_none hreply []
      have hpages : pages (before ++ [x]) = pages before ++ pages [x] := List.filterMap_append
      rw [htarget] at htarget'
      cases htarget'
      rw [hx, hy, hpages, hlast, List.append_nil]
  · rintro rfl
    induction h generalizing before with
    | stop => cases before <;> cases hsplit
    | unreachable => cases before <;> cases hsplit
    | exhausted => cases before <;> cases hsplit
    | failed hroom hasks _ hrest ih =>
      cases before with
      | nil =>
        cases hsplit
        -- The walk could go on only where it cannot have come to.
        cases hrest with
        | stop => rfl
        | unreachable hnone _ =>
          obtain ⟨target, htarget, -⟩ := hasks
          exact absurd htarget (hnone target)
        | exhausted hall _ => exact absurd hroom (Nat.not_lt.2 hall)
      | cons y before =>
        cases hsplit
        exact congrArg Nat.succ (ih rfl)
    | full _ _ hrows _ _ _ ih =>
      cases before with
      | nil =>
        cases hsplit
        rw [hreply] at hrows
        cases hrows
      | cons y before =>
        cases hsplit
        exact congrArg Nat.succ (ih rfl)
    | short _ _ hrows =>
      cases before with
      | nil =>
        cases hsplit
        rw [hreply] at hrows
        cases hrows
      | cons y before => cases before <;> cases hsplit

theorem ends (h : Walk c r ranked hits outcomes exchanges) (hsize : 1 ≤ r.batchSize)
    {before after : List Outcome}
    (hsplit : outcomes = before ++ .ok none :: after) :
    (∀ o ∈ after, o = .ok none) ∧ exchanges.length ≤ before.length + 1 := by
  induction h generalizing before with
  | stop => cases before <;> cases hsplit
  | unreachable _ hfailed =>
    obtain ⟨f, hf⟩ := hfailed (.ok none) (hsplit ▸ List.mem_append_right _ (List.mem_cons_self ..))
    cases hf
  | exhausted _ hnone =>
    subst hsplit
    exact ⟨fun o ho => hnone o (List.mem_append_right _ (List.mem_cons_of_mem _ ho)), Nat.zero_le _⟩
  | failed _ _ _ _ ih =>
    cases before with
    | nil => cases hsplit
    | cons o before =>
      cases hsplit
      exact (ih rfl).imp_right Nat.succ_le_succ
  | full hroom _ _ _ hfull _ ih =>
    cases before with
    | nil =>
      have hpos := hfull ▸ r.sizeAt_pos hsize hroom
      rw [batchOf_of_pos hpos] at hsplit
      cases hsplit
    | cons o before =>
      cases hsplit
      exact (ih rfl).imp_right Nat.succ_le_succ
  | short _ _ _ _ _ hnone =>
    refine ⟨fun o ho => ?_, Nat.succ_le_succ (Nat.zero_le _)⟩
    cases before with
    | nil =>
      obtain ⟨-, rfl⟩ := List.cons.inj hsplit
      exact hnone o ho
    | cons o' before =>
      cases hsplit
      exact hnone o (List.mem_append_right _ (List.mem_cons_of_mem _ ho))

theorem few (h : Walk c r ranked hits outcomes exchanges) (hsize : 1 ≤ r.batchSize) :
    exchanges.length ≤ r.pagesAt hits + exchanges.countP fun x => (rowsOf x.reply).isNone := by
  induction h with
  | stop => exact Nat.zero_le _
  | unreachable => exact Nat.zero_le _
  | exhausted => exact Nat.zero_le _
  | failed _ _ hreply _ ih =>
    rw [List.length_cons, List.countP_cons_of_pos (by rw [hreply]; rfl)]
    exact Nat.succ_le_succ ih
  | @full hits rows x outcomes exchanges hroom _ hreply _ hfull _ ih =>
    -- A full page is one of those that were left.
    rw [hfull] at ih
    rw [List.length_cons, List.countP_cons_of_neg (by rw [hreply]; nofun),
      ← IteratorRequest.pagesAt_step hsize hroom]
    omega
  | @short hits _ _ _ hroom =>
    have hpos : 1 ≤ r.pagesAt hits := pieces_pos hsize (Nat.sub_pos_of_lt hroom)
    rw [List.length_singleton]
    omega

theorem quiet (h : Walk c r ranked hits outcomes exchanges) :
    (∀ o ∈ outcomes.drop exchanges.length, o = .ok none) ∨
      exchanges = [] ∧ (∀ target, c.searchEndpoint ≠ .ok target) ∧ ∀ o ∈ outcomes, ∃ f, o = .error f := by
  induction h with
  | stop => exact .inl nofun
  | unreachable hnone hfailed => exact .inr ⟨rfl, hnone, hfailed⟩
  | exhausted _ hnone => exact .inl hnone
  | failed _ hasks _ _ ih =>
    obtain ⟨target, htarget, -⟩ := hasks
    exact .inl (ih.resolve_right fun hnowhere => hnowhere.2.1 target htarget)
  | full _ hasks _ _ _ _ ih =>
    obtain ⟨target, htarget, -⟩ := hasks
    exact .inl (ih.resolve_right fun hnowhere => hnowhere.2.1 target htarget)
  | short _ _ _ _ _ hnone => exact .inl hnone

theorem last (h : Walk c r ranked hits outcomes exchanges) {before after : List Exchange} {x : Exchange}
    {rows : List Json} (hsplit : exchanges = before ++ x :: after) (hrows : rowsOf x.reply = some rows)
    (hshort : rows.length < r.sizeAt (hits + (pages before).flatten.length)) : after = [] := by
  induction h generalizing before with
  | stop => cases before <;> cases hsplit
  | unreachable => cases before <;> cases hsplit
  | exhausted => cases before <;> cases hsplit
  | failed _ _ hreply _ ih =>
    cases before with
    | nil =>
      cases hsplit
      rw [hreply] at hrows
      cases hrows
    | cons y before =>
      cases hsplit
      rw [pages_cons_of_none hreply] at hshort
      exact ih rfl hshort
  | full _ _ hreply _ hfull _ ih =>
    cases before with
    | nil =>
      cases hsplit
      rw [hreply] at hrows
      cases hrows
      exact absurd hfull (Nat.ne_of_lt hshort)
    | cons y before =>
      cases hsplit
      rw [pages_cons_of_some hreply, List.flatten_cons, List.length_append, ← Nat.add_assoc] at hshort
      exact ih rfl hshort
  | short =>
    cases before with
    | nil =>
      cases hsplit
      rfl
    | cons y before => cases before <;> cases hsplit

theorem drains (h : Walk c r ranked hits outcomes exchanges) (hsize : 1 ≤ r.batchSize)
    {target : String × Headers} (htarget : c.searchEndpoint = .ok target)
    (hlength : r.pagesAt hits + (exchanges.countP fun x => (rowsOf x.reply).isNone) < outcomes.length) :
    .ok none ∈ outcomes := by
  have hquiet := h.quiet.resolve_right fun hnowhere => hnowhere.2.1 target htarget
  have hmore : 0 < (outcomes.drop exchanges.length).length := by
    rw [List.length_drop]
    exact Nat.sub_pos_of_lt (Nat.lt_of_le_of_lt (h.few hsize) hlength)
  obtain ⟨o, ho⟩ := List.exists_mem_of_length_pos hmore
  exact hquiet o ho ▸ List.mem_of_mem_drop ho

end Walk

/-- A walk as one search: its batches are the first rows of the list, fetched page by page. -/
structure IsOneSearch (c : ClientConfig) (r : IteratorRequest) (ranked : List Json)
    (outcomes : List Outcome) (exchanges : List Exchange) : Prop where
  batches : outcomes.filterMap (·.toOption.join) = (pages exchanges).filterMap batchOf
  inOrder : (pages exchanges).flatten <+: ranked.take r.total
  complete : .ok none ∈ outcomes → (pages exchanges).flatten = ranked.take r.total
  /-- Each request starts where the rows before it end. -/
  requests : ∀ before x after, exchanges = before ++ x :: after → ∃ target body limit,
    c.searchEndpoint = .ok target ∧
    x.request = ⟨.post, target.1, target.2, .json body⟩ ∧
    body.get? "offset" = some (.ofNat (pages before).flatten.length) ∧
    body.get? "limit" = some (.ofNat limit) ∧ 1 ≤ limit ∧ limit ≤ r.batchSize ∧
    (pages before).flatten.length + limit ≤ r.total
  /-- The call after a failed page asks for the same page. -/
  repeats : ∀ before x after, exchanges = before ++ x :: after → rowsOf x.reply = none →
    (∀ y ∈ after.head?, y.request = x.request) ∧
      (after = [] → outcomes.length = exchanges.length)
  /-- A call that asks is answered by the reply. -/
  answers : (outcomes.take exchanges.length).map (·.toOption) =
    exchanges.map fun x => (rowsOf x.reply).map batchOf
  /-- A call that does not ask finds nothing more, unless there is no store to ask. -/
  quiet : (∀ o ∈ outcomes.drop exchanges.length, o = .ok none) ∨
    exchanges = [] ∧ (∀ target, c.searchEndpoint ≠ .ok target) ∧ ∀ o ∈ outcomes, ∃ f, o = .error f
  /-- Nothing is asked for or found after the end. -/
  ends : ∀ before after, outcomes = before ++ .ok none :: after →
    (∀ o ∈ after, o = .ok none) ∧ exchanges.length ≤ before.length + 1
  /-- Nothing is asked for behind a page that is not full. -/
  last : ∀ before x after rows, exchanges = before ++ x :: after → rowsOf x.reply = some rows →
    rows.length < min r.batchSize (r.total - (pages before).flatten.length) → after = []
  few : exchanges.length ≤ (r.total + r.batchSize - 1) / r.batchSize +
    exchanges.countP fun x => (rowsOf x.reply).isNone
  /-- With one call more than there are pages and failed pages, all rows are found. -/
  drains : (∃ target, c.searchEndpoint = .ok target) →
    (r.total + r.batchSize - 1) / r.batchSize + (exchanges.countP fun x => (rowsOf x.reply).isNone) <
      outcomes.length → .ok none ∈ outcomes ∧ (pages exchanges).flatten = ranked.take r.total

theorem Walk.isOneSearch {c : ClientConfig} {r : IteratorRequest} {ranked : List Json}
    {outcomes : List Outcome} {exchanges : List Exchange}
    (h : Walk c r ranked 0 outcomes exchanges) (hsize : 1 ≤ r.batchSize) :
    IsOneSearch c r ranked outcomes exchanges where
  batches := h.batches
  inOrder := h.flatten_pages
  complete hnone := h.flatten_pages_of_mem hnone hsize
  requests before x after hsplit := by
    obtain ⟨hroom, hasks⟩ := h.position hsplit
    rw [Nat.zero_add] at hroom hasks
    obtain ⟨target, body, htarget, hrequest, hoffset, hlimit⟩ := hasks.body
    refine ⟨target, body, _, htarget, hrequest, hoffset, hlimit, r.sizeAt_pos hsize hroom,
      Nat.min_le_left _ _, ?_⟩
    have hle := Nat.min_le_right r.batchSize (r.total - (pages before).flatten.length)
    rw [IteratorRequest.sizeAt]
    omega
  repeats _ _ _ hsplit hreply := h.repeats hsplit hreply
  answers := h.answers
  quiet := h.quiet
  ends _ _ hsplit := h.ends hsize hsplit
  last before _ _ _ hsplit hrows hshort := by
    refine h.last hsplit hrows ?_
    rwa [Nat.zero_add]
  few := h.few hsize
  drains := by
    rintro ⟨target, htarget⟩ hlength
    have hnone := h.drains hsize htarget hlength
    exact ⟨hnone, h.flatten_pages_of_mem hnone hsize⟩

/-- Calls for the next batch of a store with these rows are one search for the first of them. -/
theorem ClientConfig.nexts_isOneSearch (c : ClientConfig) (r : IteratorRequest)
    (hsize : 1 ≤ r.batchSize) (ranked : List Json) (count : Nat) (s : Session)
    (hserves : ∀ exchanges, s.Makes exchanges (c.nexts r count .start s).2 →
      ∀ x ∈ exchanges, serves ranked x = true) :
    r.total = (if r.limit = 0 then 16384 else min r.limit 16384) ∧
      ∃ exchanges, s.Makes exchanges (c.nexts r count .start s).2 ∧
        IsOneSearch c r ranked (c.nexts r count .start s).1 exchanges := by
  obtain ⟨exchanges, hmakes, hwalk⟩ := nexts_walk hsize ranked count s
  exact ⟨rfl, exchanges, hmakes, (hwalk (hserves exchanges hmakes)).isOneSearch hsize⟩

def threeRows : List Json :=
  ["a", "b", "c"].map fun id => .obj [("distance", .int 1), ("id", .str id)]

def inPairs : IteratorRequest :=
  ⟨"docs", .vector [], "vector", 2, 0, [], .empty, [], none, none, none⟩

def busyOnce : Session :=
  ⟨[answering (.arr (threeRows.take 2)), .answered ⟨503, .empty, .ok ""⟩ [],
    answering (.arr (threeRows.drop 2))], [], [], 0, 0⟩

theorem ClientConfig.nexts_isOneSearch_busyOnce :
    let run := (ClientConfig.ofAddress "http://milvus:19530").nexts inPairs 4 .start busyOnce
    (∀ exchanges, busyOnce.Makes exchanges run.2 → ∀ x ∈ exchanges, serves threeRows x = true) ∧
      run.1.map (·.toOption.map (Option.map (·.size))) =
        [some (some 2), none, some (some 1), some none] ∧
      ∃ exchanges, busyOnce.Makes exchanges run.2 ∧
        IsOneSearch (.ofAddress "http://milvus:19530") inPairs threeRows run.1 exchanges := by
  intro run
  have hserves : ∀ exchanges, busyOnce.Makes exchanges run.2 →
      ∀ x ∈ exchanges, serves threeRows x = true := by
    intro exchanges hmakes
    rw [← List.all_eq_true, hmakes.eq_zipWith]
    decide +kernel
  have hsizes : run.1.map (·.toOption.map (Option.map (·.size))) =
      [some (some 2), none, some (some 1), some none] := by decide +kernel
  exact ⟨hserves, hsizes, (nexts_isOneSearch _ inPairs (by decide) threeRows 4 busyOnce hserves).2⟩

end ChatRetrieval.Milvus
