import ChatRetrieval.Elastic.Indexer
import ChatRetrieval.Proofs.Http.Session
import ChatRetrieval.Proofs.Number.Pieces

/-!
The sources of a batch. All texts of a batch are embedded at once, yet where the vector of a text is a
matter of the text alone every document gets the source it would get on its own.
-/

namespace ChatRetrieval.Elastic

section

variable {α : Type} (size : Nat) (items : List α)

theorem flatten_chunks : (chunks size items).flatten = items := by
  induction items using chunks.induct size with
  | case1 => rw [chunks, List.flatten_nil]
  | case2 x r ih => rw [chunks, List.flatten_cons, ih, List.cons_append, List.take_append_drop]

theorem ne_nil_of_mem_chunks {size : Nat} {items piece : List α} (h : piece ∈ chunks size items) :
    piece ≠ [] := by
  induction items using chunks.induct size with
  | case1 =>
    rw [chunks] at h
    cases h
  | case2 x r ih =>
    rw [chunks] at h
    rcases List.mem_cons.1 h with rfl | h
    · exact List.cons_ne_nil _ _
    · exact ih h

theorem length_chunks {size : Nat} (h : 1 ≤ size) :
    (chunks size items).length = pieces size items.length := by
  induction items using chunks.induct size with
  | case1 =>
    rw [chunks]
    exact (pieces_zero h).symm
  | case2 x r ih =>
    have hrest : (x :: r).length - min size (x :: r).length = (r.drop (size - 1)).length := by
      rw [List.length_cons, List.length_drop]
      omega
    have hpos : 0 < (x :: r).length := Nat.succ_pos _
    rw [chunks, List.length_cons, ih, ← pieces_step h hpos, hrest]

end

def textVectors (embedder : Option Embedder) (texts : List String) : Result (List (List Double)) :=
  match embedder with
  | none => Result.fail "[makeBatch] embedding method not provided"
  | some e => do
    let vectors ← Result.within "[makeBatch] embedding failed" (e.vectors texts)
    if vectors.length = texts.length then return vectors
    else Result.fail ("[makeBatch] invalid vector length, expected=" ++ Text.decimal texts.length ++
      ", got=" ++ Text.decimal vectors.length)

/-- The sources of a batch, on which the session has no influence. -/
def batchSources (mapping : FieldMapping) (embedder : Option Embedder) (docs : List Document) :
    Result (List (Dict String Json)) := do
  let (sources, tasks) ← collect mapping 0 docs
  if tasks.isEmpty then return sources
  let vectors ← textVectors embedder (tasks.map (·.text))
  return storeVectors (tasks.zip vectors) 0 sources

theorem makeBatch_run (mapping : FieldMapping) (embedder : Option Embedder) (docs : List Document)
    (s : Session) :
    ∃ embedded, makeBatch mapping embedder docs s =
      (batchSources mapping embedder docs, { s with embedded }) := by
  unfold batchSources makeBatch
  cases collect mapping 0 docs with
  | error f => exact ⟨s.embedded, rfl⟩
  | ok found =>
    obtain ⟨sources, _ | ⟨t, rest⟩⟩ := found
    · exact ⟨s.embedded, rfl⟩
    cases embedder with
    | none => exact ⟨s.embedded, rfl⟩
    | some e =>
      refine ⟨s.embedded ++ [(t :: rest).map (·.text)], ?_⟩
      simp only [Action.lift_ok_bind, Result.ok_bind, List.isEmpty_cons, Bool.false_eq_true, if_false,
        textVectors, Embedder.bind_embed, List.length_map]
      cases Result.within "[makeBatch] embedding failed" (e.vectors ((t :: rest).map (·.text))) with
      | error f => rfl
      | ok vectors =>
        simp only [Result.ok_bind]
        split <;> rfl

theorem Indexer.storeBatch_of_error {i : Indexer} {embedder : Option Embedder}
    {batch : List Document} {s t : Session} {f : Failure}
    (h : makeBatch i.fields embedder batch s = (.error f, t)) :
    i.storeBatch embedder batch s = (.error f, t) := Action.bind_of_error h _

def documentFields (mapping : FieldMapping) (n : Nat) (d : Document) :
    Result (Dict String Json × List VectorTask) := do
  let fields ← Result.within "[makeBatch] FieldValueMapping failed" (mapping d)
  let tasks ← fields.entries.mapM fun e => vectorTask n fields e.1 e.2
  return (fields.map (·.value), tasks.filterMap id)

def VectorTask.at (n : Nat) (t : VectorTask) : VectorTask := { t with document := n }

/-- The source of a document by itself; the vector of a text depends on nothing else. -/
def documentSource (mapping : FieldMapping) (vectorOf : String → Option (List Double))
    (d : Document) : Option (Dict String Json) := do
  let own ← (documentFields mapping 0 d).toOption
  let vectors ← own.2.mapM fun t => vectorOf t.text
  return own.1.insertMany ((own.2.zip vectors).map fun r => (r.1.name, vectorToJson r.2))

/-- An embedder whose vector for a text depends on that text alone; without a vector for one of them
it refuses the texts. No embedder has no vector for any text. -/
def EmbedsBy (embedder : Option Embedder) (vectorOf : String → Option (List Double)) : Prop :=
  match embedder with
  | none => ∀ text, vectorOf text = none
  | some e => ∀ texts ≠ [], (e.vectors texts).toOption = texts.mapM vectorOf

section

variable {mapping : FieldMapping} {n : Nat} {d : Document} {docs : List Document}

theorem collect_cons (mapping : FieldMapping) (n : Nat) (d : Document) (docs : List Document) :
    collect mapping n (d :: docs) = do
      let own ← documentFields mapping n d
      let more ← collect mapping (n + 1) docs
      return (own.1 :: more.1, own.2 ++ more.2) := by
  rw [collect, documentFields]
  cases Result.within "[makeBatch] FieldValueMapping failed" (mapping d) with
  | error f => rfl
  | ok fields =>
    simp only [Result.ok_bind]
    cases (fields.entries.mapM fun e => vectorTask n fields e.1 e.2) <;> rfl

theorem vectorTask_at (n : Nat) (fields : Dict String FieldValue) (key : String) (f : FieldValue) :
    vectorTask n fields key f = (vectorTask 0 fields key f).map (Option.map (·.at n)) := by
  unfold vectorTask
  cases f.vector with
  | none => rfl
  | some v =>
    simp only
    split
    · rfl
    · split
      · rfl
      · cases vectorText key f.value v <;> rfl

theorem documentFields_at (mapping : FieldMapping) (n : Nat) (d : Document) :
    documentFields mapping n d =
      (documentFields mapping 0 d).map fun p => (p.1, p.2.map (·.at n)) := by
  unfold documentFields
  cases Result.within "[makeBatch] FieldValueMapping failed" (mapping d) with
  | error f => rfl
  | ok fields =>
    have htasks : (fields.entries.mapM fun e => vectorTask n fields e.1 e.2) =
        (fields.entries.mapM fun e => vectorTask 0 fields e.1 e.2).map
          (List.map (Option.map (·.at n))) := by
      rw [← Result.mapM_map]
      exact congrArg (fields.entries.mapM ·) (funext fun e => vectorTask_at n fields e.1 e.2)
    simp only [Result.ok_bind, htasks]
    cases (fields.entries.mapM fun e => vectorTask 0 fields e.1 e.2) with
    | error f => rfl
    | ok tasks =>
      have hmap : (tasks.map (Option.map (·.at n))).filterMap id =
          (tasks.filterMap id).map (·.at n) := by
        rw [List.filterMap_map, List.map_filterMap]
        rfl
      simp only [Except.map, Result.ok_bind, hmap]
      rfl

theorem document_of_mem_documentFields {source : Dict String Json} {own : List VectorTask}
    (h : documentFields mapping n d = .ok (source, own)) {t : VectorTask} (ht : t ∈ own) :
    t.document = n := by
  rw [documentFields_at] at h
  obtain ⟨p, -, hp⟩ := Result.map_eq_ok h
  cases hp
  obtain ⟨u, -, rfl⟩ := List.mem_map.1 ht
  rfl

theorem le_document_of_mem_collect {sources : List (Dict String Json)} {tasks : List VectorTask}
    (h : collect mapping n docs = .ok (sources, tasks)) {t : VectorTask} (ht : t ∈ tasks) :
    n ≤ t.document := by
  induction docs generalizing n sources tasks with
  | nil =>
    cases h
    cases ht
  | cons d docs ih =>
    rw [collect_cons] at h
    obtain ⟨own, hown, h⟩ := Result.bind_eq_ok h
    obtain ⟨more, hmore, h⟩ := Result.bind_eq_ok h
    cases h
    rcases List.mem_append.1 ht with ht | ht
    · exact Nat.le_of_eq (document_of_mem_documentFields hown ht).symm
    · exact Nat.le_of_succ_le (ih hmore ht)

theorem storeVectors_append_of_lt {own others : List (VectorTask × List Double)}
    (h : ∀ r ∈ own, r.1.document < n) (sources : List (Dict String Json)) :
    storeVectors (own ++ others) n sources = storeVectors others n sources := by
  induction sources generalizing n with
  | nil => rfl
  | cons source rest ih =>
    have hnone : own.filter (fun r => r.1.document = n) = [] := by
      rw [List.filter_eq_nil_iff]
      intro r hr
      exact decide_eq_true_iff.not.2 (Nat.ne_of_lt (h r hr))
    rw [storeVectors, storeVectors, List.filter_append, hnone, List.nil_append,
      ih fun r hr => Nat.lt_succ_of_lt (h r hr)]

theorem storeVectors_cons {own others : List (VectorTask × List Double)}
    (hown : ∀ r ∈ own, r.1.document = n) (hothers : ∀ r ∈ others, n < r.1.document)
    (source : Dict String Json) (rest : List (Dict String Json)) :
    storeVectors (own ++ others) n (source :: rest) =
      source.insertMany (own.map fun r => (r.1.name, vectorToJson r.2)) ::
        storeVectors others (n + 1) rest := by
  have hall : own.filter (fun r => r.1.document = n) = own :=
    List.filter_eq_self.2 fun r hr => decide_eq_true (hown r hr)
  have hnone : others.filter (fun r => r.1.document = n) = [] := by
    rw [List.filter_eq_nil_iff]
    intro r hr
    exact decide_eq_true_iff.not.2 (Nat.ne_of_gt (hothers r hr))
  rw [storeVectors, List.filter_append, hall, hnone, List.append_nil,
    storeVectors_append_of_lt fun r hr => Nat.lt_succ_of_le (Nat.le_of_eq (hown r hr))]

theorem storeVectors_nil (n : Nat) (sources : List (Dict String Json)) :
    storeVectors [] n sources = sources := by
  induction sources generalizing n with
  | nil => rfl
  | cons source rest ih =>
    rw [storeVectors, ih]
    rfl

end

theorem map_some_of_mapM {α β : Type} {f : α → Option β} {l : List α} {m : List β}
    (h : l.mapM f = some m) : l.map f = m.map some := by
  induction l generalizing m with
  | nil =>
    cases h
    rfl
  | cons a r ih =>
    rw [List.mapM_cons] at h
    obtain ⟨b, hb, h⟩ := Option.bind_eq_some_iff.1 h
    obtain ⟨s, hs, h⟩ := Option.bind_eq_some_iff.1 h
    cases h
    rw [List.map_cons, hb, ih hs, List.map_cons]

theorem length_of_mapM {α β : Type} {f : α → Option β} {l : List α} {m : List β}
    (h : l.mapM f = some m) : m.length = l.length := by
  have hlength := congrArg List.length (map_some_of_mapM h)
  rw [List.length_map, List.length_map] at hlength
  exact hlength.symm

theorem isSome_mapM {α β : Type} (f : α → Option β) (l : List α) :
    (l.mapM f).isSome = l.all fun a => (f a).isSome := by
  induction l with
  | nil => rfl
  | cons a r ih =>
    rw [List.mapM_cons, List.all_cons, ← ih]
    cases f a with
    | none => rfl
    | some b => cases r.mapM f <;> rfl

/-- The sources that a collected batch gets from a vector for each text. -/
def finish (vectorOf : String → Option (List Double)) (n : Nat)
    (found : List (Dict String Json) × List VectorTask) : Option (List (Dict String Json)) :=
  (found.2.mapM fun t => vectorOf t.text).map fun vectors =>
    storeVectors (found.2.zip vectors) n found.1

theorem finish_cons {mapping : FieldMapping} {vectorOf : String → Option (List Double)} {n : Nat}
    {d : Document} {docs : List Document} {source : Dict String Json} {own more : List VectorTask}
    {sources : List (Dict String Json)} (hown : documentFields mapping 0 d = .ok (source, own))
    (hmore : collect mapping (n + 1) docs = .ok (sources, more)) :
    finish vectorOf n (source :: sources, own.map (·.at n) ++ more) =
      (documentSource mapping vectorOf d).bind fun first =>
        (finish vectorOf (n + 1) (sources, more)).map (first :: ·) := by
  have hown' : documentFields mapping n d = .ok (source, own.map (·.at n)) := by
    rw [documentFields_at, hown]
    rfl
  have htexts : (own.map (·.at n)).mapM (fun t => vectorOf t.text) =
      own.mapM fun t => vectorOf t.text := List.mapM_map
  have hsource : documentSource mapping vectorOf d =
      (own.mapM fun t => vectorOf t.text).map fun vectors =>
        source.insertMany ((own.zip vectors).map fun r => (r.1.name, vectorToJson r.2)) := by
    rw [documentSource, hown, Option.map_eq_bind]
    rfl
  -- The texts of the first document come first, so that its vectors are those in front.
  rw [hsource, finish, finish, List.mapM_append, htexts]
  cases hfirst : own.mapM fun t => vectorOf t.text with
  | none => rfl
  | some first =>
    cases hothers : more.mapM fun t => vectorOf t.text with
    | none => rfl
    | some others =>
      have hlength : (own.map (·.at n)).length = first.length := by
        rw [List.length_map, length_of_mapM hfirst]
      have hstored : storeVectors ((own.map (·.at n)).zip first ++ more.zip others) n
          (source :: sources) = _ :: storeVectors (more.zip others) (n + 1) sources :=
        storeVectors_cons (fun r hr => document_of_mem_documentFields hown' (List.of_mem_zip hr).1)
          (fun r hr => le_document_of_mem_collect hmore (List.of_mem_zip hr).1) source sources
      have hnamed : ((own.map (·.at n)).zip first).map (fun r => (r.1.name, vectorToJson r.2)) =
          (own.zip first).map fun r => (r.1.name, vectorToJson r.2) := by
        rw [List.zip_map_left, List.map_map]
        rfl
      rw [hnamed, ← List.zip_append hlength] at hstored
      exact congrArg some hstored

/-- Where the vector of a text depends on the text alone, documents that are collected together get
the sources they get one by one. -/
theorem collect_sources (mapping : FieldMapping) (vectorOf : String → Option (List Double)) (n : Nat)
    (docs : List Document) :
    (collect mapping n docs).toOption.bind (finish vectorOf n) =
      docs.mapM (documentSource mapping vectorOf) := by
  -- The number of a document says only where its vectors go, so `n` is left open.
  induction docs generalizing n with
  | nil => rfl
  | cons d docs ih =>
    rw [collect_cons, List.mapM_cons, ← ih (n + 1), documentFields_at]
    cases hown : documentFields mapping 0 d with
    | error f =>
      rw [documentSource, hown]
      rfl
    | ok found =>
      obtain ⟨source, own⟩ := found
      cases hmore : collect mapping (n + 1) docs with
      | error f =>
        cases documentSource mapping vectorOf d <;> rfl
      | ok found =>
        obtain ⟨sources, more⟩ := found
        refine (finish_cons hown hmore).trans ?_
        cases documentSource mapping vectorOf d with
        | none => rfl
        | some first => exact Option.map_eq_bind ..

theorem textVectors_toOption {embedder : Option Embedder}
    {vectorOf : String → Option (List Double)} (h : EmbedsBy embedder vectorOf) (text : String)
    (rest : List String) :
    (textVectors embedder (text :: rest)).toOption = (text :: rest).mapM vectorOf := by
  cases embedder with
  | none =>
    rw [List.mapM_cons, h text]
    rfl
  | some e =>
    have hvectors := h (text :: rest) (List.cons_ne_nil text rest)
    rw [textVectors, Result.toOption_bind, Result.toOption_within, hvectors]
    cases hall : (text :: rest).mapM vectorOf with
    | none => rfl
    | some vectors =>
      rw [Option.bind_some, if_pos (length_of_mapM hall)]
      rfl

theorem batchSources_toOption {embedder : Option Embedder}
    {vectorOf : String → Option (List Double)} (h : EmbedsBy embedder vectorOf)
    (mapping : FieldMapping) (docs : List Document) :
    (batchSources mapping embedder docs).toOption =
      docs.mapM (documentSource mapping vectorOf) := by
  rw [← collect_sources mapping vectorOf 0 docs, batchSources, Result.toOption_bind]
  congr 1
  funext found
  obtain ⟨sources, _ | ⟨t, rest⟩⟩ := found
  · exact congrArg some (storeVectors_nil 0 sources).symm
  · have hvectors := textVectors_toOption h t.text (rest.map (·.text))
    rw [← List.map_cons, List.mapM_map] at hvectors
    simp only [List.isEmpty_cons, Bool.false_eq_true, if_false]
    rw [Result.toOption_bind, hvectors, finish, Option.map_eq_bind]
    rfl

end ChatRetrieval.Elastic
