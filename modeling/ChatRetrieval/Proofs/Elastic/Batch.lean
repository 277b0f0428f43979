import ChatRetrieval.Proofs.Elastic.Sources
import ChatRetrieval.Proofs.Json.Lookup
import ChatRetrieval.Proofs.Result

/-!
The vectors of a batch. All texts of a batch are embedded in one go and the vectors are dealt out by
their places. They get to the documents and the names they are meant for; where two fields of a
document give one name, the vector of the later field takes it.
-/

namespace ChatRetrieval.Elastic

/-- A vector to be stored with a document, and the text it is the vector of. -/
structure TextVector where
  name : String
  text : String
  vector : List Double

structure Row where
  fields : Dict String FieldValue
  /-- A vector for each field that asks for one, in the order of the fields. -/
  vectors : List TextVector

/-- Under this name, which is no field's, the field asks for the vector of this text. -/
def AsksFor (fields : Dict String FieldValue) (e : String × FieldValue) (name text : String) : Prop :=
  ∃ f, e.2.vector = some f ∧ f.name = name ∧ fields.get? name = none ∧
    vectorText e.1 e.2.value f = .ok text

namespace Row

/-- The row has the fields of this document, and vectors for those that ask for them. -/
structure IsOf (mapping : FieldMapping) (d : Document) (row : Row) : Prop where
  mapped : mapping d = .ok row.fields
  vectors : List.Forall₂ (fun e (v : TextVector) => AsksFor row.fields e v.name v.text)
    (row.fields.entries.filter fun e => e.2.vector.isSome) row.vectors

/-- The source has what the row has and nothing else. Of the vectors of one name it has the last. -/
structure Fills (row : Row) (source : Dict String Json) : Prop where
  fields : ∀ key f, row.fields.get? key = some f → source.get? key = some f.value
  vectors : ∀ earlier v later, row.vectors = earlier ++ v :: later →
    (∀ w ∈ later, w.name ≠ v.name) → source.get? v.name = some (vectorToJson v.vector)
  only : ∀ key, source.get? key ≠ none →
    row.fields.get? key ≠ none ∨ ∃ v ∈ row.vectors, v.name = key

def plain (row : Row) : Dict String Json := row.fields.map (·.value)

/-- The values of the fields and the vectors, written one after the other. -/
def source (row : Row) : Dict String Json :=
  row.plain.insertMany (row.vectors.map fun v => (v.name, vectorToJson v.vector))

end Row

def TextVector.task (n : Nat) (v : TextVector) : VectorTask := ⟨n, v.name, v.text⟩

def rowTasks (n : Nat) : List Row → List VectorTask
  | [] => []
  | row :: rest => row.vectors.map (·.task n) ++ rowTasks (n + 1) rest

section

variable {fields : Dict String FieldValue} {n : Nat} {e : String × FieldValue}

theorem vectorTask_of_none (h : ¬e.2.vector.isSome = true) :
    vectorTask n fields e.1 e.2 = .ok none := by
  rw [vectorTask, Option.not_isSome_iff_eq_none.1 h]

theorem vectorTask_eq_ok_iff (he : e ∈ fields.entries) (h : e.2.vector.isSome = true)
    (o : Option VectorTask) :
    vectorTask n fields e.1 e.2 = .ok o ↔
      ∃ t, o = some t ∧ t.document = n ∧ AsksFor fields e t.name t.text := by
  obtain ⟨f, hf⟩ := Option.isSome_iff_exists.1 h
  have hself : fields.get? e.1 = some e.2 := Dict.get?_eq_some_iff.2 he
  simp only [vectorTask, hf]
  constructor
  · intro ho
    split at ho
    · cases ho
    · split at ho
      · cases ho
      · rename_i hfree
        obtain ⟨text, htext, rfl⟩ := Result.map_eq_ok ho
        exact ⟨_, rfl, rfl, f, hf, rfl, Option.not_isSome_iff_eq_none.1 hfree, htext⟩
  · rintro ⟨t, rfl, rfl, g, hg, hname, hfree, htext⟩
    obtain rfl : f = g := Option.some.inj (hf.symm.trans hg)
    rw [← hname] at hfree
    have hne : e.1 ≠ f.name := by
      intro hkey
      rw [← hkey, hself] at hfree
      cases hfree
    have hcontains : ¬fields.contains f.name = true := by
      rw [Dict.contains, hfree]
      nofun
    rw [if_neg hne, if_neg hcontains, htext, hname]
    rfl

end

section

variable {mapping : FieldMapping} {n : Nat} {d : Document}

theorem documentFields_eq_ok_iff {source : Dict String Json} {own : List VectorTask} :
    documentFields mapping n d = .ok (source, own) ↔
      ∃ fields, mapping d = .ok fields ∧ source = fields.map (·.value) ∧
        List.Forall₂ (fun e t => t.document = n ∧ AsksFor fields e t.name t.text)
          (fields.entries.filter fun e => e.2.vector.isSome) own := by
  have htasks (fields : Dict String FieldValue) :
      (∃ tasks, (fields.entries.mapM fun e => vectorTask n fields e.1 e.2) = .ok tasks ∧
        tasks.filterMap id = own) ↔
      List.Forall₂ (fun e t => t.document = n ∧ AsksFor fields e t.name t.text)
        (fields.entries.filter fun e => e.2.vector.isSome) own :=
    Result.mapM_filterMap_id_iff (fun _ _ => vectorTask_of_none) fun _ => vectorTask_eq_ok_iff
  simp only [← htasks]
  constructor
  · intro h
    obtain ⟨fields, hfields, h⟩ := Result.bind_eq_ok h
    obtain ⟨tasks, hall, h⟩ := Result.bind_eq_ok h
    cases h
    exact ⟨fields, Result.within_eq_ok_iff.1 hfields, rfl, tasks, hall, rfl⟩
  · rintro ⟨fields, hfields, rfl, tasks, hall, rfl⟩
    rw [documentFields, hfields, Result.within, Result.ok_bind, hall]
    rfl

theorem documentFields_of_isOf {row : Row} (h : row.IsOf mapping d) (n : Nat) :
    documentFields mapping n d = .ok (row.plain, row.vectors.map (·.task n)) := by
  refine documentFields_eq_ok_iff.2 ⟨row.fields, h.mapped, rfl, ?_⟩
  rw [List.forall₂_map_right_iff]
  exact h.vectors.imp fun _ _ hasks => ⟨rfl, hasks⟩

theorem exists_row_of_documentFields {source : Dict String Json} {own : List VectorTask}
    (h : documentFields mapping n d = .ok (source, own)) {vectors : List (List Double)}
    (hlength : vectors.length = own.length) :
    ∃ row : Row, row.IsOf mapping d ∧ row.vectors.map (·.vector) = vectors := by
  obtain ⟨fields, hfields, -, hasks⟩ := documentFields_eq_ok_iff.1 h
  refine ⟨⟨fields, (own.zip vectors).map fun r => ⟨r.1.name, r.1.text, r.2⟩⟩, ⟨hfields, ?_⟩, ?_⟩
  · rw [List.forall₂_map_right_iff]
    rw [← List.map_fst_zip (Nat.le_of_eq hlength.symm), List.forall₂_map_right_iff] at hasks
    exact hasks.imp fun _ _ hasks => hasks.2
  · rw [List.map_map]
    exact List.map_snd_zip (Nat.le_of_eq hlength)

theorem collect_of_isOf {docs : List Document} {rows : List Row}
    (h : List.Forall₂ (fun d row => row.IsOf mapping d) docs rows) (n : Nat) :
    collect mapping n docs = .ok (rows.map Row.plain, rowTasks n rows) := by
  induction h generalizing n with
  | nil => rfl
  | cons hrow _ ih =>
    rw [collect_cons, documentFields_of_isOf hrow n, ih (n + 1)]
    rfl

theorem exists_rows_of_collect {docs : List Document} {sources : List (Dict String Json)}
    {tasks : List VectorTask} (h : collect mapping n docs = .ok (sources, tasks))
    {vectors : List (List Double)} (hlength : vectors.length = tasks.length) :
    ∃ rows : List Row, List.Forall₂ (fun d row => row.IsOf mapping d) docs rows ∧
      (rows.flatMap (·.vectors)).map (·.vector) = vectors := by
  induction docs generalizing n sources tasks vectors with
  | nil =>
    cases h
    exact ⟨[], .nil, (List.eq_nil_of_length_eq_zero hlength).symm⟩
  | cons d docs ih =>
    rw [collect_cons] at h
    obtain ⟨⟨source, own⟩, hown, h⟩ := Result.bind_eq_ok h
    obtain ⟨⟨sources, more⟩, hmore, h⟩ := Result.bind_eq_ok h
    cases h
    have hlength : vectors.length = own.length + more.length := hlength.trans List.length_append
    have hfirst : (vectors.take own.length).length = own.length := by
      rw [List.length_take]
      omega
    have hrest : (vectors.drop own.length).length = more.length := by
      rw [List.length_drop]
      omega
    obtain ⟨row, hrow, hvectors⟩ := exists_row_of_documentFields hown hfirst
    obtain ⟨rows, hrows, hothers⟩ := ih hmore hrest
    refine ⟨row :: rows, .cons hrow hrows, ?_⟩
    rw [List.flatMap_cons, List.map_append, hvectors, hothers, List.take_append_drop]

end

theorem map_text_rowTasks (n : Nat) (rows : List Row) :
    (rowTasks n rows).map (·.text) = (rows.flatMap (·.vectors)).map (·.text) := by
  induction rows generalizing n with
  | nil => rfl
  | cons row rest ih =>
    rw [rowTasks, List.map_append, ih, List.map_map, List.flatMap_cons, List.map_append]
    rfl

theorem le_document_of_mem_rowTasks {n : Nat} {rows : List Row} {t : VectorTask}
    (h : t ∈ rowTasks n rows) : n ≤ t.document := by
  induction rows generalizing n with
  | nil => cases h
  | cons row rest ih =>
    rcases List.mem_append.1 h with h | h
    · obtain ⟨v, -, rfl⟩ := List.mem_map.1 h
      exact Nat.le_refl n
    · exact Nat.le_of_succ_le (ih h)

theorem storeVectors_rowTasks (n : Nat) (rows : List Row) :
    storeVectors ((rowTasks n rows).zip ((rows.flatMap (·.vectors)).map (·.vector))) n
      (rows.map Row.plain) = rows.map Row.source := by
  induction rows generalizing n with
  | nil => rfl
  | cons row rest ih =>
    have hlength : (row.vectors.map (·.task n)).length = (row.vectors.map (·.vector)).length := by
      rw [List.length_map, List.length_map]
    have hown : ∀ r ∈ (row.vectors.map (·.task n)).zip (row.vectors.map (·.vector)),
        r.1.document = n := by
      intro r hr
      obtain ⟨v, -, hv⟩ := List.mem_map.1 (List.of_mem_zip hr).1
      rw [← hv]
      rfl
    have hothers : ∀ r ∈ (rowTasks (n + 1) rest).zip ((rest.flatMap (·.vectors)).map (·.vector)),
        n < r.1.document := fun r hr => le_document_of_mem_rowTasks (List.of_mem_zip hr).1
    rw [rowTasks, List.flatMap_cons, List.map_append, List.zip_append hlength, List.map_cons,
      storeVectors_cons hown hothers, ih, List.map_cons, List.zip_map', List.map_map]
    rfl

theorem exists_last_named {vectors : List TextVector} {name : String}
    (h : ∃ v ∈ vectors, v.name = name) : ∃ earlier v later,
      vectors = earlier ++ v :: later ∧ v.name = name ∧ ∀ w ∈ later, w.name ≠ name := by
  induction vectors with
  | nil =>
    obtain ⟨v, hv, -⟩ := h
    cases hv
  | cons u rest ih =>
    by_cases hrest : ∃ v ∈ rest, v.name = name
    · obtain ⟨earlier, v, later, rfl, hv, hlater⟩ := ih hrest
      exact ⟨u :: earlier, v, later, rfl, hv, hlater⟩
    · obtain ⟨v, hv, hname⟩ := h
      rcases List.mem_cons.1 hv with rfl | hv
      · exact ⟨[], v, rest, rfl, hname, fun w hw hw' => hrest ⟨w, hw, hw'⟩⟩
      · exact absurd ⟨v, hv, hname⟩ hrest

namespace Row

variable {row : Row}

theorem get?_plain (row : Row) (key : String) :
    row.plain.get? key = (row.fields.get? key).map (·.value) := Dict.get?_map ..

theorem get?_source_of_notMem {key : String} (h : ∀ v ∈ row.vectors, v.name ≠ key) :
    row.source.get? key = (row.fields.get? key).map (·.value) := by
  have hnone : (row.vectors.map fun v => (v.name, vectorToJson v.vector)).reverse.lookup key =
      none := by
    apply lookup_eq_none_of_notMem
    simpa using h
  rw [source, Dict.get?_insertMany_eq, hnone, Option.none_or, get?_plain]

theorem get?_source_of_last {earlier later : List TextVector} {v : TextVector}
    (h : row.vectors = earlier ++ v :: later) (hlater : ∀ w ∈ later, w.name ≠ v.name) :
    row.source.get? v.name = some (vectorToJson v.vector) := by
  have hnone : (later.map fun w => (w.name, vectorToJson w.vector)).reverse.lookup v.name = none := by
    apply lookup_eq_none_of_notMem
    simpa using hlater
  rw [source, Dict.get?_insertMany_eq, h, List.map_append, List.map_cons, List.reverse_append,
    List.reverse_cons, List.lookup_append, List.lookup_append, hnone, Option.none_or,
    List.lookup_cons_self]
  rfl

theorem fills_source (h : ∀ v ∈ row.vectors, row.fields.get? v.name = none) :
    row.Fills row.source where
  fields key f hf := by
    have hfree : ∀ v ∈ row.vectors, v.name ≠ key := by
      rintro v hv rfl
      rw [h v hv] at hf
      cases hf
    rw [get?_source_of_notMem hfree, hf, Option.map_some]
  vectors _ _ _ hvectors hlater := get?_source_of_last hvectors hlater
  only key hkey := by
    by_contra hnone
    rw [not_or, not_not, not_exists] at hnone
    have hfree : ∀ v ∈ row.vectors, v.name ≠ key := fun v hv hname => hnone.2 v ⟨hv, hname⟩
    rw [get?_source_of_notMem hfree, hnone.1] at hkey
    exact hkey rfl

theorem Fills.eq_source {filled : Dict String Json} (h : row.Fills filled) : filled = row.source := by
  refine Dict.ext_get? fun key => ?_
  by_cases hnamed : ∃ v ∈ row.vectors, v.name = key
  · obtain ⟨earlier, v, later, hvectors, rfl, hlater⟩ := exists_last_named hnamed
    rw [h.vectors earlier v later hvectors hlater, get?_source_of_last hvectors hlater]
  · have hfree : ∀ v ∈ row.vectors, v.name ≠ key := fun v hv hname => hnamed ⟨v, hv, hname⟩
    rw [get?_source_of_notMem hfree]
    cases hf : row.fields.get? key with
    | some f => exact h.fields key f hf
    | none =>
      by_contra hkey
      exact (h.only key hkey).elim (fun hsome => hsome hf) hnamed

theorem IsOf.apart {mapping : FieldMapping} {d : Document} (h : row.IsOf mapping d) :
    ∀ v ∈ row.vectors, row.fields.get? v.name = none := by
  intro v hv
  obtain ⟨e, -, f, -, -, hfree, -⟩ := Result.exists_of_mem_forall₂ h.vectors.flip hv
  exact hfree

theorem IsOf.fills_iff {mapping : FieldMapping} {d : Document} (h : row.IsOf mapping d)
    {filled : Dict String Json} : row.Fills filled ↔ filled = row.source :=
  ⟨Fills.eq_source, fun hfilled => hfilled ▸ fills_source h.apart⟩

end Row

/-- The rows of these documents, with the vectors an embedder has for all their texts together. -/
structure IsBatch (mapping : FieldMapping) (embedder : Option Embedder) (docs : List Document)
    (rows : List Row) : Prop where
  ofDocs : List.Forall₂ (fun d row => row.IsOf mapping d) docs rows
  embedded : rows.flatMap (·.vectors) ≠ [] → ∃ e, embedder = some e ∧
    e.vectors ((rows.flatMap (·.vectors)).map (·.text)) =
      .ok ((rows.flatMap (·.vectors)).map (·.vector))

theorem IsBatch.fills_iff {mapping : FieldMapping} {embedder : Option Embedder} {docs : List Document}
    {rows : List Row} (h : IsBatch mapping embedder docs rows) {sources : List (Dict String Json)} :
    List.Forall₂ Row.Fills rows sources ↔ sources = rows.map Row.source := by
  have hrows := h.ofDocs
  clear h
  induction hrows generalizing sources with
  | nil => rw [List.forall₂_nil_left_iff, List.map_nil]
  | cons hrow _ ih =>
    rw [List.forall₂_cons_left_iff, List.map_cons]
    simp only [hrow.fills_iff, ih]
    constructor
    · rintro ⟨_, _, rfl, rfl, rfl⟩
      rfl
    · rintro rfl
      exact ⟨_, _, rfl, rfl, rfl⟩

theorem textVectors_eq_ok_iff {embedder : Option Embedder} {texts : List String}
    {vectors : List (List Double)} : textVectors embedder texts = .ok vectors ↔
      vectors.length = texts.length ∧ ∃ e, embedder = some e ∧ e.vectors texts = .ok vectors := by
  cases embedder with
  | none => exact iff_of_false nofun fun ⟨_, _, he, _⟩ => nomatch he
  | some e =>
    rw [textVectors]
    constructor
    · intro h
      obtain ⟨given, hgiven, h⟩ := Result.bind_eq_ok h
      split at h
      · rename_i hlength
        cases h
        exact ⟨hlength, e, rfl, Result.within_eq_ok_iff.1 hgiven⟩
      · cases h
    · rintro ⟨hlength, _, he, hvectors⟩
      cases he
      rw [hvectors, Result.within, Result.ok_bind, if_pos hlength]
      rfl

theorem rowTasks_eq_nil_iff {n : Nat} {rows : List Row} :
    rowTasks n rows = [] ↔ rows.flatMap (·.vectors) = [] := by
  rw [← List.map_eq_nil_iff, map_text_rowTasks, List.map_eq_nil_iff]

theorem map_source_of_no_tasks {rows : List Row} (h : rowTasks 0 rows = []) :
    rows.map Row.source = rows.map Row.plain := by
  rw [← storeVectors_rowTasks 0 rows, h, List.zip_nil_left, storeVectors_nil]

/-- A batch has sources exactly if it has rows that can be filled in. -/
theorem batchSources_eq_ok_iff {mapping : FieldMapping} {embedder : Option Embedder}
    {docs : List Document} {sources : List (Dict String Json)} :
    batchSources mapping embedder docs = .ok sources ↔
      ∃ rows, IsBatch mapping embedder docs rows ∧ List.Forall₂ Row.Fills rows sources := by
  constructor
  · intro h
    obtain ⟨⟨plain, tasks⟩, hcollect, h⟩ := Result.bind_eq_ok h
    dsimp only at h
    split at h
    · rename_i hnone
      cases h
      obtain rfl := List.isEmpty_iff.1 hnone
      obtain ⟨rows, hrows, hvectors⟩ := exists_rows_of_collect hcollect List.length_nil
      obtain ⟨hplain, hrest⟩ :=
        Prod.mk.inj (Except.ok.inj ((collect_of_isOf hrows 0).symm.trans hcollect))
      have hbatch : IsBatch mapping embedder docs rows :=
        ⟨hrows, fun hne => absurd (List.map_eq_nil_iff.1 hvectors) hne⟩
      have hsources := map_source_of_no_tasks hrest
      rw [hplain] at hsources
      exact ⟨rows, hbatch, hbatch.fills_iff.2 hsources.symm⟩
    · obtain ⟨vectors, hvectors, h⟩ := Result.bind_eq_ok h
      cases h
      obtain ⟨hlength, e, he, hvectors⟩ := textVectors_eq_ok_iff.1 hvectors
      rw [List.length_map] at hlength
      obtain ⟨rows, hrows, rfl⟩ := exists_rows_of_collect hcollect hlength
      have hcollected := (collect_of_isOf hrows 0).symm.trans hcollect
      cases hcollected
      rw [map_text_rowTasks] at hvectors
      have hbatch : IsBatch mapping embedder docs rows := ⟨hrows, fun _ => ⟨e, he, hvectors⟩⟩
      exact ⟨rows, hbatch, hbatch.fills_iff.2 (storeVectors_rowTasks 0 rows)⟩
  · rintro ⟨rows, hbatch, hfills⟩
    rw [hbatch.fills_iff] at hfills
    rw [batchSources, collect_of_isOf hbatch.ofDocs 0, Result.ok_bind]
    dsimp only
    split
    · rename_i hnone
      rw [hfills, map_source_of_no_tasks (List.isEmpty_iff.1 hnone)]
      rfl
    · rename_i hsome
      have hne := mt rowTasks_eq_nil_iff.2 (mt List.isEmpty_iff.2 hsome)
      obtain ⟨e, he, hvectors⟩ := hbatch.embedded hne
      have hgiven :=
        textVectors_eq_ok_iff.2 ⟨by rw [List.length_map, List.length_map], e, he, hvectors⟩
      rw [map_text_rowTasks, hgiven, hfills, ← storeVectors_rowTasks 0 rows]
      rfl

/-- A batch that has sources holds every field of its documents and the vectors of their texts, each
under its name in its own document; of the vectors of one name in a document the last one stays. Of a
batch that has none nothing is written. -/
theorem makeBatch_fills (i : Indexer) (embedder : Option Embedder) (docs : List Document)
    (s : Session) :
    (∀ sources, (makeBatch i.fields embedder docs s).1 = .ok sources ↔
      ∃ rows, IsBatch i.fields embedder docs rows ∧ List.Forall₂ Row.Fills rows sources) ∧
    ((¬∃ rows, IsBatch i.fields embedder docs rows) ↔ ∃ f,
      (makeBatch i.fields embedder docs s).1 = .error f ∧
      (i.storeBatch embedder docs s).1 = .error f ∧
      (i.storeBatch embedder docs s).2.sent = s.sent) := by
  obtain ⟨embedded, hmake⟩ := makeBatch_run i.fields embedder docs s
  cases hsources : batchSources i.fields embedder docs with
  | ok sources =>
    obtain ⟨rows, hbatch, -⟩ := batchSources_eq_ok_iff.1 hsources
    rw [hmake]
    refine ⟨fun _ => batchSources_eq_ok_iff, iff_of_false (not_not_intro ⟨rows, hbatch⟩) ?_⟩
    rintro ⟨f, hf, -⟩
    cases hsources.symm.trans hf
  | error f =>
    have hnone : ¬∃ rows, IsBatch i.fields embedder docs rows := by
      rintro ⟨rows, hbatch⟩
      have hfilled := batchSources_eq_ok_iff.2 ⟨rows, hbatch, hbatch.fills_iff.2 rfl⟩
      cases hsources.symm.trans hfilled
    rw [hsources] at hmake
    rw [hmake, Indexer.storeBatch_of_error hmake]
    refine ⟨fun sources => ?_, iff_of_true hnone ⟨f, rfl, rfl, rfl⟩⟩
    rw [← hsources]
    exact batchSources_eq_ok_iff

/-- Two fields of one document that ask for their vectors under one name: the first vector is lost. -/
theorem makeBatch_loses_vector :
    let mapping : FieldMapping := fun _ => .ok (.ofList [("a", ⟨.str "x", some ⟨"vec", none⟩⟩),
      ("b", ⟨.str "y", some ⟨"vec", none⟩⟩)])
    let embedder : Option Embedder :=
      some ⟨fun texts => .ok (texts.map fun text => [if text = "x" then .ofNat 1 else .ofNat 2])⟩
    (makeBatch mapping embedder [.blank "1" ""] ⟨[], [], [], 0, 0⟩).1.toOption =
      some [.ofList [("a", .str "x"), ("b", .str "y"), ("vec", vectorToJson [.ofNat 2])]] := by
  decide +kernel

end ChatRetrieval.Elastic
