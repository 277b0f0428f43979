import ChatRetrieval.Json.Printer
import ChatRetrieval.Proofs.Elastic.Client
import ChatRetrieval.Proofs.Elastic.Sources

/-!
Storing documents in batches. The batches are written in their order up to the first failure, so what
is sent are the writes of the first batches; where every write is taken, neither the documents' sources
nor their order depend on the size of a batch.
-/

namespace ChatRetrieval

namespace Elastic

/-- Whether a reply is a success whose items name no rejection. -/
def takes (reply : Reply) : Bool :=
  (reply.value? BulkResponse.decode).any fun response => response.firstFailure.isNone

def taken (write : List Exchange) : Bool := write.getLast?.any fun x => takes x.reply

theorem BulkResponse.firstFailure_eq_none_iff {response : BulkResponse} :
    response.firstFailure = none ↔
      ∀ outcomes ∈ response.items, ∀ item ∈ outcomes.values, item.rejection = none := by
  simp only [firstFailure, List.findSome?_eq_none_iff, List.mem_flatMap, BulkItem.failure?,
    Option.map_eq_none_iff, forall_exists_index, and_imp]
  constructor
  · intro h outcomes houtcomes item hitem
    exact h item outcomes houtcomes hitem
  · intro h item outcomes houtcomes hitem
    exact h outcomes houtcomes item hitem

theorem takes_iff {reply : Reply} :
    takes reply = true ↔ ∃ status headers text events response,
      reply = .answered ⟨status, headers, .ok text⟩ events ∧ Http.isSuccess status = true ∧
        Decode.fromText BulkResponse.decode text = some response ∧
        ∀ outcomes ∈ response.items, ∀ item ∈ outcomes.values, item.rejection = none := by
  rw [takes, Option.any_eq_true]
  constructor
  · rintro ⟨response, hvalue, hnone⟩
    obtain ⟨status, headers, text, events, hreply, hstatus, htext⟩ :=
      Reply.value?_eq_some_iff.1 hvalue
    exact ⟨status, headers, text, events, response, hreply, hstatus, htext,
      BulkResponse.firstFailure_eq_none_iff.1 (Option.isNone_iff_eq_none.1 hnone)⟩
  · rintro ⟨status, headers, text, events, response, hreply, hstatus, htext, hitems⟩
    exact ⟨response,
      Reply.value?_eq_some_iff.2 ⟨status, headers, text, events, hreply, hstatus, htext⟩,
      Option.isNone_iff_eq_none.2 (BulkResponse.firstFailure_eq_none_iff.2 hitems)⟩

namespace Indexer

variable (i : Indexer) (embedder : Option Embedder)

def operations (batch : List Document) (sources : List (Dict String Json)) : List BulkOperation :=
  (batch.zip sources).map fun r => ⟨i.config.index, r.1.id, .ofDict r.2⟩

/-- The exchanges in which a batch is written: one request with all its documents, made to one node
after another until one answers. -/
structure Writes (batch : List Document) (exchanges : List Exchange) : Prop where
  sent : exchanges ≠ []
  failover : ∀ x ∈ exchanges.dropLast, ∃ f, x.reply = .failed f
  requests : ∃ sources, batchSources i.fields embedder batch = .ok sources ∧
    i.client.Asks .post "_bulk" "application/x-ndjson"
      (.lines (BulkOperation.lines (i.operations batch sources))) (exchanges.map (·.request))

variable {i embedder} in
theorem storeBatch_of_bulk {batch : List Document} {sources : List (Dict String Json)}
    {r : Result BulkResponse} {s t u : Session}
    (hmake : makeBatch i.fields embedder batch s = (.ok sources, t))
    (hbulk : i.client.bulk (i.operations batch sources) t = (r, u)) :
    (i.storeBatch embedder batch s).2 = u ∧
      (i.storeBatch embedder batch s).1.isOk = r.toOption.any (·.firstFailure.isNone) := by
  have hwithin := Action.within_run hbulk "[Indexer.Store] bulk request failed"
  have hrun : i.storeBatch embedder batch s = _ := Action.bind_of_ok hmake _
  cases r with
  | error f =>
    rw [hrun.trans (Action.bind_of_error hwithin _)]
    exact ⟨rfl, rfl⟩
  | ok response =>
    rw [hrun.trans (Action.bind_of_ok hwithin _), Except.toOption, Option.any_some]
    cases response.firstFailure <;> exact ⟨rfl, rfl⟩

theorem storeBatch_run (batch : List Document) (s : Session) :
    ∃ exchanges, s.Makes exchanges (i.storeBatch embedder batch s).2 ∧
      (exchanges ≠ [] → i.Writes embedder batch exchanges) ∧
      (i.storeBatch embedder batch s).1.isOk = taken exchanges ∧
      (exchanges ≠ [] ↔ (batchSources i.fields embedder batch).isOk = true ∧
        i.client.Reaches "_bulk" "application/x-ndjson") := by
  obtain ⟨embedded, hmake⟩ := makeBatch_run i.fields embedder batch s
  cases hsources : batchSources i.fields embedder batch with
  | error f =>
    rw [hsources] at hmake
    rw [storeBatch_of_error hmake]
    exact ⟨[], .none rfl rfl, fun h => absurd rfl h, rfl,
      iff_of_false (fun h => h rfl) fun h => nomatch h.1⟩
  | ok sources =>
    rw [hsources] at hmake
    have hbulk := i.client.executeJson_run BulkResponse.decode .post "_bulk" "application/x-ndjson"
      (.lines (BulkOperation.lines (i.operations batch sources))) { s with embedded }
    rw [← ClientConfig.bulk] at hbulk
    obtain ⟨exchanges, hmakes, hasks, hfailover, hresult, hreaches⟩ := hbulk
    obtain ⟨hafter, hok⟩ := storeBatch_of_bulk hmake (Prod.eta _).symm
    refine ⟨exchanges, ?_, fun hne => ⟨hne, hfailover, sources, hsources, hasks hne⟩, ?_, ?_⟩
    · rw [hafter]
      exact ⟨hmakes.sent, hmakes.replies, hmakes.answered⟩
    · rw [hok, hresult, taken]
      cases exchanges.getLast? <;> rfl
    · rw [hreaches]
      exact ⟨fun h => ⟨rfl, h⟩, And.right⟩

variable {i embedder} in
theorem storeBatches_of_error {batch : List Document} {s t : Session} {f : Failure}
    (h : i.storeBatch embedder batch s = (.error f, t)) (rest : List (List Document)) :
    i.storeBatches embedder (batch :: rest) s = (.error f, t) := Action.bind_of_error h _

variable {i embedder} in
theorem storeBatches_of_ok {batch : List Document} {s t : Session}
    (h : i.storeBatch embedder batch s = (.ok (), t)) (rest : List (List Document)) :
    i.storeBatches embedder (batch :: rest) s = i.storeBatches embedder rest t :=
  Action.bind_of_ok h _

/-- The batches are written one after another, up to the first one that is not taken. -/
theorem storeBatches_run (batches : List (List Document)) (s : Session) :
    ∃ writes : List (List Exchange),
      s.Makes writes.flatten (i.storeBatches embedder batches s).2 ∧
      List.Forall₂ (i.Writes embedder) (batches.take writes.length) writes ∧
      (∀ write ∈ writes.dropLast, taken write = true) ∧
      ((i.storeBatches embedder batches s).1.isOk = true ↔
        writes.length = batches.length ∧ ∀ write ∈ writes, taken write = true) := by
  induction batches generalizing s with
  | nil => exact ⟨[], .refl s, .nil, nofun, iff_of_true rfl ⟨rfl, nofun⟩⟩
  | cons batch rest ih =>
    obtain ⟨exchanges, hmakes, hwrites, hok, -⟩ := i.storeBatch_run embedder batch s
    rcases hrun : i.storeBatch embedder batch s with ⟨f | _, t⟩
    · rw [hrun] at hmakes hok
      rw [storeBatches_of_error hrun]
      cases exchanges with
      -- Without sources or a node nothing is sent for the batch, so it leaves no write.
      | nil => exact ⟨[], hmakes, .nil, nofun, iff_of_false nofun fun h => nomatch h.1⟩
      | cons x more =>
        refine ⟨[x :: more], ?_, .cons (hwrites (List.cons_ne_nil x more)) .nil, nofun,
          iff_of_false nofun fun h => ?_⟩
        · rwa [List.flatten_cons, List.flatten_nil, List.append_nil]
        · have htaken := h.2 _ (List.mem_singleton_self _)
          rw [← hok] at htaken
          cases htaken
    · rw [hrun] at hmakes hok
      obtain ⟨writes, hrest, hbatches, hearlier, hresult⟩ := ih t
      have htaken : taken exchanges = true := hok.symm
      have hsent : exchanges ≠ [] := by
        rintro rfl
        cases htaken
      rw [storeBatches_of_ok hrun, hresult]
      refine ⟨exchanges :: writes, hmakes.trans hrest, .cons (hwrites hsent) hbatches, ?_, ?_⟩
      · intro write hwrite
        cases writes with
        | nil => cases hwrite
        | cons w more =>
          rcases List.mem_cons.1 hwrite with rfl | hwrite
          · exact htaken
          · exact hearlier write hwrite
      · rw [List.length_cons, List.length_cons, Nat.succ_inj, List.forall_mem_cons,
          and_iff_right htaken]

theorem storeBatch_taken (batch : List Document) {s : Session} (h : takes (s.replyTo 0) = true) :
    ((i.storeBatch embedder batch s).1.isOk = true ↔
      (batchSources i.fields embedder batch).isOk = true ∧
        i.client.Reaches "_bulk" "application/x-ndjson") ∧
    ((i.storeBatch embedder batch s).1.isOk = true →
      ∃ x, s.Makes [x] (i.storeBatch embedder batch s).2 ∧ i.Writes embedder batch [x]) := by
  obtain ⟨exchanges, hmakes, hwrites, hok, hsent⟩ := i.storeBatch_run embedder batch s
  rw [hok, ← hsent]
  cases exchanges with
  | nil => exact ⟨iff_of_false nofun fun hne => hne rfl, nofun⟩
  | cons x more =>
    have hne : x :: more ≠ [] := List.cons_ne_nil x more
    have hreply : takes x.reply = true := by rwa [hmakes.head]
    cases more with
    | nil => exact ⟨iff_of_true hreply hne, fun _ => ⟨x, hmakes, hwrites hne⟩⟩
    | cons y more =>
      -- Another node would have been asked after this one only if this one had failed.
      obtain ⟨f, hfailed⟩ := (hwrites hne).failover x (List.mem_cons_self ..)
      rw [hfailed] at hreply
      cases hreply

theorem storeBatches_taken {batches : List (List Document)} {s : Session}
    (h : ∀ j < batches.length, takes (s.replyTo j) = true) :
    ((i.storeBatches embedder batches s).1.isOk = true ↔
      ∀ batch ∈ batches, (batchSources i.fields embedder batch).isOk = true ∧
        i.client.Reaches "_bulk" "application/x-ndjson") ∧
    ((i.storeBatches embedder batches s).1.isOk = true →
      ∃ exchanges, s.Makes exchanges (i.storeBatches embedder batches s).2 ∧
        List.Forall₂ (fun batch x => i.Writes embedder batch [x]) batches exchanges) := by
  induction batches generalizing s with
  | nil => exact ⟨iff_of_true rfl nofun, fun _ => ⟨[], .refl s, .nil⟩⟩
  | cons batch rest ih =>
    have hfirst := storeBatch_taken i embedder batch (h 0 (Nat.succ_pos _))
    rw [List.forall_mem_cons]
    rcases hrun : i.storeBatch embedder batch s with ⟨f | _, t⟩
    · rw [hrun] at hfirst
      rw [storeBatches_of_error hrun]
      exact ⟨iff_of_false nofun fun hall => absurd (hfirst.1.2 hall.1) Bool.false_ne_true, nofun⟩
    · rw [hrun] at hfirst
      obtain ⟨x, hmakes, hwrites⟩ := hfirst.2 rfl
      have hreplies : ∀ j < rest.length, takes (t.replyTo j) = true := by
        intro j hj
        rw [hmakes.replyTo, List.length_singleton, Nat.add_comm]
        exact h (j + 1) (Nat.succ_lt_succ hj)
      obtain ⟨hresult, hexchanges⟩ := ih hreplies
      rw [storeBatches_of_ok hrun, hresult]
      refine ⟨(and_iff_right (hfirst.1.1 rfl)).symm, fun hall => ?_⟩
      obtain ⟨exchanges, hrest, hbatches⟩ := hexchanges (hresult.2 hall)
      exact ⟨x :: exchanges, hmakes.trans hrest, .cons hwrites hbatches⟩

theorem store_run (docs : List Document) (s : Session) :
    i.store docs embedder s =
      ((i.storeBatches (embedder.or i.config.embedder) (chunks i.config.batchSize docs) s).1.map
          fun _ => docs.map (·.id),
        (i.storeBatches (embedder.or i.config.embedder) (chunks i.config.batchSize docs) s).2) :=
  Action.bind_pure_run (Prod.eta _).symm _

theorem store_isOk (docs : List Document) (s : Session) :
    (i.store docs embedder s).1.isOk = (i.storeBatches (embedder.or i.config.embedder)
      (chunks i.config.batchSize docs) s).1.isOk := by
  rw [store_run]
  cases (i.storeBatches (embedder.or i.config.embedder) (chunks i.config.batchSize docs) s).1 <;> rfl

def withBatchSize (size : Nat) : Indexer := { i with config := { i.config with batchSize := size } }

def operation (source : Document → Dict String Json) (d : Document) : BulkOperation :=
  ⟨i.config.index, d.id, .ofDict (source d)⟩

/-- A run that stored the documents: one operation for each of them, in as few requests as batches of
this size allow. -/
structure Stored (source : Document → Dict String Json) (docs : List Document) (s : Session)
    (run : Result (List String) × Session) : Prop where
  ids : run.1 = .ok (docs.map (·.id))
  requests : ∃ (operations : List (List BulkOperation)) (requests : List Request),
    run.2.sent = s.sent ++ requests ∧
    requests.length = (docs.length + i.config.batchSize - 1) / i.config.batchSize ∧
    operations.flatten = docs.map (i.operation source) ∧
    List.Forall₂ (fun group request => i.client.Asks .post "_bulk" "application/x-ndjson"
      (.lines (BulkOperation.lines group)) [request]) operations requests

section

variable {i embedder} {vectorOf : String → Option (List Double)} {docs : List Document} {s : Session}
  (hembeds : EmbedsBy (embedder.or i.config.embedder) vectorOf)
  (hreplies : ∀ j < (chunks i.config.batchSize docs).length, takes (s.replyTo j) = true)
include hembeds

theorem operations_of_batchSources {batch : List Document} {sources : List (Dict String Json)}
    (h : batchSources i.fields (embedder.or i.config.embedder) batch = .ok sources) :
    i.operations batch sources =
      batch.map (i.operation fun d => (documentSource i.fields vectorOf d).getD .empty) := by
  have hsources := batchSources_toOption hembeds i.fields batch
  rw [h] at hsources
  have heach := congrArg (List.map (·.getD .empty)) (map_some_of_mapM hsources.symm)
  rw [List.map_map, List.map_map] at heach
  have hsources : sources = batch.map fun d => (documentSource i.fields vectorOf d).getD .empty := by
    rw [← List.map_id sources]
    exact heach.symm
  rw [hsources, operations, List.zip_map_right, List.map_map, ← List.map_id batch, List.zip_map',
    List.map_map, List.map_id]
  rfl

include hreplies

theorem store_isOk_iff :
    (i.store docs embedder s).1.isOk = true ↔
      ∀ d ∈ docs, (documentSource i.fields vectorOf d).isSome = true ∧
        i.client.Reaches "_bulk" "application/x-ndjson" := by
  rw [store_isOk, (storeBatches_taken i _ hreplies).1]
  have hbatch : ∀ batch, (batchSources i.fields (embedder.or i.config.embedder) batch).isOk =
      batch.all fun d => (documentSource i.fields vectorOf d).isSome := by
    intro batch
    rw [Result.isOk_eq_isSome_toOption, batchSources_toOption hembeds, isSome_mapM]
  simp only [hbatch, List.all_eq_true]
  constructor
  · intro h d hd
    rw [← flatten_chunks i.config.batchSize docs] at hd
    obtain ⟨batch, hmem, hd⟩ := List.mem_flatten.1 hd
    exact ⟨(h batch hmem).1 d hd, (h batch hmem).2⟩
  · intro h batch hmem
    have hdocs : ∀ d ∈ batch, d ∈ docs := by
      intro d hd
      rw [← flatten_chunks i.config.batchSize docs]
      exact List.mem_flatten_of_mem hmem hd
    obtain ⟨d, hd⟩ := List.exists_mem_of_ne_nil batch (ne_nil_of_mem_chunks hmem)
    exact ⟨fun d hd => (h d (hdocs d hd)).1, (h d (hdocs d hd)).2⟩

theorem stored_of_isOk (hsize : 1 ≤ i.config.batchSize)
    (hok : (i.store docs embedder s).1.isOk = true) :
    i.Stored (fun d => (documentSource i.fields vectorOf d).getD .empty) docs s
      (i.store docs embedder s) := by
  rw [store_isOk] at hok
  obtain ⟨exchanges, hmakes, hwrites⟩ := (storeBatches_taken i _ hreplies).2 hok
  obtain ⟨u, hbatches⟩ := Result.exists_ok_of_isOk hok
  rw [store_run]
  constructor
  · rw [hbatches]
    rfl
  · refine ⟨(chunks i.config.batchSize docs).map (List.map (i.operation fun d =>
      (documentSource i.fields vectorOf d).getD .empty)), exchanges.map (·.request), hmakes.sent, ?_,
      ?_, ?_⟩
    · rw [List.length_map, ← hwrites.length_eq, length_chunks docs hsize]
      rfl
    · rw [← List.map_flatten, flatten_chunks]
    · rw [List.forall₂_map_left_iff, List.forall₂_map_right_iff]
      refine hwrites.imp fun batch x hwrite => ?_
      obtain ⟨sources, hsources, hasks⟩ := hwrite.requests
      rw [operations_of_batchSources hembeds hsources] at hasks
      exact hasks

end

def oneField (batchSize : Nat) : Indexer :=
  let fields : FieldMapping := fun d => .ok (.ofList [("text", ⟨.str d.content,
    if d.content.isEmpty then none else some ⟨"vector", none⟩⟩)])
  ⟨.default, ⟨"i", batchSize, some fields, none, none⟩, fields⟩

def lengthVector (text : String) : List Double := [.ofNat text.length]

def bulkReply (errors : Bool) (outcomes : List (String × Json)) : Reply :=
  .answered ⟨200, .empty, .ok (Json.obj [("errors", .bool errors),
    ("items", .arr (outcomes.map fun o => .obj [o]))]).render⟩ []

/-- Storing succeeds exactly if every batch is written and each of the last replies is a success none
of whose items names an error. Neither the flag nor the statuses of the items have a say. -/
theorem store_succeeds_iff (i : Indexer) (docs : List Document) (embedder : Option Embedder)
    (s : Session) :
    ∃ writes : List (List Exchange),
      s.Makes writes.flatten (i.store docs embedder s).2 ∧
      List.Forall₂ (i.Writes (embedder.or i.config.embedder))
        ((chunks i.config.batchSize docs).take writes.length) writes ∧
      ((i.store docs embedder s).1.isOk = true ↔
        writes.length = (chunks i.config.batchSize docs).length ∧
        ∀ write ∈ writes, ∃ x ∈ write.getLast?, ∃ status headers text events response,
          x.reply = .answered ⟨status, headers, .ok text⟩ events ∧ Http.isSuccess status = true ∧
          Decode.fromText BulkResponse.decode text = some response ∧
          ∀ outcomes ∈ response.items, ∀ item ∈ outcomes.values, item.rejection = none) := by
  have hrun := i.storeBatches_run (embedder.or i.config.embedder) (chunks i.config.batchSize docs) s
  obtain ⟨writes, hmakes, hbatches, -, hresult⟩ := hrun
  rw [store_isOk, store_run, hresult]
  refine ⟨writes, hmakes, hbatches, ?_⟩
  simp only [taken, Option.any_eq_true, takes_iff, Option.mem_def]

def turnedDown : Reply := bulkReply true [("index", .obj [("_id", .str "1"), ("status", .int 400)])]

theorem store_turnedDown :
    (turnedDown.value? BulkResponse.decode).map (fun response =>
        (response.errors, response.items.map fun outcomes => outcomes.values.map (·.status))) =
      some (true, [[400]]) ∧
    ((oneField 5).store [.blank "1" ""] none ⟨[turnedDown], [], [], 0, 0⟩).1.toOption =
      some ["1"] := by
  decide +kernel

end Indexer

end Elastic

end ChatRetrieval
