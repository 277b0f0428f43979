import ChatRetrieval.Proofs.Http.Trace
import ChatRetrieval.Proofs.Milvus.Protocol
import ChatRetrieval.Proofs.Url.Join

/-!
The making of an indexer. Its calls follow the protocol of a preparation, each part of it from one
state to another.
-/

namespace ChatRetrieval.Milvus

namespace Preparation

variable {α β : Type}

def State.after (wrap : Failure → Failure) (next : α → State) : Result α → State
  | .ok x => next x
  | .error f => .ended (.error (wrap f))

def State.missing (config : IndexerConfig) : State :=
  if config.lacksDimension then .ended (.error (.plain
    "[NewIndexer] vector dimension is required when collection does not exist"))
  else .calls .create

/-- These exchanges are steps of the preparation, from one of these states on to the state after the
outcome. -/
def Advances (c : ClientConfig) (config : IndexerConfig) (limited : Prop) (wrap : Failure → Failure)
    (start : State → Prop) (next : α → State) (exchanges : List Exchange) (r : Result α) : Prop :=
  ∃ (s : State) (steps : List Step), start s ∧ exchanges = steps.map (·.exchange) ∧
    Run c config limited s steps (State.after wrap next r)

/-- The action makes steps of the preparation, whatever the clock reads. -/
def Drives (c : ClientConfig) (config : IndexerConfig) (limited : Prop) (wrap : Failure → Failure)
    (start : State → Prop) (next : α → State) (a : Action α) : Prop :=
  a.Ensures (Advances c config limited wrap start next)

/-- The action makes steps of the preparation when the clock decides like this about the wait. -/
def DrivesInTime (c : ClientConfig) (config : IndexerConfig) (limited : Prop)
    (wrap : Failure → Failure) (start : State → Prop) (next : α → State) (a : Action α) : Prop :=
  ∀ s : Session, (s.Reaches c.loadTimeout ↔ limited) →
    ∃ exchanges, s.Makes exchanges (a s).2 ∧ Advances c config limited wrap start next exchanges (a s).1

variable {c : ClientConfig} {config : IndexerConfig} {limited : Prop} {wrap : Failure → Failure}
  {start : State → Prop} {next : α → State} {a : Action α}

namespace Drives

theorem pure {x : α} (h : start (next x)) : Drives c config limited wrap start next (Pure.pure x) :=
  Action.Ensures.pure ⟨_, [], h, rfl, .refl _⟩

theorem fail {f : Failure} (h : start (.ended (.error (wrap f)))) :
    Drives c config limited wrap start next (Action.fail f) :=
  Action.Ensures.fail ⟨_, [], h, rfl, .refl _⟩

theorem from_next {s : State} (h : Drives c config limited wrap (· = s) next a) (hs : start s) :
    Drives c config limited wrap start next a :=
  Action.Ensures.mono h fun ⟨_, steps, hsame, hrest⟩ => ⟨s, steps, hs, hsame ▸ hrest⟩

theorem bind {next' : β → State} {f : α → Action β} (h : Drives c config limited wrap start next a)
    (hf : ∀ x, Drives c config limited wrap (· = next x) next' (f x)) :
    Drives c config limited wrap start next' (a >>= f) := by
  refine Action.Ensures.bind h id fun {front x} hx =>
    Action.Ensures.mono (hf x) fun {later r} hr => ?_
  obtain ⟨s, steps, hs, rfl, hrun⟩ := hx
  obtain ⟨-, more, rfl, rfl, hmore⟩ := hr
  exact ⟨s, steps ++ more, hs, (List.map_append ..).symm, hrun.trans hmore⟩

theorem within {context : String} (h : Drives c config limited (·.within context) start next a) :
    Drives c config limited id start next (a.within context) := by
  refine Action.Ensures.within (Action.Ensures.mono h fun {exchanges r} hr => ?_)
  cases r <;> exact hr

theorem inTime (h : Drives c config limited wrap start next a) :
    DrivesInTime c config limited wrap start next a := fun s _ => h s

theorem bind_inTime {next' : β → State} {f : α → Action β}
    (h : Drives c config limited wrap start next a) (hclock : a.KeepsClock)
    (hf : ∀ x, DrivesInTime c config limited wrap (· = next x) next' (f x)) :
    DrivesInTime c config limited wrap start next' (a >>= f) := by
  intro s hs
  obtain ⟨exchanges, hmakes, t, steps, ht, rfl, hrun⟩ := h s
  have hkept := hclock s
  rcases houtcome : a s with ⟨e | x, u⟩
  · rw [houtcome] at hmakes hrun
    rw [Action.bind_of_error houtcome]
    exact ⟨_, hmakes, t, steps, ht, rfl, hrun⟩
  · rw [houtcome] at hmakes hrun hkept
    have hu : u.Reaches c.loadTimeout ↔ limited := by
      rw [← hs, Session.Reaches, Session.Reaches, hkept]
    rw [Action.bind_of_ok houtcome]
    obtain ⟨more, hmore, -, later, rfl, rfl, hlater⟩ := hf x u hu
    exact ⟨_, hmakes.trans hmore, t, steps ++ later, ht, (List.map_append ..).symm, hrun.trans hlater⟩

end Drives

theorem DrivesInTime.within {context : String}
    (h : DrivesInTime c config limited (·.within context) start next a) :
    DrivesInTime c config limited id start next (a.within context) := by
  intro s hs
  obtain ⟨exchanges, hmakes, hadvances⟩ := h s hs
  rw [Action.within_run (Prod.eta (a s)).symm]
  refine ⟨exchanges, hmakes, ?_⟩
  cases hr : (a s).1 <;> rwa [hr] at hadvances

section

variable (c : ClientConfig) (config : IndexerConfig)

theorem keepsClock_send (path : String) (body : Json) : (c.send path body).KeepsClock := by
  unfold ClientConfig.send
  exact .bind (.lift _) fun _ => .bind (.lift _) fun _ => .bind (.within (.send _) _) fun _ => .lift _

theorem keepsClock_call (path : String) (body : Json) : (c.call path body).KeepsClock := by
  unfold ClientConfig.call
  refine .bind (keepsClock_send c path body) fun reply => ?_
  split
  · exact .pure _
  · exact .fail _

theorem keepsClock_hasCollection (collection : String) : (c.hasCollection collection).KeepsClock := by
  unfold ClientConfig.hasCollection
  exact .bind (keepsClock_call c _ _) fun _ => .pure _

theorem keepsClock_loadState (collection : String) : (c.loadState collection).KeepsClock := by
  unfold ClientConfig.loadState
  exact .bind (keepsClock_call c _ _) fun _ => .pure _

theorem keepsClock_createCollection (r : CollectionRequest) : (c.createCollection r).KeepsClock := by
  unfold ClientConfig.createCollection
  exact .bind (keepsClock_call c _ _) fun _ => .pure ()

theorem keepsClock_createIndex (r : IndexRequest) : (c.createIndex r).KeepsClock := by
  unfold ClientConfig.createIndex
  exact .bind (keepsClock_call c _ _) fun _ => .pure ()

theorem keepsClock_describeIndex (collection name : String) :
    (c.describeIndex collection name).KeepsClock := by
  unfold ClientConfig.describeIndex
  refine .bind (keepsClock_send c _ _) fun reply => ?_
  split <;> exact .pure _

theorem keepsClock_ensureIndex (field context : String) (index : IndexParams) :
    (Indexer.ensureIndex ⟨c.service, config⟩ field context index).KeepsClock := by
  unfold Indexer.ensureIndex Indexer.indexExists
  refine .bind (.bind (.attempt (keepsClock_describeIndex c _ _)) fun found => ?_) fun found => ?_
  · split <;> exact .pure _
  · split
    · exact .within (keepsClock_createIndex c _) _
    · exact .pure ()

theorem keepsClock_ensureIndexes : (Indexer.ensureIndexes ⟨c.service, config⟩).KeepsClock := by
  have hone := keepsClock_ensureIndex c config
  unfold Indexer.ensureIndexes
  cases config.vector with
  | none =>
    cases config.sparse with
    | none => exact .pure ()
    | some sparse => exact hone _ _ _
  | some vector =>
    cases config.sparse with
    | none => exact .bind (hone _ _ _) fun _ => .pure ()
    | some sparse => exact .bind (hone _ _ _) fun _ => hone _ _ _

theorem keepsClock_create : (Indexer.create ⟨c.service, config⟩).KeepsClock := by
  unfold Indexer.create
  split
  · exact .fail _
  · exact .within (keepsClock_createCollection c _) _

end

section

variable (hend : ∀ call : Call, ∃ target, c.endpoint call.path = .ok target)
include hend

theorem ensures_call (call : Call) : (c.call call.path (call.body config)).Ensures fun exchanges r =>
    ∃ x : Step, x.call = call ∧ x.IsSent c config ∧ exchanges = [x.exchange] ∧ r = x.answer := by
  intro s
  obtain ⟨target, htarget⟩ := hend call
  rw [ClientConfig.call_eq _ s htarget]
  exact ⟨_, s.makes_asked _, ⟨call, _⟩, rfl, ⟨target, htarget, rfl⟩, rfl, rfl⟩

theorem drives_call_bind (call : Call) {context : String} (hcontext : call.context? = some context)
    {f : Json → Action α}
    (h : ∀ data, Drives c config limited (·.within context) (Next config limited call (.ok data)) next (f data)) :
    Drives c config limited (·.within context) (· = .calls call) next
      (c.call call.path (call.body config) >>= f) := by
  refine (ensures_call hend call).bind ?_ ?_
  · rintro exchanges e ⟨x, rfl, hsent, rfl, hanswer⟩
    refine ⟨_, [x], rfl, rfl, .step hsent ?_ (.refl _)⟩
    rw [← hanswer]
    exact .failed hcontext e
  · rintro exchanges data ⟨x, rfl, hsent, rfl, hanswer⟩
    refine Action.Ensures.mono (h data) fun {later r} hr => ?_
    obtain ⟨s, steps, hnext, rfl, hrun⟩ := hr
    rw [hanswer] at hnext
    exact ⟨_, x :: steps, rfl, rfl, .step hsent hnext hrun⟩

/-- A description that fails is as good as one that tells of no index. -/
theorem drives_indexExists (field : IndexedField) (later : List IndexedField) :
    Drives c config limited wrap (· = .calls (.describe field later))
      (fun found => if found then .calls (.indexing later) else .calls (.index field later))
      (Indexer.indexExists ⟨c.service, config⟩ field.name) := by
  intro s
  obtain ⟨target, htarget⟩ := hend (.describe field later)
  obtain ⟨describe, hdescribed⟩ :=
    ClientConfig.describeIndex_eq config.collection field.name s htarget
  let x : Step := ⟨.describe field later,
    ⟨c.request ((Call.describe field later).body config) target, s.replyTo 0⟩⟩
  have hrun : Indexer.indexExists ⟨c.service, config⟩ field.name s =
      (.ok (isIndexed x.answer), s.asked x.exchange.request 1) := by
    refine (Action.bind_of_ok (Action.attempt_run hdescribed) _).trans ?_
    change _ = (Except.ok (isIndexed (answerOf x.call.path target.1 (s.replyTo 0))), _)
    rw [answerOf]
    cases replyOf target.1 (s.replyTo 0) with
    | error f => rfl
    | ok reply =>
      by_cases hcode : reply.code = 0
      · simp only [Except.map, Result.ok_bind, hcode, if_true, Option.isSome_map]
        rfl
      · simp only [Except.map, Result.ok_bind, hcode, if_false]
        rfl
  have hnext : Next config limited x.call x.answer
      (if isIndexed x.answer then .calls (.indexing later) else .calls (.index field later)) := by
    split
    · exact .described ‹_›
    · exact .undescribed (Bool.eq_false_iff.2 ‹_›)
  have hsteps := Run.step (c := c) (x := x) ⟨target, htarget, rfl⟩ hnext (.refl _)
  rw [hrun]
  exact ⟨[x.exchange], s.makes_asked _, .calls x.call, [x], rfl, rfl, hsteps⟩

theorem drives_ensureIndex (field : IndexedField) (later : List IndexedField) :
    Drives c config limited id (· = .calls (.describe field later)) (fun _ => .calls (.indexing later))
      (Indexer.ensureIndex ⟨c.service, config⟩ field.name field.context field.index) := by
  refine (drives_indexExists hend field later).bind fun found => ?_
  cases found with
  | true => exact .pure rfl
  | false =>
    exact .within (drives_call_bind hend (.index field later) rfl fun data =>
      .pure (.indexed field later data))

theorem drives_ensureIndexes :
    Drives c config limited id (· = .calls (.indexing config.indexedFields)) (fun _ => .calls .load)
      (Indexer.ensureIndexes ⟨c.service, config⟩) := by
  unfold Indexer.ensureIndexes IndexerConfig.indexedFields
  cases config.vector with
  | none =>
    cases config.sparse with
    | none => exact .pure rfl
    | some sparse => exact drives_ensureIndex hend sparse.indexedField []
  | some vector =>
    cases config.sparse with
    | none => exact (drives_ensureIndex hend vector.indexedField []).bind fun _ => .pure rfl
    | some sparse =>
      exact (drives_ensureIndex hend vector.indexedField [sparse.indexedField]).bind fun _ =>
        drives_ensureIndex hend sparse.indexedField []

theorem drives_awaitLoaded_succ {deadline polls : Nat}
    (hrest : ∀ data, stateIn data ≠ .loaded →
      Drives c config limited (·.within "[NewIndexer] failed to load collection")
        (Next config limited .poll (.ok data)) (fun _ => .ended (.ok ()))
        (c.awaitLoaded config.collection deadline polls)) :
    Drives c config limited (·.within "[NewIndexer] failed to load collection") (· = .calls .poll)
      (fun _ => .ended (.ok ())) (c.awaitLoaded config.collection deadline (polls + 1)) := by
  unfold ClientConfig.awaitLoaded ClientConfig.loadState
  simp only [bind_assoc, pure_bind]
  refine drives_call_bind hend .poll rfl fun data => ?_
  split
  case isTrue hstate => exact .pure (.ready hstate)
  case isFalse hstate =>
    -- The answer leaves it open whether there is another look; the clock decides.
    refine Action.isQuiet_elapsed.bind fun now => ?_
    split
    · exact Drives.fail (.timedOut hstate)
    · exact (Action.isQuiet_sleep _).bind fun _ => hrest data hstate

theorem drives_awaitLoaded (deadline polls : Nat) :
    Drives c config limited (·.within "[NewIndexer] failed to load collection") (· = .calls .poll)
      (fun _ => .ended (.ok ())) (c.awaitLoaded config.collection deadline (polls + 1)) := by
  induction polls with
  | zero => exact drives_awaitLoaded_succ hend fun data hstate => .fail (.timedOut hstate)
  | succ polls ih =>
    exact drives_awaitLoaded_succ hend fun data hstate => ih.from_next (.waiting hstate)

theorem drives_load : DrivesInTime c config limited id (· = .calls .load) (fun _ => .ended (.ok ()))
    ((c.load config.collection).within "[NewIndexer] failed to load collection") := by
  refine .within ?_
  unfold ClientConfig.load
  have hcall (following : State) (h : ∀ data, Next config limited .load (.ok data) following) :
      Drives c config limited (·.within "[NewIndexer] failed to load collection")
        (· = .calls .load) (fun _ => following) (c.call Call.load.path (Call.load.body config)) := by
    rw [← bind_pure (c.call Call.load.path (Call.load.body config))]
    exact drives_call_bind hend .load rfl fun data => .pure (h data)
  by_cases hlimited : limited
  · refine (hcall _ (.loading hlimited)).bind_inTime (keepsClock_call c _ _) fun data s hs => ?_
    rw [Action.bind_of_ok (Action.deadline_of_reaches (hs.2 hlimited))]
    -- There is at least one look, however many replies are left.
    exact (Action.isQuiet_repliesLeft.bind fun left => drives_awaitLoaded hend _ left) s
  · refine (hcall _ (.unlimited hlimited)).bind_inTime (keepsClock_call c _ _) fun data s hs => ?_
    rw [Action.bind_of_error (Action.deadline_of_not_reaches fun h => hlimited (hs.1 h))]
    exact ⟨[], .refl s, _, [], rfl, rfl, .refl _⟩

theorem drives_hasCollection : Drives c config limited id (· = .calls .has)
    (fun found => if found then .calls .state else State.missing config)
    ((c.hasCollection config.collection).within "[NewIndexer] failed to check collection") := by
  refine .within (drives_call_bind hend .has rfl fun data => .pure ?_)
  change Next config limited .has (.ok data) (if isFound data then _ else _)
  split
  · exact .found ‹_›
  case isFalse hfound =>
    have hmissing := Bool.eq_false_iff.2 hfound
    unfold State.missing
    split
    · exact .undimensioned hmissing ‹_›
    · exact .missing hmissing (Bool.eq_false_iff.2 ‹_›)

theorem drives_create : Drives c config limited id (· = State.missing config) (fun _ => .calls .state)
    (Indexer.create ⟨c.service, config⟩) := by
  unfold Indexer.create State.missing IndexerConfig.lacksDimension
  split
  · exact Drives.fail rfl
  · exact .within (drives_call_bind hend .create rfl fun data => .pure (.created data))

theorem drives_loadState : Drives c config limited id (· = .calls .state)
    (fun state => if state = .loaded then .ended (.ok ())
      else .calls (.indexing config.indexedFields))
    ((c.loadState config.collection).within "[NewIndexer] failed to get load state") := by
  refine .within (drives_call_bind hend .state rfl fun data => .pure ?_)
  change Next config limited .state (.ok data) (if stateIn data = .loaded then _ else _)
  split
  · exact .loaded ‹_›
  · exact .unloaded ‹_›

theorem drives_prepare : DrivesInTime c config limited id (· = .calls .has) (fun _ => .ended (.ok ()))
    (Indexer.prepare ⟨c.service, config⟩) := by
  have hrest : DrivesInTime c config limited id (· = .calls .state) (fun _ => .ended (.ok ())) (do
      let state ← (c.loadState config.collection).within "[NewIndexer] failed to get load state"
      if state ≠ .loaded then
        Indexer.ensureIndexes ⟨c.service, config⟩
        (c.load config.collection).within "[NewIndexer] failed to load collection") := by
    refine (drives_loadState hend).bind_inTime ((keepsClock_loadState c _).within _) fun state => ?_
    by_cases hstate : state = .loaded
    · simp only [hstate, ne_eq, not_true_eq_false, if_true, if_false]
      exact Drives.inTime (.pure rfl)
    · simp only [hstate, ne_eq, not_false_eq_true, if_true, if_false]
      exact (drives_ensureIndexes hend).bind_inTime (keepsClock_ensureIndexes c config) fun _ =>
        drives_load hend
  unfold Indexer.prepare
  refine (drives_hasCollection hend).bind_inTime ((keepsClock_hasCollection c _).within _)
    fun found => ?_
  cases found with
  | true => exact hrest
  | false => exact (drives_create hend).bind_inTime (keepsClock_create c config) fun _ => hrest

end

theorem Call.path_tail (call : Call) :
    ∃ tail, call.path.toList.dropWhile (· == '/') = ['v', '2'] ++ '/' :: tail ∧
      (tail.all fun c => !Url.isTrimmed c) = true := by
  refine ⟨call.path.toList.drop 4, ?_⟩
  cases call
  all_goals
    simp only [path]
    exact ⟨rfl, by decide⟩

theorem endpoint_of_call {first : Call} {target : String × Headers}
    (h : c.endpoint first.path = .ok target) (call : Call) :
    ∃ target, c.endpoint call.path = .ok target := by
  obtain ⟨x, hx, hvisible⟩ := first.path_tail
  obtain ⟨y, hy, hvisible'⟩ := Call.path_tail call
  have hsegment : ∃ c ∈ ['v', '2'], Url.isSlash true c = false :=
    ⟨'v', List.mem_cons_self .., by decide⟩
  have hjoin := Url.isOk_join hsegment (by simp [Url.isTrimmed]) (by simpa using hvisible)
    (by simpa using hvisible') c.address hx hy
  obtain ⟨url, hurl, h⟩ := Result.bind_eq_ok h
  obtain ⟨headers, hheaders, -⟩ := Result.bind_eq_ok h
  rw [hurl] at hjoin
  obtain ⟨url', hurl'⟩ := Result.exists_ok_of_isOk hjoin.symm
  refine ⟨(url'.text, headers), ?_⟩
  rw [ClientConfig.endpoint, hurl', hheaders]
  rfl

end Preparation

open Preparation

namespace Indexer

section

variable {c : ClientConfig} {config : IndexerConfig} (hservice : config.service = some c.service)
  (hvector : config.vector.isSome ∨ config.sparse.isSome) (s : Session)
include hservice hvector

theorem ofConfig_eq : ofConfig config s =
    (prepare ⟨c.service, config.filled⟩ >>= fun _ => pure ⟨c.service, config.filled⟩) s := by
  have hguard : (config.vector.isNone && config.sparse.isNone) = false := by
    rw [Bool.and_eq_false_iff, Option.isNone_eq_false_iff, Option.isNone_eq_false_iff]
    exact hvector
  rw [ofConfig, hservice]
  simp only [hguard, Bool.false_eq_true, if_false]

theorem ofConfig_of_error {f : Failure} (h : c.endpoint Call.has.path = .error f) :
    ofConfig config s = (.error (f.within "[NewIndexer] failed to check collection"), s) := by
  have hcall : c.call Call.has.path (Call.has.body config.filled) s = (.error f, s) :=
    ClientConfig.call_of_error h
  have hfound : (c.hasCollection config.filled.collection).within
      "[NewIndexer] failed to check collection" s = (_, s) :=
    Action.within_run (Action.bind_of_error hcall _) _
  exact (ofConfig_eq hservice hvector s).trans
    (Action.bind_of_error (Action.bind_of_error hfound _) _)

end

end Indexer

def twoDimensional : IndexerConfig := { IndexerConfig.default with
  service := some (ClientConfig.ofAddress "http://milvus:19530").service
  vector := some { VectorConfig.default with dimension := 2 } }

def emptyStore : Session where
  replies := [answering (.obj [("has", .bool false)]), answering .null, answering .null,
    .failed (.plain "no description"), answering .null, answering .null,
    answering (.obj [("loadState", .str "LoadStateLoading")]),
    answering (.obj [("loadState", .str "LoadStateLoaded")])]
  sent := []
  embedded := []
  unixTime := 0
  elapsed := 0

end ChatRetrieval.Milvus
