import ChatRetrieval.Milvus.Indexer
import ChatRetrieval.Proofs.Milvus.Rest

/-!
The protocol by which a collection is prepared, as a relation between a call, its answer and what
comes next. Where a wait for the collection ends is up to the clock; everything else is up to the
answers.
-/

namespace ChatRetrieval.Milvus

structure IndexedField where
  name : String
  index : IndexParams
  /-- What the failure to create the index is put in. -/
  context : String

def VectorConfig.indexedField (v : VectorConfig) : IndexedField :=
  ⟨v.field, (v.index.getD .auto).build v.metric, "[NewIndexer] failed to create index"⟩

def SparseConfig.indexedField (s : SparseConfig) : IndexedField :=
  ⟨s.field, (s.index.getD (.inverted SparseIndex.defaultDropRatio)).build s.metric,
    "[NewIndexer] failed to create sparse index"⟩

def IndexerConfig.indexedFields (c : IndexerConfig) : List IndexedField :=
  (c.vector.map (·.indexedField)).toList ++ (c.sparse.map (·.indexedField)).toList

/-- There is a dense field without the dimension that a new collection needs. -/
def IndexerConfig.lacksDimension (c : IndexerConfig) : Bool :=
  c.vector.any fun v => v.dimension ≤ 0

namespace Preparation

/-- What the store is asked; with a field go the fields whose turn comes after it. -/
inductive Call where
  | has
  | create
  | state
  | describe (field : IndexedField) (later : List IndexedField)
  | index (field : IndexedField) (later : List IndexedField)
  | load
  /-- Another look at the state, while the collection is loading. -/
  | poll

namespace Call

def indexing : List IndexedField → Call
  | [] => load
  | field :: later => describe field later

def path : Call → String
  | has => "/v2/vectordb/collections/has"
  | create => "/v2/vectordb/collections/create"
  | state | poll => "/v2/vectordb/collections/get_load_state"
  | describe _ _ => "/v2/vectordb/indexes/describe"
  | index _ _ => "/v2/vectordb/indexes/create"
  | load => "/v2/vectordb/collections/load"

def body (config : IndexerConfig) : Call → Json
  | has | state | load | poll => ClientConfig.ofCollection config.collection
  | create => CollectionRequest.toJson
    ⟨config.collection, config.schema, config.consistency.requested⟩
  | describe field _ => .ofFields [Json.field "collectionName" (.str config.collection),
    Json.field "indexName" (.str field.name)]
  | index field _ => IndexRequest.toJson ⟨config.collection, field.name, field.index⟩

def context? : Call → Option String
  | has => some "[NewIndexer] failed to check collection"
  | create => some "[NewIndexer] failed to create collection"
  | state => some "[NewIndexer] failed to get load state"
  | describe _ _ => none
  | index field _ => some field.context
  | load | poll => some "[NewIndexer] failed to load collection"

end Call

def isFound (data : Json) : Bool := ((data.get? "has").bind Json.asBool?).getD false

def stateIn (data : Json) : LoadState :=
  ClientConfig.stateNamed (((data.get? "loadState").bind Json.asString?).getD "")

def isIndexed (answer : Result Json) : Bool :=
  (answer.toOption.bind ClientConfig.firstIndex).isSome

/-- A preparation between two calls, or at its end. -/
inductive State where
  | calls (call : Call)
  | ended (result : Result Unit)

/-- What may come after a call that was answered so. The wait for the collection begins only if it is
limited, by a deadline that the clock can read. -/
inductive Next (config : IndexerConfig) (limited : Prop) : Call → Result Json → State → Prop where
  | failed {call : Call} {context : String} (h : call.context? = some context) (f : Failure) :
    Next config limited call (.error f) (.ended (.error (f.within context)))
  | found {data : Json} (h : isFound data = true) : Next config limited .has (.ok data) (.calls .state)
  | missing {data : Json} (h : isFound data = false) (hdimension : config.lacksDimension = false) :
    Next config limited .has (.ok data) (.calls .create)
  | undimensioned {data : Json} (h : isFound data = false)
    (hdimension : config.lacksDimension = true) :
    Next config limited .has (.ok data) (.ended (.error (.plain
      "[NewIndexer] vector dimension is required when collection does not exist")))
  | created (data : Json) : Next config limited .create (.ok data) (.calls .state)
  | loaded {data : Json} (h : stateIn data = .loaded) :
    Next config limited .state (.ok data) (.ended (.ok ()))
  | unloaded {data : Json} (h : stateIn data ≠ .loaded) :
    Next config limited .state (.ok data) (.calls (.indexing config.indexedFields))
  | described {field : IndexedField} {later : List IndexedField} {answer : Result Json}
    (h : isIndexed answer = true) :
    Next config limited (.describe field later) answer (.calls (.indexing later))
  | undescribed {field : IndexedField} {later : List IndexedField} {answer : Result Json}
    (h : isIndexed answer = false) :
    Next config limited (.describe field later) answer (.calls (.index field later))
  | indexed (field : IndexedField) (later : List IndexedField) (data : Json) :
    Next config limited (.index field later) (.ok data) (.calls (.indexing later))
  | loading (h : limited) (data : Json) : Next config limited .load (.ok data) (.calls .poll)
  | unlimited (h : ¬limited) (data : Json) : Next config limited .load (.ok data) (.ended (.error
      (Action.beyondClock.within "[NewIndexer] failed to load collection")))
  | ready {data : Json} (h : stateIn data = .loaded) :
    Next config limited .poll (.ok data) (.ended (.ok ()))
  | waiting {data : Json} (h : stateIn data ≠ .loaded) :
    Next config limited .poll (.ok data) (.calls .poll)
  | timedOut {data : Json} (h : stateIn data ≠ .loaded) :
    Next config limited .poll (.ok data) (.ended (.error
      ((ClientConfig.loadTimedOut config.collection).within
        "[NewIndexer] failed to load collection")))

structure Step where
  call : Call
  exchange : Exchange

namespace Step

def answer (x : Step) : Result Json :=
  answerOf x.call.path x.exchange.request.url x.exchange.reply

/-- What was sent is the call, to where the client reaches the store. -/
def IsSent (c : ClientConfig) (config : IndexerConfig) (x : Step) : Prop :=
  ∃ target, c.endpoint x.call.path = .ok target ∧
    x.exchange.request = c.request (x.call.body config) target

end Step

/-- The steps from one state to another. -/
inductive Run (c : ClientConfig) (config : IndexerConfig) (limited : Prop) :
    State → List Step → State → Prop where
  | refl (s : State) : Run c config limited s [] s
  | step {x : Step} {next last : State} {rest : List Step} (hsent : x.IsSent c config)
    (hnext : Next config limited x.call x.answer next) (hrest : Run c config limited next rest last) :
    Run c config limited (.calls x.call) (x :: rest) last

variable {c : ClientConfig} {config : IndexerConfig} {limited : Prop}

theorem Run.trans {s t u : State} {front back : List Step} (h : Run c config limited s front t)
    (h' : Run c config limited t back u) : Run c config limited s (front ++ back) u := by
  induction h with
  | refl s => exact h'
  | step hsent hnext _ ih => exact .step hsent hnext (ih h')

theorem Run.of_ended {r : Result Unit} {steps : List Step} {t : State}
    (h : Run c config limited (.ended r) steps t) : steps = [] ∧ t = .ended r := by
  cases h
  exact ⟨rfl, rfl⟩

theorem Next.of_error {call : Call} {context : String} {f : Failure} {next : State}
    (h : Next config limited call (.error f) next) (hcontext : call.context? = some context) :
    next = .ended (.error (f.within context)) := by
  cases h with
  | failed hown =>
    obtain rfl : _ = context := Option.some.inj (hown.symm.trans hcontext)
    rfl
  | described => cases hcontext
  | undescribed => cases hcontext

theorem Next.loaded_of_ok {call : Call} {answer : Result Json}
    (h : Next config limited call answer (.ended (.ok ()))) :
    (call = .state ∨ call = .poll) ∧ ∃ data, answer = .ok data ∧ stateIn data = .loaded := by
  cases h with
  | loaded h => exact ⟨.inl rfl, _, rfl, h⟩
  | ready h => exact ⟨.inr rfl, _, rfl, h⟩

theorem Run.error_last {s t : State} {steps front back : List Step} {x : Step} {context : String}
    {f : Failure} (h : Run c config limited s steps t) (hsteps : steps = front ++ x :: back)
    (hanswer : x.answer = .error f) (hcontext : x.call.context? = some context) :
    back = [] ∧ t = .ended (.error (f.within context)) := by
  induction h generalizing front with
  | refl s => exact absurd hsteps.symm (by simp)
  | step _ hnext hrest ih =>
    cases front with
    | nil =>
      obtain ⟨rfl, rfl⟩ := List.cons.inj hsteps
      rw [hanswer] at hnext
      obtain rfl := hnext.of_error hcontext
      exact hrest.of_ended
    | cons y front => exact ih (List.cons.inj hsteps).2

theorem Run.loaded_last {s : State} {steps : List Step}
    (h : Run c config limited s steps (.ended (.ok ()))) (hs : s ≠ .ended (.ok ())) :
    ∃ front x, steps = front ++ [x] ∧ (x.call = .state ∨ x.call = .poll) ∧
      ∃ data, x.answer = .ok data ∧ stateIn data = .loaded := by
  -- The end is kept as an equation, for the induction needs it to be any state.
  generalize hlast : State.ended (.ok ()) = last at h
  induction h with
  | refl s => exact absurd hlast.symm hs
  | @step x next last rest _ hnext hrest ih =>
    subst hlast
    cases next with
    | ended r =>
      obtain ⟨rfl, hr⟩ := hrest.of_ended
      cases hr
      exact ⟨[], x, rfl, hnext.loaded_of_ok⟩
    | calls call =>
      obtain ⟨front, y, rfl, hy⟩ := ih nofun rfl
      exact ⟨x :: front, y, rfl, hy⟩

end Preparation

end ChatRetrieval.Milvus
