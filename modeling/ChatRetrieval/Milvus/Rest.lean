import ChatRetrieval.Http.Config
import ChatRetrieval.Milvus.Service
import ChatRetrieval.Text.Quoted

/-!
The vector store over HTTP. Every reply carries a code, and any code but zero is a failure of the
call.
-/

namespace ChatRetrieval.Milvus

open Json (field nullable)

structure ClientConfig where
  address : String
  /-- A token that goes before user name and password. -/
  token : Option String
  username : Option String
  password : Option String
  database : Option String
  http : HttpConfig
  /-- Milliseconds between two looks at the load state. -/
  pollInterval : Nat
  /-- Seconds a collection may take to load. -/
  loadTimeout : Nat

namespace ClientConfig

def ofAddress (address : String) : ClientConfig :=
  ⟨address, none, none, none, none, .default, 500, 300⟩

def decode : Decoder ClientConfig := fun j => do
  let r ← Decode.record ["address", "token", "username", "password", "dbName", "http",
    "loadPollIntervalMs", "loadTimeoutSecs"] j
  return {
    address := ← r.required "address" Decode.string
    token := ← r.optional "token" Decode.string
    username := ← r.optional "username" Decode.string
    password := ← r.optional "password" Decode.string
    database := ← r.optional "dbName" Decode.string
    http := ← r.withDefault "http" .default HttpConfig.decode
    pollInterval := ← r.required "loadPollIntervalMs" (Decode.natural 64)
    loadTimeout := ← r.required "loadTimeoutSecs" (Decode.natural 64) }

def toJson (c : ClientConfig) : Json := .ofFields [
  field "address" (.str c.address), field "token" (nullable .str c.token),
  field "username" (nullable .str c.username), field "password" (nullable .str c.password),
  field "dbName" (nullable .str c.database), field "http" c.http.toJson,
  field "loadPollIntervalMs" (.ofNat c.pollInterval),
  field "loadTimeoutSecs" (.ofNat c.loadTimeout)]

/-- What is sent to prove who asks. -/
def bearer (c : ClientConfig) : Option String :=
  match c.token, c.username, c.password with
  | some token, _, _ => some token
  | none, some user, some password => some (user ++ ":" ++ password)
  | none, _, _ => none

def headers (c : ClientConfig) : Result Headers :=
  Headers.ofPairs (("content-type", "application/json") ::
    (c.bearer.map fun b => ("authorization", "Bearer " ++ b)).toList)

/-- A body with the database it is about. -/
def withDatabase (c : ClientConfig) (body : Json) : Json :=
  match body, c.database with
  | .obj ms, some name => .ofMembers (ms ++ [("dbName", .str name)])
  | body, _ => body

end ClientConfig

/-- What every reply says. -/
structure Reply where
  code : Int
  message : String
  data : Json

def Reply.decode : Decoder Reply := fun j => do
  let r ← Decode.record ["code", "message", "data"] j
  return ⟨← r.required "code" Decode.int64, ← r.text "message",
    ← r.withDefault "data" .null Decode.any⟩

namespace ClientConfig

/-- Posts a body and reads the reply, whatever its code. -/
def send (c : ClientConfig) (path : String) (body : Json) : Action Reply := do
  let url := (← Action.lift (Url.join c.address path)).text
  let headers ← Action.lift c.headers
  let response ← (Http.send ⟨.post, url, headers, .json (c.withDatabase body)⟩).within
    (Http.contextText none "POST" url)
  Action.lift (Http.readJson Reply.decode response "POST" url)

/-- Posts a body and gives the data of the reply. -/
def call (c : ClientConfig) (path : String) (body : Json) : Action Json := do
  let reply ← c.send path body
  if reply.code = 0 then return reply.data
  else Action.fail ((Cause.server reply.code reply.message).failure.within
    ("Milvus call " ++ path ++ " failed"))

def ofCollection (collection : String) : Json :=
  .ofFields [field "collectionName" (.str collection)]

def hasCollection (c : ClientConfig) (collection : String) : Action Bool := do
  let data ← c.call "/v2/vectordb/collections/has" (ofCollection collection)
  return ((data.get? "has").bind Json.asBool?).getD false

def createCollection (c : ClientConfig) (r : CollectionRequest) : Action Unit := do
  let _ ← c.call "/v2/vectordb/collections/create" r.toJson
  return ()

def stateNamed : String → LoadState
  | "LoadStateLoaded" => .loaded
  | "LoadStateLoading" => .loading
  | "LoadStateNotExist" => .missing
  | _ => .notLoaded

def loadState (c : ClientConfig) (collection : String) : Action LoadState := do
  let data ← c.call "/v2/vectordb/collections/get_load_state" (ofCollection collection)
  return stateNamed (((data.get? "loadState").bind Json.asString?).getD "")

/-- The failure of waiting for too long. -/
def loadTimedOut (collection : String) : Failure :=
  .plain ("timed out waiting for collection " ++ Text.quoted collection ++ " to load")

/-- Looks at the load state, at most `polls` times, until it is loaded or a look finds the deadline
reached. -/
def awaitLoaded (c : ClientConfig) (collection : String) (deadline : Nat) : Nat → Action Unit
  | 0 => Action.fail (loadTimedOut collection)
  | polls + 1 => do
    if (← c.loadState collection) = .loaded then return ()
    if deadline ≤ (← Action.elapsed) then Action.fail (loadTimedOut collection)
    Action.sleep c.pollInterval
    awaitLoaded c collection deadline polls

/-- Asks for a collection to be loaded and waits until it is, for which there must be a deadline. A look
without a reply fails, so the replies to come bound the number of looks. -/
def load (c : ClientConfig) (collection : String) : Action Unit := do
  let _ ← c.call "/v2/vectordb/collections/load" (ofCollection collection)
  let deadline ← Action.deadline c.loadTimeout
  c.awaitLoaded collection deadline ((← Action.repliesLeft) + 1)

/-- The first index in the data of a description. -/
def firstIndex : Json → Option Json
  | .arr items => items.head?
  | .null => none
  | other => some other

def describeIndex (c : ClientConfig) (collection indexName : String) :
    Action (Option IndexDescription) := do
  let reply ← c.send "/v2/vectordb/indexes/describe" (.ofFields [
    field "collectionName" (.str collection), field "indexName" (.str indexName)])
  if reply.code ≠ 0 then return none
  let text (item : Json) (key : String) := (item.get? key).bind Json.asString?
  return (firstIndex reply.data).map fun item =>
    ⟨(text item "indexName").getD indexName, (text item "fieldName").getD "", text item "indexType"⟩

def createIndex (c : ClientConfig) (r : IndexRequest) : Action Unit := do
  let _ ← c.call "/v2/vectordb/indexes/create" r.toJson
  return ()

def upsert (c : ClientConfig) (r : UpsertRequest) : Action (List Json) := do
  let body ← Action.lift r.toJson
  let data ← c.call "/v2/vectordb/entities/upsert" body
  return match data.get? "upsertIds" with
    | some (.arr ids) => ids
    | _ => []

/-- Searches and reads scored rows. -/
def searchRows (c : ClientConfig) (body : Json) : Action ResultSet := do
  let data ← c.call "/v2/vectordb/entities/search" body
  Action.lift (ResultSet.ofJson true data)

def search (c : ClientConfig) (r : SearchRequest) : Action (List ResultSet) := do
  return [← c.searchRows r.toJson]

def hybridSearch (c : ClientConfig) (r : HybridRequest) : Action (List ResultSet) := do
  let data ← c.call "/v2/vectordb/entities/hybrid_search" r.toJson
  return [← Action.lift (ResultSet.ofJson true data)]

def query (c : ClientConfig) (r : QueryRequest) : Action ResultSet := do
  let data ← c.call "/v2/vectordb/entities/query" r.toJson
  Action.lift (ResultSet.ofJson false data)

/-- Asks for the next page. A page that is not full is the last one. -/
def nextBatch (c : ClientConfig) (r : IteratorRequest) (p : Progress) :
    Action (Option ResultSet × Progress) := do
  let size := r.nextSize p
  if p.isFinished || size = 0 then return (none, p)
  let result ← c.searchRows (r.page p)
  let isFinished := decide (result.size < size)
  if result.size = 0 then return (none, { p with isFinished })
  return (some result, ⟨p.batches + 1, p.hits + result.size, isFinished⟩)

/-- The store at an address. -/
def service (c : ClientConfig) : Service where
  hasCollection := c.hasCollection
  createCollection := c.createCollection
  loadState := c.loadState
  load := c.load
  describeIndex := c.describeIndex
  createIndex := c.createIndex
  upsert := c.upsert
  search := c.search
  hybridSearch := c.hybridSearch
  query := c.query
  nextBatch := c.nextBatch

end ClientConfig

end ChatRetrieval.Milvus
