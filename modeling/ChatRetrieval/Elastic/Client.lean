import ChatRetrieval.Elastic.Search
import ChatRetrieval.Http.Config
import ChatRetrieval.Http.Transport
import ChatRetrieval.Text.Base64

/-!
The client of a search cluster. A request goes to the first address that takes it; a reply of any
status ends the search for an address, while a malformed address ends it in failure.
-/

namespace ChatRetrieval.Elastic

open Json (field nullable)

structure ClientConfig where
  /-- Addresses of the nodes in the order they are tried. -/
  addresses : List String
  username : Option String
  password : Option String
  /-- A key that goes before user name and password. -/
  apiKey : Option String
  http : HttpConfig

namespace ClientConfig

def default : ClientConfig := ⟨["http://localhost:9200"], none, none, none, .default⟩

instance : Inhabited ClientConfig := ⟨default⟩

def decode : Decoder ClientConfig := fun j => do
  let r ← Decode.record ["addresses", "username", "password", "api_key", "http"] j
  return {
    addresses := ← r.required "addresses" (Decode.list Decode.string)
    username := ← r.optional "username" Decode.string
    password := ← r.optional "password" Decode.string
    apiKey := ← r.optional "api_key" Decode.string
    http := ← r.withDefault "http" .default HttpConfig.decode }

def toJson (c : ClientConfig) : Json := .ofFields [
  field "addresses" (.ofStrings c.addresses), field "username" (nullable .str c.username),
  field "password" (nullable .str c.password), field "api_key" (nullable .str c.apiKey),
  field "http" c.http.toJson]

/-- What is sent to prove who asks. -/
def authorization (c : ClientConfig) : Option String :=
  match c.apiKey with
  | some key => some ("ApiKey " ++ key)
  | none => c.username.map fun user =>
      "Basic " ++ Text.Base64.encodeText (user ++ ":" ++ c.password.getD "")

def headers (c : ClientConfig) (contentType : String) : Result Headers :=
  Headers.ofPairs (("content-type", contentType) ::
    (c.authorization.map fun a => ("authorization", a)).toList)

end ClientConfig

/-- Sends to the first of the addresses that takes the request; `last` is the failure of the address
before them. -/
def sendToAny (method : Method) (path : String) (headers : Headers) (payload : Payload)
    (last : Failure) : List String → Action (Response × String)
  | [] => Action.fail last
  | address :: rest => do
    let url := (← Action.lift (Url.join address path)).text
    match ← (Http.send ⟨method, url, headers, payload⟩).attempt with
    | .ok response => return (response, url)
    | .error f =>
      sendToAny method path headers payload (f.within (Http.contextText none method.name url)) rest

/-- Sends a request; also gives the address that answered. -/
def ClientConfig.execute (c : ClientConfig) (method : Method) (path contentType : String)
    (payload : Payload) : Action (Response × String) := do
  let headers ← Action.lift (c.headers contentType)
  sendToAny method path headers payload Cause.noAddress.failure c.addresses

/-- Sends a request and decodes its reply. -/
def ClientConfig.executeJson {α : Type} (c : ClientConfig) (d : Decoder α) (method : Method)
    (path contentType : String) (payload : Payload) : Action α := do
  let (response, url) ← c.execute method path contentType payload
  Action.lift (Http.readJson d response method.name url)

/-- A document to be written. -/
structure BulkOperation where
  index : String
  id : String
  source : Json

/-- What became of one document of a bulk request. -/
structure BulkItem where
  id : String
  status : Nat
  /-- The reason for a rejection, or else its kind. -/
  rejection : Option String
  deriving DecidableEq

structure BulkResponse where
  errors : Bool
  /-- The outcomes of each operation by action. -/
  items : List (Dict String BulkItem)

namespace BulkOperation

/-- The line that announces the document. -/
def action (o : BulkOperation) : Json := .ofFields [field "index" (.ofFields [
  field "_index" (.str o.index), field "_id" (.str o.id)])]

/-- The lines of a bulk request: an announcement and the document itself. -/
def lines (operations : List BulkOperation) : List Json :=
  operations.flatMap fun o => [o.action, o.source]

end BulkOperation

namespace BulkItem

def decodeRejection : Decoder String := fun j => do
  let r ← Decode.record ["type", "reason"] j
  let kind ← r.text "type"
  return (← r.maybe "reason" Decode.string).getD kind

def decode : Decoder BulkItem := fun j => do
  let r ← Decode.record ["_id", "status", "error"] j
  return ⟨← r.text "_id", ← r.withDefault "status" 0 (Decode.natural 16),
    ← r.maybe "error" decodeRejection⟩

/-- The failure a rejected document means. -/
def failure? (i : BulkItem) : Option Failure :=
  i.rejection.map fun reason => (Cause.bulkItem i.id i.status reason).failure

end BulkItem

namespace BulkResponse

def decode : Decoder BulkResponse := fun j => do
  let r ← Decode.record ["errors", "items"] j
  return ⟨← r.withDefault "errors" false Decode.bool,
    ← r.listOf "items" (Decode.dict BulkItem.decode)⟩

/-- The failure of the first document that was rejected. -/
def firstFailure (b : BulkResponse) : Option Failure :=
  (b.items.flatMap Dict.values).findSome? BulkItem.failure?

end BulkResponse

namespace ClientConfig

def search (c : ClientConfig) (index : String) (request : SearchRequest) : Action SearchResponse :=
  c.executeJson SearchResponse.decode .post (index ++ "/_search") "application/json"
    (.json request.toJson)

/-- Writes documents with one request. -/
def bulk (c : ClientConfig) (operations : List BulkOperation) : Action BulkResponse :=
  c.executeJson BulkResponse.decode .post "_bulk" "application/x-ndjson"
    (.lines (BulkOperation.lines operations))

/-- Whether an index exists, told by the status alone. -/
def indexExists (c : ClientConfig) (index : String) : Action Bool := do
  let (response, url) ← c.execute .head index "application/json" .empty
  if response.status = 200 then return true
  else if response.status = 404 then return false
  else Action.fail ((Cause.httpStatus response.status "").failure.within
    (Http.contextText (some response.status) "HEAD" url))

/-- Creates an index with these settings and mappings. -/
def createIndex (c : ClientConfig) (index : String) (body : Json) : Action Unit := do
  let _ ← c.executeJson Decode.any .put index "application/json" (.json body)
  return ()

end ClientConfig

end ChatRetrieval.Elastic
