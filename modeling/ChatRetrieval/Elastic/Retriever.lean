import ChatRetrieval.Document
import ChatRetrieval.Elastic.Client
import ChatRetrieval.Elastic.SearchMode
import ChatRetrieval.Json.Printer

/-!
Retrieving documents from the search cluster. What a call sets goes before the request of the search
mode, and that before the configuration.
-/

namespace ChatRetrieval.Elastic

/-- Turns a hit into a document. -/
abbrev HitParser := Hit → Result Document

structure RetrieverConfig where
  index : String
  /-- How many documents to find; zero means ten. -/
  topK : Nat
  scoreThreshold : Option Double
  mode : Option SearchMode
  parser : Option HitParser
  embedder : Option Embedder

structure RetrieveOptions where
  index : Option String
  topK : Option Nat
  scoreThreshold : Option Double
  embedder : Option Embedder
  search : SearchOptions

structure Retriever where
  client : ClientConfig
  config : RetrieverConfig
  mode : SearchMode

/-- The fields of a source as the content and metadata of a document. -/
def addFields (d : Document) : List (String × Json) → Result Document
  | [] => .ok d
  | ("content", .str text) :: r => addFields { d with content := text } r
  | ("content", _) :: _ =>
    Result.fail ("field 'content' is not a string in document " ++ d.id)
  | (key, value) :: r => addFields (d.insertMetadata key value) r

/-- Reads id, content and score of a hit; all other fields of the source become metadata. -/
def parseHit : HitParser := fun hit =>
  match hit.id, hit.source with
  | none, _ => .error (Cause.missingHitField "_id").failure
  | some _, none => .error (Cause.missingHitField "_source").failure
  | some id, some (.obj fields) =>
    (addFields (.blank id "") fields).map fun d => { d with score := hit.score }
  | some id, some other =>
    Result.fail ("_source of document " ++ id ++ " is not an object: " ++ other.render)

namespace Retriever

def defaultTopK : Nat := 10

/-- A retriever with an index and a search mode. -/
def ofConfig (client : ClientConfig) (config : RetrieverConfig) : Result Retriever :=
  if config.index.isEmpty then Result.fail "[NewRetriever] index not provided"
  else match config.mode with
    | none => Result.fail "[NewRetriever] search mode not provided"
    | some mode =>
      let topK := if config.topK = 0 then defaultTopK else config.topK
      .ok ⟨client, { config with topK }, mode⟩

/-- The request of a call. -/
def request (r : Retriever) (query : String) (options : RetrieveOptions) :
    Action SearchRequest := do
  let embedder := options.embedder.or r.config.embedder
  let base ← (r.mode.request embedder query options.search).within
    "[Retriever] failed to build search request"
  return { base with
    size := (options.topK.or base.size).or (some r.config.topK)
    minScore := (options.scoreThreshold.or base.minScore).or r.config.scoreThreshold }

/-- The documents found for a query text. -/
def retrieve (r : Retriever) (query : String) (options : RetrieveOptions) :
    Action (List Document) := do
  let request ← r.request query options
  let response ← r.client.search (options.index.getD r.config.index) request
  Action.lift (Result.within "[Retriever] failed to parse search hits"
    (response.hits.mapM (r.config.parser.getD parseHit)))

end Retriever

end ChatRetrieval.Elastic
