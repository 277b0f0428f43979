import ChatRetrieval.Role
import ChatRetrieval.Http.Status

/-!
Failures. A failure is a cause with the contexts it passed through, the outermost first; its message
is the chain of their texts. Contexts never hide the cause.
-/

namespace ChatRetrieval

mutual

/-- Why something failed. -/
inductive Cause where
  /-- Anything without a meaning of its own. -/
  | other (text : String)
  /-- A failure worth another attempt. -/
  | retryable (failure : Failure)
  /-- A reply with an error status. -/
  | httpStatus (status : Nat) (body : String)
  | roleMismatch (expected actual : Role)
  | emptyConcat
  /-- An error object in a reply that is otherwise fine. -/
  | api (provider code message : String)
  | emptyChoices (provider : String)
  | choiceNotFound (provider : String)
  | forcedWithoutTools
  | tooManyAllowedTools
  | unknownAllowedTool (name : String)
  | allowedWithToolNames
  | noToolsToBind
  | unsupportedPart (provider part : String)
  | missingCredentials (name : String)
  | collectionNotFound (quoted : String)
  /-- An error code of the vector store. -/
  | server (code : Int) (message : String)
  | embeddingRequired (mode : String)
  | embeddingCountMismatch (expected actual : Nat)
  /-- A document the search cluster rejected. -/
  | bulkItem (id : String) (status : Nat) (reason : String)
  | missingHitField (field : String)
  | noAddress
  /-- Malformed JSON. -/
  | json
  /-- A malformed URL. -/
  | url
  /-- The transport gave up waiting. -/
  | timeout (text : String)
  /-- The transport could not connect. -/
  | connection (text : String)
  /-- The transport turned an error status into a failure. -/
  | transportStatus (status : Nat) (text : String)
  /-- An event stream was answered with this status; the body is `none` when it cannot be read. -/
  | streamStatus (status : Nat) (body : Option String)
  /-- An event stream was answered with something else than events. -/
  | streamContentType (contentType : String) (status : Nat)
  /-- The connection of an event stream broke. -/
  | streamTransport (text : String)
  | streamEnded
  /-- The program itself breaks off. -/
  | aborted (text : String)

/-- A cause under its contexts. -/
inductive Failure where
  | mk (contexts : List String) (cause : Cause)

end

namespace Failure

def contexts : Failure → List String
  | mk cs _ => cs

def cause : Failure → Cause
  | mk _ c => c

/-- Puts a context around a failure. -/
def within (context : String) : Failure → Failure
  | mk cs c => mk (context :: cs) c

end Failure

mutual

/-- The text of a cause. -/
def Cause.text : Cause → String
  | .other text => text
  | .retryable failure => failure.message
  | .httpStatus status body => "HTTP " ++ Text.decimal status ++ ": " ++ body
  | .roleMismatch expected actual =>
    "cannot concat messages with different roles: " ++ expected.name ++ " and " ++ actual.name
  | .emptyConcat => "no messages to concat"
  | .api provider code message => provider ++ " API error [" ++ code ++ "]: " ++ message
  | .emptyChoices provider => "received empty choices from " ++ provider
  | .choiceNotFound provider => "choice with index 0 not found in " ++ provider ++ " response"
  | .forcedWithoutTools => "tool choice is forced but tool is not provided"
  | .tooManyAllowedTools => "only one allowed tool name can be configured"
  | .unknownAllowedTool name => "allowed tool name '" ++ name ++ "' not found in tools list"
  | .allowedWithToolNames =>
    "tool_choice 'allowed' is not supported when allowed tool names are present"
  | .noToolsToBind => "no tools to bind"
  | .unsupportedPart provider part => "unsupported content part for " ++ provider ++ ": " ++ part
  | .missingCredentials name => "missing credentials: set '" ++ name ++ "'"
  | .collectionNotFound quoted => "[NewRetriever] collection " ++ quoted ++ " not found"
  | .server code message => "milvus returned code " ++ Text.signedDecimal code ++ ": " ++ message
  | .embeddingRequired mode => "embedding is required for " ++ mode ++ " search"
  | .embeddingCountMismatch expected actual =>
    "[Indexer.Store] embedding result length mismatch: need " ++ Text.decimal expected ++ ", got " ++
      Text.decimal actual
  | .bulkItem id status reason =>
    "[Indexer.Store] bulk index of document " ++ id ++ " failed [" ++ Text.decimal status ++ "]: " ++
      reason
  | .missingHitField field => "field '" ++ field ++ "' not found in hit"
  | .noAddress => "no Elasticsearch address configured"
  | .json => "json error"
  | .url => "invalid url"
  | .timeout text => text
  | .connection text => text
  | .transportStatus _ text => text
  | .streamStatus status _ => "Invalid status code: " ++ Http.statusText status
  | .streamContentType contentType _ => "Invalid header value: \"" ++ contentType ++ "\""
  | .streamTransport text => text
  | .streamEnded => "Stream ended"
  | .aborted text => text

/-- The chain of texts, outermost first. -/
def Failure.message : Failure → String
  | .mk contexts cause => Text.joinWith ": " (contexts ++ [cause.text])

end

instance : Inhabited Failure := ⟨.mk [] (.other "")⟩

/-- A failure without context. -/
def Cause.failure (c : Cause) : Failure := .mk [] c

/-- A plain failure with this text. -/
def Failure.plain (text : String) : Failure := .mk [] (.other text)

def Failure.isRetryable (f : Failure) : Bool :=
  match f.cause with
  | .retryable _ => true
  | _ => false

/-- The outcome of a step that may fail. -/
abbrev Result (α : Type) := Except Failure α

/-- Puts a context around the failure of a step. -/
def Result.within {α : Type} (context : String) : Result α → Result α
  | .ok a => .ok a
  | .error f => .error (f.within context)

def Result.fail {α : Type} (text : String) : Result α := .error (.plain text)

/-- The value of a decoder, its refusal being malformed JSON. -/
def Result.ofOption {α : Type} (cause : Cause) : Option α → Result α
  | some a => .ok a
  | none => .error cause.failure

end ChatRetrieval
