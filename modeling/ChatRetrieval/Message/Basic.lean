import ChatRetrieval.Role

/-!
Chat messages: text, parts of other media, tool calls and what the model reported about a reply.
-/

namespace ChatRetrieval

/-- Requested resolution of an image. -/
inductive ImageDetail where
  | high
  | low
  | auto
  deriving DecidableEq, Repr

def ImageDetail.name : ImageDetail → String
  | high => "high"
  | low => "low"
  | auto => "auto"

/-- One part of a message. -/
inductive ContentPart where
  | text (text : String)
  | image (url : String) (detail : Option ImageDetail) (mimeType : Option String)
  | audio (url : String) (mimeType : Option String)
  | video (url : String) (mimeType : Option String)
  | file (url : String) (mimeType : Option String)
  deriving DecidableEq, Inhabited

def ContentPart.asText? : ContentPart → Option String
  | text t => some t
  | _ => none

/-- A model's request to run a tool. -/
structure ToolCall where
  /-- Pieces of a streamed call share an index. -/
  index : Option Nat
  id : String
  kind : String
  name : String
  arguments : String
  extra : Dict String Json
  deriving DecidableEq, Inhabited

/-- A complete call of a function. -/
def ToolCall.function (id name arguments : String) : ToolCall :=
  ⟨none, id, "function", name, arguments, Dict.empty⟩

structure TokenUsage where
  promptTokens : Nat
  cachedTokens : Nat
  completionTokens : Nat
  reasoningTokens : Nat
  totalTokens : Nat
  deriving DecidableEq, Inhabited

def TokenUsage.zero : TokenUsage := ⟨0, 0, 0, 0, 0⟩

/-- The sum of two counts, which are numbers of 64 bits and wrap around. -/
def TokenUsage.plus (a b : Nat) : Nat := (a + b) % UInt64.size

/-- The larger count of each kind. -/
def TokenUsage.max (a b : TokenUsage) : TokenUsage where
  promptTokens := Nat.max a.promptTokens b.promptTokens
  cachedTokens := Nat.max a.cachedTokens b.cachedTokens
  completionTokens := Nat.max a.completionTokens b.completionTokens
  reasoningTokens := Nat.max a.reasoningTokens b.reasoningTokens
  totalTokens := Nat.max a.totalTokens b.totalTokens

structure TopLogProb where
  token : String
  logprob : Double
  bytes : List Int
  deriving DecidableEq, Inhabited

structure LogProb where
  token : String
  logprob : Double
  bytes : List Int
  alternatives : List TopLogProb
  deriving DecidableEq, Inhabited

/-- What a model reported about its reply. -/
structure ResponseMeta where
  finishReason : Option String
  usage : Option TokenUsage
  logprobs : Option (List LogProb)
  deriving DecidableEq, Inhabited

def ResponseMeta.empty : ResponseMeta := ⟨none, none, none⟩

/-- Nothing in place of an empty report. -/
def ResponseMeta.nonEmpty? (m : ResponseMeta) : Option ResponseMeta :=
  if m = empty then none else some m

/-- A chat message, or a piece of one while streaming. -/
structure Message where
  role : Role
  content : String
  userParts : List ContentPart
  assistantParts : List ContentPart
  reasoning : String
  toolCalls : List ToolCall
  toolCallId : Option String
  toolName : Option String
  responseMeta : Option ResponseMeta
  /-- Values of one provider, such as response ids or signatures. -/
  extra : Dict String Json
  deriving DecidableEq

namespace Message

/-- A message of this role with nothing in it. -/
def blank (role : Role) : Message :=
  ⟨role, "", [], [], "", [], none, none, none, Dict.empty⟩

instance : Inhabited Message := ⟨blank .user⟩

def user (content : String) : Message := { blank .user with content }

def assistant (content : String) (toolCalls : List ToolCall) : Message :=
  { blank .assistant with content, toolCalls }

def finishReason (m : Message) : Option String := m.responseMeta.bind (·.finishReason)

def usage (m : Message) : Option TokenUsage := m.responseMeta.bind (·.usage)

def setExtra (m : Message) (key : String) (value : Json) : Message :=
  { m with extra := m.extra.insert key value }

/-- Reports usage, keeping what else is known about the reply. -/
def withUsage (m : Message) (usage : TokenUsage) : Message :=
  { m with responseMeta := some { m.responseMeta.getD .empty with usage := some usage } }

end Message

end ChatRetrieval
