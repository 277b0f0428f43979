import ChatRetrieval.Ark.Responses.Model
import ChatRetrieval.Claude.Model
import ChatRetrieval.Completions.DeepSeek
import ChatRetrieval.Completions.Qianfan
import ChatRetrieval.Completions.Qwen
import ChatRetrieval.Gemini.Model

/-!
Chat models of all providers behind one interface. A model is made from a configuration that was
found valid and whose address was found well formed; binding tools gives a new model.
-/

namespace ChatRetrieval

inductive Provider where
  | deepSeek
  | qwen
  | qianfan
  | ark
  | arkResponses
  | claude
  | gemini
  deriving DecidableEq, Repr

namespace Provider

def all : List Provider := [deepSeek, qwen, qianfan, ark, arkResponses, claude, gemini]

def name : Provider → String
  | deepSeek => "deepseek"
  | qwen => "qwen"
  | qianfan => "qianfan"
  | ark => "ark"
  | arkResponses => "ark_responses"
  | claude => "claude"
  | gemini => "gemini"

def named? (name : String) : Option Provider := all.find? fun p => p.name = name

end Provider

namespace Chat

/-- The configuration of one provider's model. -/
inductive Settings where
  | deepSeek (config : DeepSeek.Config)
  | qwen (config : Qwen.Config)
  | qianfan (config : Qianfan.Config)
  | ark (config : Ark.ChatConfig)
  | arkResponses (config : Ark.Responses.Config)
  | claude (config : Claude.Config)
  | gemini (config : Gemini.Config)

namespace Settings

def decode : Provider → Decoder Settings
  | .deepSeek, j => (DeepSeek.Config.decode j).map deepSeek
  | .qwen, j => (Qwen.Config.decode j).map qwen
  | .qianfan, j => (Qianfan.Config.decode j).map qianfan
  | .ark, j => (Ark.ChatConfig.decode j).map ark
  | .arkResponses, j => (Ark.Responses.Config.decode j).map arkResponses
  | .claude, j => (Claude.Config.decode j).map claude
  | .gemini, j => (Gemini.Config.decode j).map gemini

def toJson : Settings → Json
  | deepSeek c => c.toJson
  | qwen c => c.toJson
  | qianfan c => c.toJson
  | ark c => c.toJson
  | arkResponses c => c.toJson
  | claude c => c.toJson
  | gemini c => c.toJson

/-- Checks what is required and fills in what has a default. -/
def validate : Settings → Result Settings
  | deepSeek c => c.validate.map deepSeek
  | qwen c => c.validate.map qwen
  | qianfan c => c.validate.map qianfan
  | ark c => c.validate.map ark
  | arkResponses c => c.validate.map arkResponses
  | claude c => c.validate.map claude
  | gemini c => c.validate.map gemini

/-- Fails if the address of the model is malformed. One that depends on the call is not checked. -/
def checkAddress : Settings → Result Unit
  | deepSeek c => c.endpoint.map fun _ => ()
  | qwen c => c.endpoint.map fun _ => ()
  | qianfan c => c.endpoint.map fun _ => ()
  | ark c => c.endpoint.map fun _ => ()
  | arkResponses c => c.url.map fun _ => ()
  | claude c => c.url.map fun _ => ()
  | gemini _ => .ok ()

end Settings

structure Model where
  settings : Settings
  binding : Binding

namespace Model

/-- A model without tools. -/
def ofSettings (settings : Settings) : Result Model := do
  let valid ← settings.validate
  valid.checkAddress
  return ⟨valid, .none⟩

/-- The same model bound to other tools. -/
def withTools (m : Model) (tools : List ToolInfo) : Result Model :=
  (Binding.toTools tools).map fun b => { m with binding := b }

/-- Asks an endpoint for a whole reply. -/
def complete (endpoint : Result Completions.Endpoint) (request : Result Completions.Request)
    (headers : List (String × String)) : Action (Message × Headers) := do
  let request ← Action.lift request
  (← Action.lift endpoint).generate request headers

/-- Asks an endpoint for a streamed reply. -/
def completeStreamed (endpoint : Result Completions.Endpoint)
    (request : Result Completions.Request) (headers : List (String × String)) :
    Action (List (Result Message)) := do
  let request ← Action.lift request
  (← Action.lift endpoint).stream request headers

/-- The reply to a conversation. -/
def generate (m : Model) (input : List Message) (options : ChatOptions) : Action Message :=
  match m.settings with
  | .deepSeek c => return (← complete c.endpoint (c.request m.binding input options) []).1
  | .qwen c => return (← complete c.endpoint (c.request m.binding input options) []).1
  | .qianfan c => return (← complete c.endpoint (c.request m.binding input options) []).1
  | .ark c => do
    let (message, headers) ←
      complete c.endpoint (c.request m.binding input options) (c.headers options)
    return Ark.noteRequestId headers message
  | .arkResponses c => Ark.Responses.generate c m.binding input options
  | .claude c => Claude.generate c m.binding input options
  | .gemini c => Gemini.generate c m.binding input options

/-- The reply to a conversation, piece by piece. -/
def stream (m : Model) (input : List Message) (options : ChatOptions) :
    Action (List (Result Message)) :=
  match m.settings with
  | .deepSeek c => completeStreamed c.endpoint (c.request m.binding input options) []
  | .qwen c => completeStreamed c.endpoint (c.request m.binding input options) []
  | .qianfan c => completeStreamed c.endpoint (c.request m.binding input options) []
  | .ark c => completeStreamed c.endpoint (c.request m.binding input options) (c.headers options)
  | .arkResponses c => Ark.Responses.stream c m.binding input options
  | .claude c => Claude.stream c m.binding input options
  | .gemini c => Gemini.stream c m.binding input options

/-- Stores a beginning that later conversations share, where the provider can. -/
def storePrompt (m : Model) (beginning : List Message) (ttl : Int64) (options : ChatOptions) :
    Action Ark.Responses.StoredPrompt :=
  match m.settings with
  | .arkResponses c => Ark.Responses.storePrompt c m.binding beginning ttl options
  | _ => Action.fail (.plain "prefix_cache needs ark_responses")

end Model

end Chat

end ChatRetrieval
