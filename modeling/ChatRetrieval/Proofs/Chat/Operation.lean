import ChatRetrieval.Chat.Model
import ChatRetrieval.Proofs.Chat.Stream
import ChatRetrieval.Proofs.Completions.Attempts
import ChatRetrieval.Proofs.Http.Trace

/-!
The traffic of a chat model. Whatever a model is called for, all its requests have the headers of its
client with those of the call behind them and the body that was built for the call, and where none can be
built the call fails.
-/

namespace ChatRetrieval

open ChatRetrieval.Action (Asks AsksOnly)

namespace Chat

variable {α : Type}

/-- A request with these headers, if they are well formed, and a body that is built at some second. -/
structure Sends (headers : Result Headers) (body : Int64 → Result Json) (r : Request) : Prop where
  headers : headers = .ok r.headers
  payload : ∃ now j, body now = .ok j ∧ r.payload = .json j

section

variable {body : Int64 → Result Json} {j : Json} {now : Int64} (hbody : body now = .ok j)
include hbody

theorem Client.postJson_asks (c : Client) (d : Decoder α) (url : Url) (extra : List (String × String)) :
    (c.postJson d url j extra).Asks (Sends (c.requestHeaders extra) body) := by
  unfold Client.postJson
  refine Asks.lift_bind fun headers hheaders => Asks.of_repeated fun s => ?_
  let request : Request := ⟨.post, url.text, headers, .json j⟩
  obtain ⟨n, -, -, -, hrun⟩ := retrying_run (postOnce_eq d request) c.retry s
  exact ⟨request, n, ⟨hheaders, now, j, hbody, rfl⟩, congrArg Prod.snd hrun⟩

theorem Client.postStream_asks (c : Client) (url : Url) (extra : List (String × String)) :
    (c.postStream url j extra).Asks (Sends (c.requestHeaders extra) body) := by
  unfold Client.postStream
  refine Asks.lift_bind fun headers hheaders => Asks.of_repeated fun s => ?_
  let request : Request := ⟨.stream, url.text, headers, .json j⟩
  obtain ⟨n, result, hrun, -⟩ := retrying_openOnce_run c.retry request s
  exact ⟨request, n, ⟨hheaders, now, j, hbody, rfl⟩, congrArg Prod.snd hrun⟩

end

def made {ρ : Type} (toJson : ρ → Json) (request : Int64 → Result ρ) : Int64 → Result Json :=
  fun now => (request now).map toJson

theorem made_eq_ok {ρ : Type} (toJson : ρ → Json) (request : Int64 → Result ρ) (now : Int64) {r : ρ}
    (h : request now = .ok r) : made toJson request now = .ok (toJson r) := by
  rw [made, h]
  rfl

section

variable {base provider : String} {client : Client} {decorate : Completions.Reply → Message → Message}
  {request : Result Completions.Request} {extra : List (String × String)}

theorem Model.complete_asks :
    (complete (Completions.Endpoint.under base provider client decorate) request extra).Asks
      (Sends (client.requestHeaders extra) (made (·.toJson) fun _ => request)) := by
  refine Asks.lift_bind fun r hr => Asks.lift_bind fun e he => ?_
  obtain rfl := Completions.Endpoint.client_of_under he
  have hbody := made_eq_ok (·.toJson) (fun _ => request) 0 hr
  exact (e.client.postJson_asks hbody _ _ _).bind fun _ => (AsksOnly.lift _).bind fun _ => .pure _

theorem Model.completeStreamed_asks :
    (completeStreamed (Completions.Endpoint.under base provider client decorate) request extra).Asks
      (Sends (client.requestHeaders extra)
        (made (fun r => { r with streamed := true }.toJson) fun _ => request)) := by
  refine Asks.lift_bind fun r hr => Asks.lift_bind fun e he => ?_
  obtain rfl := Completions.Endpoint.client_of_under he
  have hbody := made_eq_ok (fun r => { r with streamed := true }.toJson) (fun _ => request) 0 hr
  exact (e.client.postStream_asks hbody _ _).bind fun _ => .pure _

end

end Chat

open Chat (Sends made made_eq_ok)

namespace Ark.Responses

variable (c : Config) (binding : Binding) (options : ChatOptions)

theorem generate_asks (input : List Message) : (generate c binding input options).Asks
    (Sends (c.client.requestHeaders (c.headers options))
      (made (·.toJson) (c.request binding input options))) := by
  refine Asks.after .unixTime fun now => Asks.lift_bind fun r hr => Asks.lift_bind fun url _ => ?_
  exact (c.client.postJson_asks (made_eq_ok _ _ now hr) _ _ _).bind fun _ => .lift _

theorem stream_asks (input : List Message) : (stream c binding input options).Asks
    (Sends (c.client.requestHeaders (c.headers options))
      (made (fun r => { r with streamed := true }.toJson) (c.request binding input options))) := by
  refine Asks.after .unixTime fun now => Asks.lift_bind fun r hr => Asks.lift_bind fun url _ => ?_
  have hbody := made_eq_ok (fun r => { r with streamed := true }.toJson) _ now hr
  exact (c.client.postStream_asks hbody _ _).bind fun _ => .pure _

theorem storePrompt_asks (beginning : List Message) (ttl : Int64) :
    (storePrompt c binding beginning ttl options).Asks
      (Sends (c.client.requestHeaders (c.headers options))
        (made (·.toJson) (c.storingRequest binding beginning ttl options))) := by
  unfold storePrompt
  dsimp only
  split
  · exact .fail _
  · refine Asks.after .unixTime fun now => Asks.lift_bind fun r hr => Asks.lift_bind fun url _ => ?_
    exact (c.client.postJson_asks (made_eq_ok _ _ now hr) _ _ _).bind fun _ => .pure _

end Ark.Responses

namespace Claude

variable (c : Config) (binding : Binding) (input : List Message) (options : ChatOptions)

theorem generate_asks : (generate c binding input options).Asks
    (Sends (c.client.requestHeaders []) (made (·.toJson) fun _ => c.request binding input options)) := by
  refine Asks.lift_bind fun r hr => Asks.lift_bind fun url _ => ?_
  have hbody := made_eq_ok (·.toJson) (fun _ => c.request binding input options) 0 hr
  exact (c.client.postJson_asks hbody _ _ _).bind fun _ => .pure _

theorem stream_asks : (stream c binding input options).Asks
    (Sends (c.client.requestHeaders [])
      (made (fun r => { r with streamed := true }.toJson) fun _ => c.request binding input options)) := by
  refine Asks.lift_bind fun r hr => Asks.lift_bind fun url _ => ?_
  have hbody := made_eq_ok (fun r => { r with streamed := true }.toJson)
    (fun _ => c.request binding input options) 0 hr
  exact (c.client.postStream_asks hbody _ _).bind fun _ => .pure _

end Claude

namespace Gemini

variable (c : Config) (binding : Binding) (input : List Message) (options : ChatOptions)

theorem generate_asks : (generate c binding input options).Asks
    (Sends (c.client.requestHeaders []) (made (·.toJson) fun _ => c.request binding input options)) := by
  refine Asks.lift_bind fun r hr => Asks.lift_bind fun url _ => ?_
  have hbody := made_eq_ok (·.toJson) (fun _ => c.request binding input options) 0 hr
  exact (c.client.postJson_asks hbody _ _ _).bind fun _ => .lift _

theorem stream_asks : (stream c binding input options).Asks
    (Sends (c.client.requestHeaders []) (made (·.toJson) fun _ => c.request binding input options)) := by
  refine Asks.lift_bind fun r hr => Asks.lift_bind fun url _ => ?_
  have hbody := made_eq_ok (·.toJson) (fun _ => c.request binding input options) 0 hr
  exact (c.client.postStream_asks hbody _ _).bind fun _ => .pure _

end Gemini

namespace Chat

def Settings.client : Settings → Client
  | deepSeek c => c.common.client
  | qwen c => c.common.client
  | qianfan c => c.common.client
  | ark c => c.common.client
  | arkResponses c => c.client
  | claude c => c.client
  | gemini c => c.client

def Settings.callHeaders (options : ChatOptions) : Settings → List (String × String)
  | ark c => c.headers options
  | arkResponses c => c.headers options
  | deepSeek _ | qwen _ | qianfan _ | claude _ | gemini _ => []

inductive Operation where
  | generate (input : List Message)
  | stream (input : List Message)
  | storePrompt (beginning : List Message) (ttl : Int64)

def Operation.run (m : Model) (options : ChatOptions) : Operation → Action Unit
  | generate input => do let _ ← m.generate input options
  | stream input => do let _ ← m.stream input options
  | storePrompt beginning ttl => do let _ ← m.storePrompt beginning ttl options

/-- The body that is built for a call at some second. -/
def Operation.body (m : Model) (options : ChatOptions) : Operation → Int64 → Result Json
  | generate input => match m.settings with
    | .deepSeek c => made (·.toJson) fun _ => c.request m.binding input options
    | .qwen c => made (·.toJson) fun _ => c.request m.binding input options
    | .qianfan c => made (·.toJson) fun _ => c.request m.binding input options
    | .ark c => made (·.toJson) fun _ => c.request m.binding input options
    | .arkResponses c => made (·.toJson) (c.request m.binding input options)
    | .claude c => made (·.toJson) fun _ => c.request m.binding input options
    | .gemini c => made (·.toJson) fun _ => c.request m.binding input options
  | stream input => match m.settings with
    | .deepSeek c => made (fun r => { r with streamed := true }.toJson) fun _ =>
      c.request m.binding input options
    | .qwen c => made (fun r => { r with streamed := true }.toJson) fun _ =>
      c.request m.binding input options
    | .qianfan c => made (fun r => { r with streamed := true }.toJson) fun _ =>
      c.request m.binding input options
    | .ark c => made (fun r => { r with streamed := true }.toJson) fun _ =>
      c.request m.binding input options
    | .arkResponses c => made (fun r => { r with streamed := true }.toJson)
      (c.request m.binding input options)
    | .claude c => made (fun r => { r with streamed := true }.toJson) fun _ =>
      c.request m.binding input options
    | .gemini c => made (·.toJson) fun _ => c.request m.binding input options
  | storePrompt beginning ttl => match m.settings with
    | .arkResponses c => made (·.toJson) (c.storingRequest m.binding beginning ttl options)
    | _ => fun _ => .error (.plain "prefix_cache needs ark_responses")

/-- Whatever a model is called for, all its requests have the headers of its client with those of the
call behind them and the body that was built, and a call that makes none fails. -/
theorem Operation.run_asks (m : Model) (options : ChatOptions) (operation : Operation) :
    (operation.run m options).Asks
      (Sends (m.settings.client.requestHeaders (m.settings.callHeaders options))
        (operation.body m options)) := by
  obtain ⟨settings, binding⟩ := m
  cases operation with
  | generate input =>
    refine Asks.bind ?_ fun _ => .pure _
    cases settings with
    | deepSeek c => exact Model.complete_asks.bind fun _ => .pure _
    | qwen c => exact Model.complete_asks.bind fun _ => .pure _
    | qianfan c => exact Model.complete_asks.bind fun _ => .pure _
    | ark c => exact Model.complete_asks.bind fun _ => .pure _
    | arkResponses c => exact Ark.Responses.generate_asks c binding options input
    | claude c => exact Claude.generate_asks c binding input options
    | gemini c => exact Gemini.generate_asks c binding input options
  | stream input =>
    refine Asks.bind ?_ fun _ => .pure _
    cases settings with
    | deepSeek c => exact Model.completeStreamed_asks
    | qwen c => exact Model.completeStreamed_asks
    | qianfan c => exact Model.completeStreamed_asks
    | ark c => exact Model.completeStreamed_asks
    | arkResponses c => exact Ark.Responses.stream_asks c binding options input
    | claude c => exact Claude.stream_asks c binding input options
    | gemini c => exact Gemini.stream_asks c binding input options
  | storePrompt beginning ttl =>
    refine Asks.bind ?_ fun _ => .pure _
    cases settings with
    | arkResponses c => exact Ark.Responses.storePrompt_asks c binding options beginning ttl
    | deepSeek _ | qwen _ | qianfan _ | ark _ | claude _ | gemini _ => exact Asks.fail _

theorem Operation.run_asksOnly (m : Model) (options : ChatOptions) (operation : Operation) :
    (operation.run m options).AsksOnly fun r =>
      m.settings.client.requestHeaders (m.settings.callHeaders options) = .ok r.headers :=
  ((operation.run_asks m options).mono fun h => h.headers).asksOnly

end Chat

end ChatRetrieval
