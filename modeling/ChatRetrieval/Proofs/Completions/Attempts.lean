import ChatRetrieval.Chat.Model
import ChatRetrieval.Proofs.Chat.Attempts
import ChatRetrieval.Proofs.Result

/-!
Attempts of a chat-completions model. They are those of the post alone: an error object in a reply
that is otherwise fine is found after the last attempt, so it is never followed by another one.
-/

namespace ChatRetrieval

/-- The error object of a completion whose status is a success. -/
def Reply.apiError? : Reply → Option Completions.ApiError
  | .answered ⟨status, _, .ok text⟩ _ =>
    if Http.isSuccess status then
      (Decode.fromText Completions.Reply.decode text).bind (·.error)
    else none
  | _ => none

namespace Completions

theorem Endpoint.client_of_under {base provider : String} {client : Chat.Client}
    {decorate : Reply → Message → Message} {e : Endpoint}
    (h : Endpoint.under base provider client decorate = .ok e) : e.client = client := by
  obtain ⟨url, -, h⟩ := Result.bind_eq_ok h
  obtain rfl := Except.ok.inj h
  rfl

/-- The message that the answer to the last attempt gives. -/
def Endpoint.conclude (e : Endpoint) (answer : Chat.Answer Reply) : Result (Message × Headers) :=
  (responseMessage e.provider answer.body).map fun m => (e.decorate answer.body m, answer.headers)

theorem Endpoint.generate_of_headers {e : Endpoint} {extra : List (String × String)}
    {headers : Headers} (h : e.client.requestHeaders extra = .ok headers) (request : Request)
    (s : Session) :
    ∃ wire : ChatRetrieval.Request, e.generate request extra s =
      (Chat.attemptOutcome e.client.retry Reply.decode wire s (s.repeats e.client.retry) >>= e.conclude,
        s.asked wire (s.repeats e.client.retry + 1)) := by
  refine ⟨⟨.post, e.url.text, headers, .json request.toJson⟩, ?_⟩
  have hpost := Chat.postJson_eq h Reply.decode e.url request.toJson s
  unfold Endpoint.generate
  generalize Chat.attemptOutcome e.client.retry Reply.decode _ s _ = last at hpost ⊢
  cases last with
  | error f => exact Action.bind_of_error hpost _
  | ok answer =>
    rw [Action.bind_of_ok hpost]
    unfold Endpoint.conclude
    show _ = ((responseMessage e.provider answer.body).map _, _)
    cases responseMessage e.provider answer.body <;> rfl

theorem Endpoint.generate_of_headers_error {e : Endpoint} {extra : List (String × String)}
    {f : Failure} (h : e.client.requestHeaders extra = .error f) (request : Request) (s : Session) :
    e.generate request extra s = (.error f, s) := by
  have hpost : e.client.postJson Reply.decode e.url request.toJson extra s = (.error f, s) := by
    unfold Chat.Client.postJson
    rw [h]
    rfl
  exact Action.bind_of_error hpost _

theorem conclude_of_apiError {s : Session} {i : Nat} {error : ApiError}
    (h : (s.replyTo i).apiError? = some error) (config : RetryConfig)
    (wire : ChatRetrieval.Request) (e : Endpoint) :
    Chat.attemptOutcome config Reply.decode wire s i >>= e.conclude =
      .error (apiFailure e.provider error) := by
  rw [Chat.attemptOutcome_eq]
  generalize s.replyTo i = reply at h ⊢
  unfold Reply.apiError? at h
  split at h
  case h_2 => cases h
  case h_1 status headers text events =>
    split at h
    case isFalse => cases h
    case isTrue hstatus =>
      obtain ⟨body, hbody, herror⟩ := Option.bind_eq_some_iff.1 h
      have hread : Chat.posted Reply.decode wire.url (.answered ⟨status, headers, .ok text⟩ events) =
          .ok ⟨body, headers⟩ := by
        simp only [Chat.posted, Http.readJson, Result.within, hstatus, if_true, hbody,
          Result.ofOption]
        rfl
      rw [hread]
      show Except.map _ (responseMessage e.provider body) = _
      simp only [responseMessage, herror]
      rfl

end Completions

namespace Chat

def Settings.completions? : Settings → Option Completions.Config
  | deepSeek c => some c.common
  | qwen c => some c.common
  | qianfan c => some c.common
  | ark c => some c.common
  | arkResponses _ | claude _ | gemini _ => none

/-- A call of a chat-completions model that was sent: its attempts are those of a post, and an error
object in the reply to the last one is its result, marked as nothing that may pass. -/
structure Completed (config : RetryConfig) (s : Session) {α : Type} (result : Result α)
    (after : Session) : Prop where
  sent : ∃ wire, after = s.asked wire (s.repeats config + 1)
  concludes : ∀ error, (s.replyTo (s.repeats config)).apiError? = some error →
    ∃ provider, result = .error (Completions.apiFailure provider error)

theorem Completed.map {config : RetryConfig} {s after : Session} {α β : Type} {result : Result α}
    (h : Completed config s result after) (g : α → β) : Completed config s (result.map g) after where
  sent := h.sent
  concludes error herror := by
    obtain ⟨provider, hresult⟩ := h.concludes error herror
    exact ⟨provider, by rw [hresult]; rfl⟩

theorem complete_run {endpoint : Result Completions.Endpoint} {config : RetryConfig}
    (hretry : ∀ e, endpoint = .ok e → e.client.retry = config)
    (request : Result Completions.Request) (headers : List (String × String)) (s : Session) :
    (∃ f, Model.complete endpoint request headers s = (.error f, s)) ∨
    Completed config s (Model.complete endpoint request headers s).1
      (Model.complete endpoint request headers s).2 := by
  unfold Model.complete
  cases request with
  | error f => exact .inl ⟨f, rfl⟩
  | ok request =>
    cases endpoint with
    | error f => exact .inl ⟨f, rfl⟩
    | ok e =>
      obtain rfl := hretry e rfl
      rw [Action.lift_ok_bind, Action.lift_ok_bind]
      cases hheaders : e.client.requestHeaders headers with
      | error f => exact .inl ⟨f, e.generate_of_headers_error hheaders request s⟩
      | ok _ =>
        obtain ⟨wire, hrun⟩ := e.generate_of_headers hheaders request s
        rw [hrun]
        exact .inr ⟨⟨wire, rfl⟩, fun error herror =>
          ⟨e.provider, Completions.conclude_of_apiError herror _ wire e⟩⟩

theorem completed_bind_pure {α β : Type} {a : Action α} {config : RetryConfig} {s : Session}
    (h : (∃ f, a s = (.error f, s)) ∨ Completed config s (a s).1 (a s).2) (g : α → β) :
    (∃ f, (a >>= fun x => pure (g x)) s = (.error f, s)) ∨
    Completed config s ((a >>= fun x => pure (g x)) s).1 ((a >>= fun x => pure (g x)) s).2 := by
  have hpure : (a >>= fun x => pure (g x)) s = (Except.map g (a s).1, (a s).2) :=
    Action.bind_pure_run rfl g
  rw [hpure]
  rcases h with ⟨f, hrun⟩ | hrun
  · exact .inl ⟨f, by rw [hrun]; rfl⟩
  · exact .inr (hrun.map g)

/-- A chat-completions model fails before it sends anything, or it makes one attempt more than
replies pass in front of the first other one, as far as the repeats go. An error object in a reply
that is otherwise fine does not pass, whatever its code: the call ends with it. -/
theorem Model.generate_attempts {m : Model} {config : Completions.Config}
    (h : m.settings.completions? = some config) (input : List Message) (options : ChatOptions)
    (s : Session) :
    (∃ f, m.generate input options s = (.error f, s)) ∨
    Completed config.retry s (m.generate input options s).1 (m.generate input options s).2 := by
  have hclient : ∀ {base provider : String} {decorate : Completions.Reply → Message → Message} e,
      Completions.Endpoint.under base provider config.client decorate = .ok e →
        e.client.retry = config.retry := by
    intro base provider decorate e he
    rw [Completions.Endpoint.client_of_under he]
    rfl
  obtain ⟨settings, binding⟩ := m
  cases settings with
  | deepSeek c =>
    obtain rfl := Option.some.inj h
    exact completed_bind_pure (complete_run hclient _ _ s) _
  | qwen c =>
    obtain rfl := Option.some.inj h
    exact completed_bind_pure (complete_run hclient _ _ s) _
  | qianfan c =>
    obtain rfl := Option.some.inj h
    exact completed_bind_pure (complete_run hclient _ _ s) _
  | ark c =>
    obtain rfl := Option.some.inj h
    exact completed_bind_pure (complete_run hclient _ _ s) _
  | arkResponses c => cases h
  | claude c => cases h
  | gemini c => cases h

theorem Model.generate_attempts_busy :
    let config : Completions.Config :=
      ⟨"k", "http://h", "m", none, none, none, none, none, none, none, .default, .default⟩
    let m : Model := ⟨.qwen ⟨config, none, none⟩, .none⟩
    let s : Session := ⟨[.answered ⟨200, .empty,
      .ok "\x7b\"error\":\x7b\"code\":\"503\",\"message\":\"busy\"\x7d\x7d"⟩ []], [], [], 0, 0⟩
    m.settings.completions? = some config ∧
    ((∃ f, m.generate [] .none s = (.error f, s)) ∨
      Completed config.retry s (m.generate [] .none s).1 (m.generate [] .none s).2) :=
  ⟨rfl, Model.generate_attempts rfl [] .none _⟩

/-- Not every failure that may pass is followed by another request: an error object with the code of
a listed status is the result of the first attempt, though a repeat is left and would succeed. -/
theorem Model.generate_stops_at_apiError :
    let config : Completions.Config :=
      ⟨"k", "http://h", "m", none, none, none, none, none, none, none, .default, .default⟩
    let m : Model := ⟨.deepSeek ⟨config, false, none⟩, .none⟩
    let s : Session := ⟨[
      .answered ⟨200, .empty,
        .ok "\x7b\"error\":\x7b\"code\":\"503\",\"message\":\"busy\"\x7d\x7d"⟩ [],
      .answered ⟨200, .empty,
        .ok "\x7b\"choices\":[\x7b\"message\":\x7b\"content\":\"hi\"\x7d\x7d]\x7d"⟩ []], [], [], 0, 0⟩
    ∃ f, (m.generate [] .none s).1 = .error f ∧ (f.classify config.retry).isRetryable = true ∧
      (m.generate [] .none s).2.sent.length = 1 ∧ 1 ≤ config.retry.maxRetries ∧
      (m.generate [] .none s).2.replies.length = 1 := by
  intro config m s
  obtain ⟨request, hrequest⟩ : ∃ r, DeepSeek.Config.request ⟨config, false, none⟩ .none [] .none = .ok r :=
    Result.exists_ok_of_isOk (by decide)
  obtain ⟨e, hendpoint⟩ : ∃ e, DeepSeek.Config.endpoint ⟨config, false, none⟩ = .ok e :=
    Result.exists_ok_of_isOk (by decide)
  have hclient : e.client = config.client := Completions.Endpoint.client_of_under hendpoint
  obtain ⟨headers, hheaders⟩ : ∃ headers, e.client.requestHeaders [] = .ok headers := by
    rw [hclient]
    exact Result.exists_ok_of_isOk (by decide)
  obtain ⟨wire, hrun⟩ := e.generate_of_headers hheaders request s
  have herror : (s.replyTo 0).apiError? = some ⟨some (.str "503"), "busy", none⟩ := by
    decide +kernel
  have hrepeats : s.repeats e.client.retry = 0 := by
    rw [hclient]
    rfl
  rw [hrepeats, Completions.conclude_of_apiError herror] at hrun
  have hcomplete : m.generate [] .none s =
      (.error (Completions.apiFailure e.provider ⟨some (.str "503"), "busy", none⟩),
        s.asked wire 1) := by
    show (Model.complete (DeepSeek.Config.endpoint _) (DeepSeek.Config.request _ _ _ _) [] >>= _) s = _
    rw [hrequest, hendpoint]
    exact Action.bind_of_error hrun _
  rw [hcomplete]
  exact ⟨_, rfl, rfl, rfl, by decide, rfl⟩

end Chat

end ChatRetrieval
