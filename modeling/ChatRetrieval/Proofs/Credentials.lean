import ChatRetrieval.Proofs.Ark.Headers
import ChatRetrieval.Proofs.Elastic.Client
import ChatRetrieval.Proofs.Http.Headers
import ChatRetrieval.Proofs.Milvus.Rest

/-!
Credentials and the log. Every credential of every client goes under a name whose value is hidden, so
two clients that differ in the values of their credentials only are logged alike, request by request.
-/

namespace ChatRetrieval

open Headers (logged secretNames redacted)

def Action.requests {α : Type} (a : Action α) (s : Session) : List Request :=
  (a s).2.sent.drop s.sent.length

/-- The headers of all requests of the two actions are the same in the log, whatever the replies. -/
def LoggedAlike {α β : Type} (a : Action α) (b : Action β) : Prop :=
  ∀ s t, ∀ r ∈ a.requests s, ∀ q ∈ b.requests t, r.headers.sanitized = q.headers.sanitized

section

variable {α β : Type} {a : Action α} {b : Action β}

theorem Action.AsksOnly.requests {P : Request → Prop} (h : a.AsksOnly P) (s : Session) :
    ∀ r ∈ a.requests s, P r := by
  obtain ⟨exchanges, hmakes, hP⟩ := h s
  rw [Action.requests, hmakes.sent, List.drop_left]
  intro r hr
  obtain ⟨x, hx, rfl⟩ := List.mem_map.1 hr
  exact hP x hx

theorem LoggedAlike.of_asksOnly {built built' : Result Headers}
    (ha : a.AsksOnly fun r => built = .ok r.headers) (hb : b.AsksOnly fun r => built' = .ok r.headers)
    (h : ∀ {x y : Headers}, built = .ok x → built' = .ok y → x.sanitized = y.sanitized) :
    LoggedAlike a b :=
  fun s t r hr q hq => h (ha.requests s r hr) (hb.requests t q hq)

end

namespace Chat

theorem Client.sanitized_requestHeaders {c c' : Client} {extra : List (String × String)}
    (h : c.headers.map logged = c'.headers.map logged) {headers headers' : Headers}
    (hc : c.requestHeaders extra = .ok headers) (hc' : c'.requestHeaders extra = .ok headers') :
    headers.sanitized = headers'.sanitized := by
  refine Headers.sanitized_eq_of_logged hc hc' ?_
  rw [List.map_append, List.map_append, List.map_cons, List.map_cons, h]

/-- The same settings without the value of the key. -/
def Settings.masked : Settings → Settings
  | deepSeek c => deepSeek { c with common := { c.common with apiKey := "" } }
  | qwen c => qwen { c with common := { c.common with apiKey := "" } }
  | qianfan c => qianfan { c with common := { c.common with apiKey := "" } }
  | ark c => ark { c with common := { c.common with apiKey := "" } }
  | arkResponses c => arkResponses { c with apiKey := "" }
  | claude c => claude { c with apiKey := "" }
  | gemini c => gemini { c with apiKey := "" }

theorem Settings.logged_masked (c : Settings) :
    c.masked.client.headers.map logged = c.client.headers.map logged := by
  -- The names are kept as each client spells them; hiding compares them in lower case.
  have hbearer (key : String) : logged ("Authorization", "Bearer " ++ key) =
      ("Authorization", redacted) := Headers.logged_of_mem (by decide) _
  have hclaude (key : String) : logged ("x-api-key", key) = ("x-api-key", redacted) :=
    Headers.logged_of_mem (by decide) key
  have hgemini (key : String) :
      logged ("x-goog-api-key", key) = ("x-goog-api-key", redacted) :=
    Headers.logged_of_mem (by decide) key
  cases c <;>
    simp only [masked, client, Completions.Config.client, Ark.Responses.Config.client,
      Claude.Config.client, Gemini.Config.client, List.map_cons, hbearer, hclaude, hgemini]

theorem Settings.callHeaders_masked (options : ChatOptions) (c : Settings) :
    c.masked.callHeaders options = c.callHeaders options := by
  cases c <;> rfl

theorem Operation.loggedAlike {m m' : Model} (h : m.settings.masked = m'.settings.masked)
    (options : ChatOptions) (operation : Operation) :
    LoggedAlike (operation.run m options) (operation.run m' options) := by
  have hextra : m.settings.callHeaders options = m'.settings.callHeaders options := by
    rw [← Settings.callHeaders_masked, h, Settings.callHeaders_masked]
  have hlogged : m.settings.client.headers.map logged = m'.settings.client.headers.map logged := by
    rw [← Settings.logged_masked, h, Settings.logged_masked]
  have hrun := operation.run_asksOnly m options
  rw [hextra] at hrun
  exact .of_asksOnly hrun (operation.run_asksOnly m' options) (Client.sanitized_requestHeaders hlogged)

end Chat

theorem logged_credential {name : String} (h : Text.lower name ∈ secretNames) (f : String → String)
    (credential : Option String) :
    (credential.map fun x => (name, f x)).toList.map logged =
      if credential.isSome then [(name, redacted)] else [] := by
  cases credential with
  | none => rfl
  | some x => exact congrArg (fun p => [p]) (Headers.logged_of_mem h (f x))

theorem get?_sanitized_authorization {p : String × String} {f : String → String}
    {credential : Option String} {headers : Headers}
    (h : Headers.ofPairs (p :: (credential.map fun x => ("authorization", f x)).toList) = .ok headers)
    {name : String} (hname : name ≠ "authorization") :
    headers.sanitized.get? name = [Headers.entry (logged p)].lookup name := by
  have hlower : Text.lower "authorization" = "authorization" := by decide
  have hsecret : Text.lower "authorization" ∈ secretNames := by decide
  rw [Headers.sanitized_ofPairs h, List.map_cons, logged_credential hsecret, Dict.get?_ofList]
  split
  · have hentry : Headers.entry ("authorization", redacted) = ("authorization", redacted) := by
      rw [Headers.entry, hlower]
    rw [List.map_cons, List.map_singleton, hentry, List.reverse_cons, List.reverse_singleton,
      List.singleton_append, lookup_cons_eq_ite, if_neg hname]
  · rfl

/-- Two runs that send one header and perhaps an authorization are logged alike but for the latter. -/
theorem get?_sanitized_of_asksOnly {α β : Type} {a : Action α} {b : Action β} {p : String × String}
    {f : String → String} {credential credential' : Option String}
    (ha : a.AsksOnly fun r => Headers.ofPairs
      (p :: (credential.map fun x => ("authorization", f x)).toList) = .ok r.headers)
    (hb : b.AsksOnly fun r => Headers.ofPairs
      (p :: (credential'.map fun x => ("authorization", f x)).toList) = .ok r.headers)
    (s t : Session) : ∀ r ∈ a.requests s, ∀ q ∈ b.requests t, ∀ name, name ≠ "authorization" →
      r.headers.sanitized.get? name = q.headers.sanitized.get? name := by
  intro r hr q hq name hname
  rw [get?_sanitized_authorization (ha.requests s r hr) hname,
    get?_sanitized_authorization (hb.requests t q hq) hname]

namespace Elastic.ClientConfig

variable (c : ClientConfig)

def masked : ClientConfig :=
  { c with
    username := c.username.map fun _ => ""
    password := c.password.map fun _ => ""
    apiKey := c.apiKey.map fun _ => "" }

theorem isSome_authorization_masked : c.masked.authorization.isSome = c.authorization.isSome := by
  unfold authorization masked
  cases c.apiKey <;> cases c.username <;> simp

theorem execute_asksOnly (method : Method) (path contentType : String) (payload : Payload) :
    (c.execute method path contentType payload).AsksOnly fun r =>
      c.headers contentType = .ok r.headers := by
  intro s
  obtain ⟨exchanges, hmakes, hasks, -⟩ := c.executeJson_run Decode.any method path contentType payload s
  rw [executeJson_snd] at hmakes
  refine ⟨exchanges, hmakes, fun x hx => ?_⟩
  obtain ⟨headers, tried, urls, hheaders, -, -, hrequests⟩ := hasks (List.ne_nil_of_mem hx)
  have hmem : x.request ∈ urls.map fun url => ⟨method, url.text, headers, payload⟩ :=
    hrequests ▸ List.mem_map_of_mem hx
  obtain ⟨url, -, hurl⟩ := List.mem_map.1 hmem
  rw [← hurl]
  exact hheaders

variable {c}

theorem loggedAlike {c' : ClientConfig} (h : c.masked = c'.masked) (method : Method)
    (path contentType : String) (payload : Payload) :
    LoggedAlike (c.execute method path contentType payload)
      (c'.execute method path contentType payload) := by
  have hgiven : c.authorization.isSome = c'.authorization.isSome := by
    rw [← isSome_authorization_masked, h, isSome_authorization_masked]
  refine .of_asksOnly (c.execute_asksOnly method path contentType payload)
    (c'.execute_asksOnly method path contentType payload) fun hx hy => ?_
  refine Headers.sanitized_eq_of_logged hx hy ?_
  rw [List.map_cons, List.map_cons, logged_credential (by decide) (fun a => a),
    logged_credential (by decide) (fun a => a), hgiven]

end Elastic.ClientConfig

namespace Milvus.ClientConfig

variable (c : ClientConfig)

def masked : ClientConfig :=
  { c with
    token := c.token.map fun _ => ""
    username := c.username.map fun _ => ""
    password := c.password.map fun _ => "" }

theorem isSome_bearer_masked : c.masked.bearer.isSome = c.bearer.isSome := by
  unfold bearer masked
  cases c.token <;> cases c.username <;> cases c.password <;> simp

theorem send_asksOnly (path : String) (body : Json) :
    (c.send path body).AsksOnly fun r => c.headers = .ok r.headers := by
  refine .of_repeated fun s => ?_
  cases htarget : c.endpoint path with
  | error f => exact .inl (congrArg Prod.snd (send_of_error htarget))
  | ok target =>
    obtain ⟨url, -, h⟩ := Result.bind_eq_ok htarget
    obtain ⟨headers, hheaders, h⟩ := Result.bind_eq_ok h
    cases h
    exact .inr ⟨_, 1, hheaders, congrArg Prod.snd (send_eq body s htarget)⟩

variable {c}

theorem loggedAlike {c' : ClientConfig} (h : c.masked = c'.masked) (path : String) (body : Json) :
    LoggedAlike (c.send path body) (c'.send path body) := by
  have hgiven : c.bearer.isSome = c'.bearer.isSome := by
    rw [← isSome_bearer_masked, h, isSome_bearer_masked]
  refine .of_asksOnly (c.send_asksOnly path body) (c'.send_asksOnly path body) fun hx hy => ?_
  refine Headers.sanitized_eq_of_logged hx hy ?_
  rw [List.map_cons, List.map_cons, logged_credential (by decide) ("Bearer " ++ ·),
    logged_credential (by decide) ("Bearer " ++ ·), hgiven]

end Milvus.ClientConfig

/-- Credentials stay out of the log. Clients that differ in the values of credentials only are logged
alike in all their requests; for the two stores nothing else in the log tells even whether there is a
credential. All other headers are logged as they are. -/
theorem credentials_stay_hidden :
    (∀ m m' : Chat.Model, m.settings.masked = m'.settings.masked → ∀ options operation,
      LoggedAlike (Chat.Operation.run m options operation) (Chat.Operation.run m' options operation)) ∧
    (∀ c c' : Elastic.ClientConfig, c.masked = c'.masked → ∀ method path contentType payload,
      LoggedAlike (c.execute method path contentType payload)
        (c'.execute method path contentType payload)) ∧
    (∀ c c' : Milvus.ClientConfig, c.masked = c'.masked → ∀ path body,
      LoggedAlike (c.send path body) (c'.send path body)) ∧
    (∀ (c c' : Elastic.ClientConfig) method path contentType payload s t,
      ∀ r ∈ (c.execute method path contentType payload).requests s,
      ∀ q ∈ (c'.execute method path contentType payload).requests t,
      ∀ name, name ≠ "authorization" →
        r.headers.sanitized.get? name = q.headers.sanitized.get? name) ∧
    (∀ (c c' : Milvus.ClientConfig) path body s t,
      ∀ r ∈ (c.send path body).requests s, ∀ q ∈ (c'.send path body).requests t,
      ∀ name, name ≠ "authorization" →
        r.headers.sanitized.get? name = q.headers.sanitized.get? name) ∧
    ∀ headers : Headers, headers.sanitized.entries =
      headers.entries.map fun e => (e.1, if e.1 ∈ secretNames then redacted else e.2) := by
  refine ⟨fun _ _ h options operation => operation.loggedAlike h options,
    fun _ _ => Elastic.ClientConfig.loggedAlike, fun _ _ => Milvus.ClientConfig.loggedAlike, ?_, ?_,
    Headers.entries_sanitized⟩
  · intro c c' method path contentType payload
    exact get?_sanitized_of_asksOnly (c.execute_asksOnly method path contentType payload)
      (c'.execute_asksOnly method path contentType payload)
  · intro c c' path body
    exact get?_sanitized_of_asksOnly (c.send_asksOnly path body) (c'.send_asksOnly path body)

def keyedModel (key : String) : Chat.Model :=
  ⟨.arkResponses { Chat.teamConfig "Api-Key" with apiKey := key }, .none⟩

def keyedCluster (name password : String) : Elastic.ClientConfig :=
  { Elastic.ClientConfig.default with username := some name, password := some password }

def keyedStore (token : String) : Milvus.ClientConfig :=
  { Milvus.ClientConfig.ofAddress "http://h" with token := some token }

def silence : Session := ⟨[], [], [], 0, 0⟩

def clusterRequests (c : Elastic.ClientConfig) : List Request :=
  (c.execute .get "x" "text/plain" .empty).requests silence

def storeRequests (c : Milvus.ClientConfig) : List Request := (c.send "/x" .null).requests silence

theorem credentials_stay_hidden_threeClients :
    LoggedAlike (Chat.Operation.run (keyedModel "a") .none (.generate []))
      (Chat.Operation.run (keyedModel "b") .none (.generate [])) ∧
    LoggedAlike ((keyedCluster "a" "b").execute .get "x" "text/plain" .empty)
      ((keyedCluster "c" "").execute .get "x" "text/plain" .empty) ∧
    LoggedAlike ((keyedStore "a").send "/x" .null) ((keyedStore "b").send "/x" .null) ∧
    (∀ r ∈ clusterRequests (keyedCluster "a" "b"), ∀ q ∈ clusterRequests .default,
      r.headers.sanitized.get? "content-type" = q.headers.sanitized.get? "content-type") ∧
    (∀ r ∈ storeRequests (keyedStore "a"), ∀ q ∈ storeRequests (.ofAddress "http://h"),
      r.headers.sanitized.get? "content-type" = q.headers.sanitized.get? "content-type") ∧
    (clusterRequests (keyedCluster "a" "b")).map (·.headers.sanitized.entries) =
      [[("authorization", "[REDACTED]"), ("content-type", "text/plain")]] ∧
    (storeRequests (.ofAddress "http://h")).map (·.headers.sanitized.entries) =
      [[("content-type", "application/json")]] ∧
    ((Chat.Operation.run (keyedModel "a") .none (.generate [])).requests silence).map
      (·.headers.sanitized.entries) = [[("api-key", "[REDACTED]"), ("authorization", "[REDACTED]"),
        ("content-type", "application/json"), ("x-zone", "z")]] := by
  have hmodel : (keyedModel "a").settings.masked = (keyedModel "b").settings.masked := rfl
  have hcluster : (keyedCluster "a" "b").masked = (keyedCluster "c" "").masked := rfl
  have hstore : (keyedStore "a").masked = (keyedStore "b").masked := rfl
  exact ⟨credentials_stay_hidden.1 _ _ hmodel .none (.generate []),
    credentials_stay_hidden.2.1 _ _ hcluster .get "x" "text/plain" .empty,
    credentials_stay_hidden.2.2.1 _ _ hstore "/x" .null,
    fun r hr q hq => credentials_stay_hidden.2.2.2.1 _ _ _ _ _ _ _ _ r hr q hq _ (by decide),
    fun r hr q hq => credentials_stay_hidden.2.2.2.2.1 _ _ _ _ _ _ r hr q hq _ (by decide),
    by decide +kernel, by decide +kernel, by decide +kernel⟩

end ChatRetrieval
