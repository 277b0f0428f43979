import ChatRetrieval.Elastic.Client
import ChatRetrieval.Proofs.Http.Session
import Mathlib.Data.List.Forall2

/-!
Requests to the nodes of a cluster. The addresses are asked in their order with one and the same request,
and the first reply ends the search for one.
-/

namespace ChatRetrieval

namespace Elastic

section

variable (method : Method) (path : String) (headers : Headers) (payload : Payload)

theorem sendToAny_cons (last : Failure) (address : String) (rest : List String) (s : Session) :
    sendToAny method path headers payload last (address :: rest) s =
      match Url.join address path with
      | .error f => (.error f, s)
      | .ok url =>
        let asked := s.asked ⟨method, url.text, headers, payload⟩ 1
        match s.replyTo 0 with
        | .answered response _ => (.ok (response, url.text), asked)
        | .failed f => sendToAny method path headers payload
            (f.within (Http.contextText none method.name url.text)) rest asked := by
  rw [sendToAny]
  cases hurl : Url.join address path with
  | error f => rfl
  | ok url =>
    have hsend : (Http.send ⟨method, url.text, headers, payload⟩).attempt s =
        (.ok ((Http.answer (s.replyTo 0)).map Prod.fst),
          s.asked ⟨method, url.text, headers, payload⟩ 1) := by
      rw [Action.attempt, Http.send_eq]
    refine (Action.lift_ok_bind url _ s).trans ((Action.bind_of_ok hsend _).trans ?_)
    cases s.replyTo 0 <;> rfl

/-- Nodes are asked until one answers: the exchanges before the last one failed, and the last one
decides. Nothing is asked only if there is no first address that can be. -/
theorem sendToAny_run (last : Failure) (addresses : List String) (s : Session) :
    ∃ exchanges tried urls,
      s.Makes exchanges (sendToAny method path headers payload last addresses s).2 ∧
      tried <+: addresses ∧
      List.Forall₂ (fun address url => Url.join address path = .ok url) tried urls ∧
      exchanges.map (·.request) = urls.map (fun url => ⟨method, url.text, headers, payload⟩) ∧
      (∀ x ∈ exchanges.dropLast, ∃ f, x.reply = .failed f) ∧
      (match (sendToAny method path headers payload last addresses s).1 with
        | .ok (response, _) => ∃ x events, exchanges.getLast? = some x ∧
          x.reply = .answered response events
        | .error _ => ∀ x ∈ exchanges.getLast?, ∃ f, x.reply = .failed f) ∧
      (exchanges = [] ↔ ∀ address ∈ addresses.head?, ∀ url, Url.join address path ≠ .ok url) := by
  induction addresses generalizing last s with
  | nil => exact ⟨[], [], [], .refl s, List.prefix_rfl, .nil, rfl, nofun, nofun, by simp⟩
  | cons address rest ih =>
    rw [sendToAny_cons]
    cases hurl : Url.join address path with
    | error f =>
      refine ⟨[], [], [], .refl s, List.nil_prefix, .nil, rfl, nofun, nofun, iff_of_true rfl ?_⟩
      rintro _ ⟨⟩ url hjoin
      rw [hurl] at hjoin
      cases hjoin
    | ok url =>
      have hasks : ¬∀ a ∈ (address :: rest).head?, ∀ u, Url.join a path ≠ .ok u :=
        fun h => h address rfl url hurl
      have hfirst := Session.makes_asked s ⟨method, url.text, headers, payload⟩
      cases hreply : s.replyTo 0 with
      | answered response events =>
        rw [hreply] at hfirst
        exact ⟨_, [address], [url], hfirst, ⟨rest, rfl⟩, .cons hurl .nil, rfl, nofun,
          ⟨_, events, rfl, rfl⟩, iff_of_false (List.cons_ne_nil _ _) hasks⟩
      | failed f =>
        rw [hreply] at hfirst
        obtain ⟨exchanges, tried, urls, hmakes, hprefix, hurls, hrequests, hfailed, hlast, -⟩ :=
          ih (f.within (Http.contextText none method.name url.text))
            (s.asked ⟨method, url.text, headers, payload⟩ 1)
        refine ⟨_ :: exchanges, address :: tried, url :: urls, hfirst.trans hmakes,
          List.cons_prefix_cons.2 ⟨rfl, hprefix⟩, .cons hurl hurls, congrArg (_ :: ·) hrequests, ?_,
          ?_, iff_of_false (List.cons_ne_nil _ _) hasks⟩
        · intro x hx
          cases exchanges with
          | nil => cases hx
          | cons y more =>
            rcases List.mem_cons.1 hx with rfl | hx
            · exact ⟨f, rfl⟩
            · exact hfailed x hx
        · cases exchanges with
          | nil =>
            -- No other node could be asked, so the failure of this one is the last.
            generalize (sendToAny method path headers payload _ rest _).1 = result at hlast ⊢
            cases result with
            | ok answer => obtain ⟨x, -, hx, -⟩ := hlast; cases hx
            | error g => rintro x ⟨⟩; exact ⟨f, rfl⟩
          | cons y more =>
            rw [List.getLast?_cons_cons]
            exact hlast

end

namespace ClientConfig

variable {α : Type} (c : ClientConfig) (d : Decoder α) (method : Method) (path contentType : String)
  (payload : Payload) (s : Session)

/-- Whether a request can be made at all: it has headers and a first address to go to. -/
def Reaches : Prop :=
  (∃ headers, c.headers contentType = .ok headers) ∧
    ∃ address ∈ c.addresses.head?, ∃ url, Url.join address path = .ok url

/-- The same request to one address after another, from the first one on. -/
def Asks (requests : List Request) : Prop :=
  ∃ headers tried urls, c.headers contentType = .ok headers ∧ tried <+: c.addresses ∧
    List.Forall₂ (fun address url => Url.join address path = .ok url) tried urls ∧
    requests = urls.map (fun url => ⟨method, url.text, headers, payload⟩)

theorem executeJson_snd :
    (c.executeJson d method path contentType payload s).2 =
      (c.execute method path contentType payload s).2 :=
  Action.bind_lift_snd (c.execute method path contentType payload) _ s

theorem executeJson_fst_toOption {result : Result (Response × String)} {after : Session}
    (h : c.execute method path contentType payload s = (result, after)) :
    (c.executeJson d method path contentType payload s).1.toOption =
      result.toOption.bind fun answer =>
        (Http.readJson d answer.1 method.name answer.2).toOption := by
  cases result with
  | error f => rw [executeJson, Action.bind_of_error h]; rfl
  | ok answer => rw [executeJson, Action.bind_of_ok h]; rfl

theorem executeJson_run :
    ∃ exchanges, s.Makes exchanges (c.executeJson d method path contentType payload s).2 ∧
      (exchanges ≠ [] → c.Asks method path contentType payload (exchanges.map (·.request))) ∧
      (∀ x ∈ exchanges.dropLast, ∃ f, x.reply = .failed f) ∧
      (c.executeJson d method path contentType payload s).1.toOption =
        exchanges.getLast?.bind (·.reply.value? d) ∧
      (exchanges ≠ [] ↔ c.Reaches path contentType) := by
  cases hheaders : c.headers contentType with
  | error f =>
    have hrun : c.execute method path contentType payload s = (.error f, s) := by
      rw [execute, hheaders]
      rfl
    refine ⟨[], ?_, nofun, nofun, ?_, iff_of_false (fun h => h rfl) ?_⟩
    · rw [executeJson_snd, hrun]
      exact .refl s
    · rw [executeJson_fst_toOption c d method path contentType payload s hrun]
      rfl
    · rintro ⟨⟨headers, h⟩, -⟩
      rw [hheaders] at h
      cases h
  | ok headers =>
    obtain ⟨exchanges, tried, urls, hmakes, hprefix, hurls, hrequests, hfailed, hlast, hnone⟩ :=
      sendToAny_run method path headers payload Cause.noAddress.failure c.addresses s
    have hrun : c.execute method path contentType payload s =
        sendToAny method path headers payload Cause.noAddress.failure c.addresses s := by
      rw [execute, hheaders]
      rfl
    refine ⟨exchanges, ?_, fun _ => ⟨headers, tried, urls, hheaders, hprefix, hurls, hrequests⟩,
      hfailed, ?_, ?_⟩
    · rwa [executeJson_snd, hrun]
    · rw [executeJson_fst_toOption c d method path contentType payload s hrun]
      generalize (sendToAny method path headers payload _ c.addresses s).1 = result at hlast
      cases result with
      | ok answer =>
        obtain ⟨x, events, hx, hreply⟩ := hlast
        rw [hx, Option.bind_some, hreply]
        exact Http.readJson_toOption d answer.1 events method.name answer.2
      | error f =>
        cases hx : exchanges.getLast? with
        | none => rfl
        | some x =>
          obtain ⟨g, hreply⟩ := hlast x hx
          rw [Option.bind_some, hreply]
          rfl
    · rw [Ne, hnone, Reaches]
      simp only [ne_eq, not_forall, not_not, exists_prop, hheaders, Except.ok.injEq, exists_eq',
        true_and]

theorem executeJson_sent :
    match c.headers contentType with
    | .error _ => (c.executeJson d method path contentType payload s).2 = s
    | .ok headers => ∃ tried urls, tried <+: c.addresses ∧
      List.Forall₂ (fun address url => Url.join address path = .ok url) tried urls ∧
      (c.executeJson d method path contentType payload s).2.sent =
        s.sent ++ urls.map (fun url => ⟨method, url.text, headers, payload⟩) ∧
      ∀ address ∈ c.addresses.head?, ∀ url, Url.join address path = .ok url → tried ≠ [] := by
  rw [executeJson_snd, execute]
  cases c.headers contentType with
  | error f => rfl
  | ok headers =>
    obtain ⟨exchanges, tried, urls, hmakes, hprefix, hurls, hrequests, -, -, hnone⟩ :=
      sendToAny_run method path headers payload Cause.noAddress.failure c.addresses s
    refine ⟨tried, urls, hprefix, hurls, hrequests ▸ hmakes.sent, ?_⟩
    rintro address haddress url hjoin rfl
    cases hurls
    exact hnone.1 (List.map_eq_nil_iff.1 hrequests) address haddress url hjoin

end ClientConfig

end Elastic

end ChatRetrieval
