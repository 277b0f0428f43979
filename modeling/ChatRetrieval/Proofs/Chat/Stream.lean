import ChatRetrieval.Proofs.Chat.Client

/-!
Opening event streams. An attempt is judged by its call or else by its first item, and a first item
that is an event makes it final; what a caller is given comes from the final attempt alone.
-/

namespace ChatRetrieval

/-- The failure that an attempt to open a stream ends in: that of the call or of the first item. -/
def Reply.openingFailure? : Reply → Option Failure
  | .failed f => some f
  | .answered _ (.error f :: _) => some f
  | .answered _ _ => none

namespace Chat

/-- What is delivered of the items that arrive: all events, or those in front of the first failure
and that failure, whatever arrives later. -/
inductive Delivers (context : String) : List (Result String) → List (Result String) → Prop where
  | whole (events : List String) : Delivers context (events.map .ok) (events.map .ok)
  | broken (events : List String) (f : Failure) (later : List (Result String)) :
    Delivers context (events.map .ok ++ .error f :: later)
      (events.map .ok ++ [.error ((streamFailure f).within context)])

/-- What the reply to the last attempt makes of the whole call. -/
inductive Concludes (config : RetryConfig) (context : String) :
    Reply → Result (List (Result String)) → Prop where
  | refused (f : Failure) :
    Concludes config context (.failed f) (.error ((f.within context).classify config))
  | unopened (response : Response) (f : Failure) (later : List (Result String)) :
    Concludes config context (.answered response (.error f :: later))
      (.error (((streamFailure f).within context).classify config))
  | opened {response : Response} {items delivered : List (Result String)}
    (hopen : (Reply.answered response items).openingFailure? = none)
    (hdelivers : Delivers context items delivered) :
    Concludes config context (.answered response items) (.ok delivered)

/-- A call whose attempt number `n` is the last: the attempts before it failed at the call or at
the first item for a reason that may pass, and nothing but the last reply decides the result. -/
structure StreamRun (config : RetryConfig) (context : String) (s : Session) (n : Nat)
    (result : Result (List (Result String))) : Prop where
  repeats_le : n ≤ config.maxRetries
  repeated : ∀ i < n, ∃ f, (s.replyTo i).openingFailure? = some f ∧ f.isPassing config = true
  final : n < config.maxRetries →
    ∀ f, (s.replyTo n).openingFailure? = some f → f.isPassing config = false
  concludes : Concludes config context (s.replyTo n) result

theorem delivers_untilFailure (context : String) (items : List (Result String)) :
    Delivers context items (untilFailure context items) := by
  induction items with
  | nil => exact .whole []
  | cons item items ih =>
    cases item with
    | error f => exact .broken [] f items
    | ok event =>
      unfold untilFailure
      generalize untilFailure context items = delivered at ih
      cases ih with
      | whole events => exact .whole (event :: events)
      | broken events f later => exact .broken (event :: events) f later

/-- The outcome of the attempt that a reply answers. -/
def opening (context : String) : Reply → Result (List (Result String))
  | .failed f => .error (f.within context)
  | .answered _ (.error f :: _) => .error ((streamFailure f).within context)
  | .answered _ items => .ok (untilFailure context items)

theorem openOnce_eq (request : Request) (s : Session) :
    openOnce request s =
      (opening (Http.contextText none "POST" request.url) (s.replyTo 0), s.asked request 1) := by
  have hopen := Action.within_run (Http.openEvents_eq request s)
    (Http.contextText none "POST" request.url)
  unfold openOnce
  rcases hreply : s.replyTo 0 with f | ⟨response, items⟩
  · rw [hreply] at hopen
    exact Action.bind_of_error hopen _
  · rw [hreply] at hopen
    refine (Action.bind_of_ok hopen _).trans ?_
    rcases items with _ | ⟨_ | _, _⟩ <;> rfl

theorem isPassing_streamFailure (config : RetryConfig) (f : Failure) :
    (streamFailure f).isPassing config = f.isPassing config := by
  obtain ⟨contexts, cause⟩ := f
  cases cause <;> rfl

theorem opening_of_openingFailure {context : String} {reply : Reply} {f : Failure}
    (h : reply.openingFailure? = some f) :
    ∃ g, opening context reply = .error g ∧ ∀ config, g.isPassing config = f.isPassing config := by
  unfold Reply.openingFailure? at h
  split at h
  · obtain rfl := Option.some.inj h
    exact ⟨_, rfl, fun config => Failure.isPassing_within config context _⟩
  · obtain rfl := Option.some.inj h
    refine ⟨_, rfl, fun config => ?_⟩
    rw [Failure.isPassing_within, isPassing_streamFailure]
  · cases h

theorem openingFailure_of_opening {context : String} {reply : Reply} {g : Failure}
    (h : opening context reply = .error g) : ∃ f, reply.openingFailure? = some f := by
  unfold opening at h
  split at h
  · exact ⟨_, rfl⟩
  · exact ⟨_, rfl⟩
  · cases h

theorem concludes_opening (config : RetryConfig) (context : String) (reply : Reply) :
    Concludes config context reply ((opening context reply).classify config) := by
  rcases reply with f | ⟨response, _ | ⟨f | event, later⟩⟩
  · exact .refused f
  · exact .opened rfl (delivers_untilFailure context [])
  · exact .unopened response f later
  · exact .opened rfl (delivers_untilFailure context (.ok event :: later))

/-- An opening that is repeated makes its request once for each attempt up to the last one. -/
theorem retrying_openOnce_run (config : RetryConfig) (request : Request) (s : Session) :
    ∃ n result, retrying config (openOnce request) s = (result, s.asked request (n + 1)) ∧
      StreamRun config (Http.contextText none "POST" request.url) s n result := by
  obtain ⟨n, hn, hrepeated, hfinal, hrun⟩ := retrying_run (openOnce_eq request) config s
  refine ⟨n, _, hrun, hn, ?_, ?_, concludes_opening _ _ _⟩
  · intro i hi
    -- The run judges what an attempt ends in, which is the failure itself under a context.
    obtain ⟨g, hg, hpassing⟩ := hrepeated i hi
    obtain ⟨f, hf⟩ := openingFailure_of_opening hg
    obtain ⟨g', hg', hverdict⟩ := opening_of_openingFailure hf
    obtain rfl := Except.error.inj (hg.symm.trans hg')
    exact ⟨f, hf, (hverdict _).symm.trans hpassing⟩
  · intro hlt f hf
    obtain ⟨g, hg, hverdict⟩ := opening_of_openingFailure hf
    exact (hverdict _).symm.trans (hfinal hlt g hg)

theorem Client.postStream_of_headers {c : Client} {extra : List (String × String)} {headers : Headers}
    (h : c.requestHeaders extra = .ok headers) (url : Url) (body : Json) :
    c.postStream url body extra =
      retrying c.retry (openOnce ⟨.stream, url.text, headers, .json body⟩) := by
  unfold Client.postStream
  rw [h]
  rfl

/-- Posting a stream sends nothing when its headers are malformed. Otherwise it makes the same
request once for each attempt up to the last one, and no other. -/
theorem postStream_run (c : Client) (url : Url) (body : Json) (extra : List (String × String))
    (s : Session) :
    match c.requestHeaders extra with
    | .error f => c.postStream url body extra s = (.error f, s)
    | .ok headers => ∃ n result,
      c.postStream url body extra s =
        (result, s.asked ⟨.stream, url.text, headers, .json body⟩ (n + 1)) ∧
      StreamRun c.retry (Http.contextText none "POST" url.text) s n result := by
  cases hheaders : c.requestHeaders extra with
  | error f =>
    unfold Client.postStream
    rw [hheaders]
    rfl
  | ok headers =>
    rw [Client.postStream_of_headers hheaders]
    exact retrying_openOnce_run c.retry ⟨.stream, url.text, headers, .json body⟩ s

/-- A timeout and a refusal with a listed status pass; the third reply is given up to its failure. -/
example (url : Url) (response : Response) (s : Session) :
    (Client.postStream ⟨[], ⟨1000, 2, 2, [503], none⟩⟩ url .null [] { s with replies := [
      .failed (Cause.timeout "slow").failure,
      .answered response [.error (Cause.streamStatus 503 none).failure, .ok "lost"],
      .answered response [.ok "a", .error Cause.streamEnded.failure, .ok "b"]] }).1 =
    .ok [.ok "a", .error (Cause.streamEnded.failure.within ("POST " ++ url.text))] := by
  rfl

end Chat

end ChatRetrieval
