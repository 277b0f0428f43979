import ChatRetrieval.Chat.Client
import ChatRetrieval.Proofs.Http.Session
import ChatRetrieval.Proofs.Retry

/-!
Requests of a chat client. Every attempt makes the same request and takes one reply, so the attempts
of a call are answered by the next replies of the session in their order.
-/

namespace ChatRetrieval

namespace Chat

theorem isRepeated_classify_iff {α : Type} {config : RetryConfig} {r : Result α} :
    (r.classify config).isRepeated = true ↔ ∃ f, r = .error f ∧ f.isPassing config = true := by
  cases r with
  | ok a => simp [Result.classify, Result.isRepeated]
  | error f => simp [Result.classify, Result.isRepeated, Failure.isRetryable_classify]

/-- A call as `retrying` makes it, with the failures that were followed by another attempt. -/
def noting {α : Type} (config : RetryConfig) (attempt : Action α) :
    StateM Session (Result α × List Failure) :=
  retry (fun s => let (r, s) := attempt s; (Result.classify config r, s)) config.maxRetries

theorem retrying_eq_noting {α : Type} (config : RetryConfig) (attempt : Action α) (s : Session) :
    retrying config attempt s = ((noting config attempt s).1.1, (noting config attempt s).2) := rfl

/-- A call makes its attempts one after the other, each with the reply that is next, and notes what
every attempt but the last ended in. -/
theorem noting_run {α : Type} {attempt : Action α} {request : Request} {outcome : Reply → Result α}
    (h : ∀ s, attempt s = (outcome (s.replyTo 0), s.asked request 1)) (config : RetryConfig)
    (s : Session) :
    ∃ n failures, n ≤ config.maxRetries ∧
      (∀ i < n, ∃ f, outcome (s.replyTo i) = .error f ∧ f.isPassing config = true) ∧
      (n < config.maxRetries → ∀ f, outcome (s.replyTo n) = .error f → f.isPassing config = false) ∧
      failures.map Except.error =
        (List.range n).map (fun i => (outcome (s.replyTo i)).classify config) ∧
      noting config attempt s =
        (((outcome (s.replyTo n)).classify config, failures), s.asked request (n + 1)) := by
  -- What is repeated is the attempt with its failures marked.
  let marked : StateM Session (Result α) := fun s =>
    ((outcome (s.replyTo 0)).classify config, s.asked request 1)
  have hmarked : noting config attempt s = retry marked config.maxRetries s := by
    unfold noting
    simp only [h]
    rfl
  have hstate : ∀ i, (fun s => (marked s).2)^[i] s = s.asked request i :=
    fun i => Session.iterate_asked (fun _ => rfl) i s
  have houtcome : ∀ i, outcomeAt marked s i = (outcome (s.replyTo i)).classify config := by
    intro i
    unfold outcomeAt
    rw [hstate]
    show (outcome ((s.asked request i).replyTo 0)).classify config = _
    rw [Session.replyTo_asked, Nat.add_zero]
  obtain ⟨n, failures, hn, hearlier, hlast, hfailures, hrun⟩ :=
    retry_run marked config.maxRetries s
  simp only [houtcome] at hearlier hlast hrun
  refine ⟨n, failures, hn, ?_, ?_, ?_, ?_⟩
  · intro i hi
    exact isRepeated_classify_iff.1 (hearlier i hi)
  · intro hlt f hf
    have hfinal := hlast hlt
    rw [hf] at hfinal
    rw [← Failure.isRetryable_classify]
    exact hfinal
  · rw [hfailures]
    exact List.map_congr_left fun i _ => houtcome i
  · rw [hmarked, hrun, hstate]

theorem retrying_run {α : Type} {attempt : Action α} {request : Request} {outcome : Reply → Result α}
    (h : ∀ s, attempt s = (outcome (s.replyTo 0), s.asked request 1)) (config : RetryConfig)
    (s : Session) :
    ∃ n ≤ config.maxRetries,
      (∀ i < n, ∃ f, outcome (s.replyTo i) = .error f ∧ f.isPassing config = true) ∧
      (n < config.maxRetries → ∀ f, outcome (s.replyTo n) = .error f → f.isPassing config = false) ∧
      retrying config attempt s =
        ((outcome (s.replyTo n)).classify config, s.asked request (n + 1)) := by
  obtain ⟨n, failures, hn, hearlier, hlast, -, hrun⟩ := noting_run h config s
  refine ⟨n, hn, hearlier, hlast, ?_⟩
  rw [retrying_eq_noting, hrun]

/-- What posting a JSON body once gives for the reply it is answered with. -/
def posted {α : Type} (d : Decoder α) (url : String) : Reply → Result (Answer α)
  | .failed f => .error (f.within (Http.contextText none "POST" url))
  | .answered response _ =>
    (Http.readJson d response "POST" url).map fun body => ⟨body, response.headers⟩

theorem postOnce_eq {α : Type} (d : Decoder α) (request : Request) (s : Session) :
    postOnce d request s = (posted d request.url (s.replyTo 0), s.asked request 1) := by
  have hsend := Action.within_run (Http.send_eq request s) (Http.contextText none "POST" request.url)
  unfold postOnce
  cases hreply : s.replyTo 0 with
  | failed f =>
    rw [hreply] at hsend
    exact Action.bind_of_error hsend _
  | answered response events =>
    rw [hreply] at hsend
    rw [Action.bind_of_ok hsend]
    simp only [posted]
    cases Http.readJson d response "POST" request.url <;> rfl

theorem postJson_run {α : Type} (c : Client) (d : Decoder α) (url : Url) (body : Json)
    (extra : List (String × String)) (s : Session) :
    match c.requestHeaders extra with
    | .error f => c.postJson d url body extra s = (.error f, s)
    | .ok headers => ∃ n ≤ c.retry.maxRetries,
      (∀ i < n, ∃ f, posted d url.text (s.replyTo i) = .error f ∧ f.isPassing c.retry = true) ∧
      (n < c.retry.maxRetries →
        ∀ f, posted d url.text (s.replyTo n) = .error f → f.isPassing c.retry = false) ∧
      c.postJson d url body extra s =
        ((posted d url.text (s.replyTo n)).classify c.retry,
          s.asked ⟨.post, url.text, headers, .json body⟩ (n + 1)) := by
  unfold Client.postJson
  cases c.requestHeaders extra with
  | error f => rfl
  | ok headers => exact retrying_run (postOnce_eq d ⟨.post, url.text, headers, .json body⟩) c.retry s

end Chat

end ChatRetrieval
