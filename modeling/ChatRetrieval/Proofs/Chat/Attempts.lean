import ChatRetrieval.Proofs.Chat.Client

/-!
How often a post is attempted. Whether a reply is followed by another attempt can be read off the
reply, so the replies that pass in front of the first other one tell the number of attempts.
-/

namespace ChatRetrieval

/-- Whether a post answered like this is worth another attempt: the call or the reading of the body
failed for a reason that may pass, or the body is that of a listed status that is no success. -/
def Reply.passes (config : RetryConfig) : Reply → Bool
  | .failed f => f.isPassing config
  | .answered ⟨_, _, .error f⟩ _ => f.isPassing config
  | .answered ⟨status, _, .ok _⟩ _ => !Http.isSuccess status && config.statusCodes.contains status

namespace Result

variable {α β : Type}

theorem isRepeated_classify_error (config : RetryConfig) (f : Failure) :
    (classify config (.error f : Result α)).isRepeated = f.isPassing config :=
  f.isRetryable_classify config

theorem isRepeated_classify_map (config : RetryConfig) (r : Result α) (g : α → β) :
    (classify config (r.map g)).isRepeated = (classify config r).isRepeated := by
  cases r <;> rfl

end Result

theorem Failure.isPassing_httpStatus (config : RetryConfig) (contexts : List String) (status : Nat)
    (body : String) :
    (Failure.mk contexts (.httpStatus status body)).isPassing config =
      config.statusCodes.contains status := by
  simp only [isPassing, isRetryable, cause, Cause.isWorthRetry, Cause.status?,
    Cause.isBrokenConnection, Bool.false_or, Bool.or_false]

namespace Chat

theorem isRepeated_posted {α : Type} (config : RetryConfig) (d : Decoder α) (url : String)
    (reply : Reply) :
    (Result.classify config (posted d url reply)).isRepeated = reply.passes config := by
  rcases reply with f | ⟨⟨status, headers, f | text⟩, events⟩
  · rw [posted, Result.isRepeated_classify_error, Failure.isPassing_within]
    rfl
  · simp only [posted, Result.isRepeated_classify_map, Http.readJson, Result.within,
      Result.isRepeated_classify_error, Failure.isPassing_within, Reply.passes]
  · simp only [posted, Result.isRepeated_classify_map, Http.readJson, Result.within, Reply.passes]
    cases hs : Http.isSuccess status with
    | true =>
      -- A body that was read from a success is final, well formed or not.
      simp only [if_true]
      cases Decode.fromText d text <;> rfl
    | false =>
      simp only [Bool.false_eq_true, if_false, Result.isRepeated_classify_error,
        Failure.isPassing_httpStatus, Bool.not_false, Bool.true_and]

end Chat

namespace Session

def passing (s : Session) (config : RetryConfig) : Nat :=
  (s.replies.takeWhile (·.passes config)).length

theorem passes_of_lt_passing {s : Session} {config : RetryConfig} {i : Nat}
    (h : i < s.passing config) : (s.replyTo i).passes config = true := by
  unfold passing at h
  unfold replyTo
  generalize s.replies = replies at h ⊢
  induction replies generalizing i with
  | nil => cases h
  | cons reply rest ih =>
    cases hreply : reply.passes config with
    | false => simp [hreply] at h
    | true =>
      cases i with
      | zero => exact hreply
      | succ i =>
        rw [List.takeWhile_cons_of_pos hreply, List.length_cons] at h
        exact ih (Nat.lt_of_succ_lt_succ h)

theorem passes_passing (s : Session) (config : RetryConfig) :
    (s.replyTo (s.passing config)).passes config = false := by
  unfold passing replyTo
  induction s.replies with
  | nil => rfl
  | cons reply rest ih =>
    cases hreply : reply.passes config with
    | false => simp [hreply]
    | true => simpa [hreply] using ih

/-- How many attempts of a post are followed by another one. -/
def repeats (s : Session) (config : RetryConfig) : Nat := min (s.passing config) config.maxRetries

end Session

namespace Chat

/-- What attempt number `i` at a request ends in, its failure marked when it may pass. -/
def attemptOutcome {α : Type} (config : RetryConfig) (d : Decoder α) (request : Request) (s : Session)
    (i : Nat) : Result (Answer α) :=
  Result.classify config (postOnce d request (s.asked request i)).1

/-- A post that is attempted once and then again as often as replies pass, up to the allowed
repeats. Every attempt sends the same request, the last one decides, and the failures noted are
those of the attempts before it. -/
structure PostRun {α : Type} (config : RetryConfig) (d : Decoder α) (request : Request) (s : Session)
    (result : Result (Answer α)) (after : Session) : Prop where
  judged : ∀ i, (attemptOutcome config d request s i).isRepeated = (s.replyTo i).passes config
  result_eq : result = attemptOutcome config d request s (s.repeats config)
  sent : after = s.asked request (s.repeats config + 1)
  noted : ∃ failures, noting config (postOnce d request) s = ((result, failures), after) ∧
    failures.map Except.error =
      (List.range (s.repeats config)).map (attemptOutcome config d request s)

theorem attemptOutcome_eq {α : Type} (config : RetryConfig) (d : Decoder α) (request : Request)
    (s : Session) (i : Nat) :
    attemptOutcome config d request s i =
      Result.classify config (posted d request.url (s.replyTo i)) := by
  rw [attemptOutcome, postOnce_eq, Session.replyTo_asked, Nat.add_zero]

theorem isRepeated_attemptOutcome {α : Type} (config : RetryConfig) (d : Decoder α)
    (request : Request) (s : Session) (i : Nat) :
    (attemptOutcome config d request s i).isRepeated = (s.replyTo i).passes config := by
  rw [attemptOutcome_eq, isRepeated_posted]

/-- A run that stopped at attempt number `n` stopped where the replies stop passing or the repeats
are used up. -/
theorem repeats_eq {config : RetryConfig} {s : Session} {n : Nat} (hn : n ≤ config.maxRetries)
    (hearlier : ∀ i < n, (s.replyTo i).passes config = true)
    (hlast : n < config.maxRetries → (s.replyTo n).passes config = false) :
    s.repeats config = n := by
  have hle : n ≤ s.passing config := by
    by_contra hlt
    have hstop := hearlier _ (Nat.lt_of_not_le hlt)
    rw [Session.passes_passing] at hstop
    cases hstop
  have hge : n < config.maxRetries → s.passing config ≤ n := by
    intro hlt
    by_contra hgt
    have hpass := Session.passes_of_lt_passing (Nat.lt_of_not_le hgt)
    rw [hlast hlt] at hpass
    cases hpass
  unfold Session.repeats
  omega

theorem noting_postOnce {α : Type} (config : RetryConfig) (d : Decoder α) (request : Request)
    (s : Session) :
    ∃ failures, noting config (postOnce d request) s =
        ((attemptOutcome config d request s (s.repeats config), failures),
          s.asked request (s.repeats config + 1)) ∧
      failures.map Except.error =
        (List.range (s.repeats config)).map (attemptOutcome config d request s) := by
  obtain ⟨n, failures, hn, hearlier, hlast, hfailures, hrun⟩ :=
    noting_run (postOnce_eq d request) config s
  have hcount : s.repeats config = n := by
    refine repeats_eq hn (fun i hi => ?_) fun hlt => ?_
    · rw [← isRepeated_posted config d request.url]
      exact isRepeated_classify_iff.2 (hearlier i hi)
    · rw [← isRepeated_posted config d request.url, Bool.eq_false_iff]
      intro hrepeated
      obtain ⟨f, hf, hpassing⟩ := isRepeated_classify_iff.1 hrepeated
      rw [hlast hlt f hf] at hpassing
      cases hpassing
  refine ⟨failures, ?_, ?_⟩
  · rw [hrun, hcount, attemptOutcome_eq]
  · rw [hfailures, hcount]
    exact List.map_congr_left fun i _ => (attemptOutcome_eq config d request s i).symm

theorem postJson_eq {α : Type} {c : Client} {extra : List (String × String)} {headers : Headers}
    (h : c.requestHeaders extra = .ok headers) (d : Decoder α) (url : Url) (body : Json)
    (s : Session) :
    c.postJson d url body extra s =
      (attemptOutcome c.retry d ⟨.post, url.text, headers, .json body⟩ s (s.repeats c.retry),
        s.asked ⟨.post, url.text, headers, .json body⟩ (s.repeats c.retry + 1)) := by
  obtain ⟨failures, hrun, -⟩ := noting_postOnce c.retry d ⟨.post, url.text, headers, .json body⟩ s
  unfold Client.postJson
  rw [h, Action.lift_ok_bind, retrying_eq_noting, hrun]

/-- A post with malformed headers is not sent. Any other one makes one attempt more than replies
pass in front of the first other one, as far as the repeats go. -/
theorem postJson_attempts {α : Type} (c : Client) (d : Decoder α) (url : Url) (body : Json)
    (extra : List (String × String)) (s : Session) :
    match c.requestHeaders extra with
    | .error f => c.postJson d url body extra s = (.error f, s)
    | .ok headers => PostRun c.retry d ⟨.post, url.text, headers, .json body⟩ s
      (c.postJson d url body extra s).1 (c.postJson d url body extra s).2 := by
  cases h : c.requestHeaders extra with
  | error f =>
    unfold Client.postJson
    rw [h]
    rfl
  | ok headers =>
    simp only [postJson_eq h]
    exact ⟨isRepeated_attemptOutcome _ _ _ _, rfl, rfl, noting_postOnce _ _ _ _⟩

/-- Two repeats are allowed, so a third failure that may pass is what the caller gets. -/
example (headers : Headers) (s : Session) :
    let busy := Reply.answered ⟨503, headers, .ok "busy"⟩ []
    let done := Reply.answered ⟨200, headers, .ok "7"⟩ []
    { s with replies := [busy, .failed (Cause.timeout "slow").failure, busy, done] }.repeats
      ⟨1000, 2, 2, [503], none⟩ = 2 := by
  rfl

end Chat

end ChatRetrieval
