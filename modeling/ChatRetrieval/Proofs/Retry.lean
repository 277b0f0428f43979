import ChatRetrieval.Retry
import Mathlib.Logic.Function.Iterate

/-!
The law of repeated attempts. The states between attempts are those of one attempt made over and
over; every attempt but the last fails and is worth another one, and the last decides.
-/

namespace ChatRetrieval

variable {σ α : Type}

/-- The outcome of attempt number `i` when all attempts before it are made. -/
def outcomeAt (attempt : StateM σ (Result α)) (s : σ) (i : Nat) : Result α :=
  (attempt ((fun s => (attempt s).2)^[i] s)).1

theorem outcomeAt_zero (attempt : StateM σ (Result α)) (s : σ) :
    outcomeAt attempt s 0 = (attempt s).1 := rfl

theorem outcomeAt_succ (attempt : StateM σ (Result α)) (s : σ) (i : Nat) :
    outcomeAt attempt s (i + 1) = outcomeAt attempt (attempt s).2 i := by
  rw [outcomeAt, outcomeAt, Function.iterate_succ_apply]

/-- Whether an outcome is followed by another attempt while some are left. -/
def Result.isRepeated : Result α → Bool
  | .ok _ => false
  | .error f => f.isRetryable

theorem Result.isRepeated_iff {r : Result α} :
    r.isRepeated = true ↔ ∃ f, r = .error f ∧ f.isRetryable = true := by
  cases r with
  | ok a => simp [Result.isRepeated]
  | error f => simp [Result.isRepeated]

theorem retry_of_final {attempt : StateM σ (Result α)} {s : σ}
    (h : (attempt s).1.isRepeated = false) (repeats : Nat) :
    retry attempt repeats s = (((attempt s).1, []), (attempt s).2) := by
  cases repeats with
  | zero => rfl
  | succ repeats =>
    rcases hs : attempt s with ⟨f | a, s'⟩
    · rw [hs] at h
      simp only [retry, hs]
      exact if_neg (Bool.eq_false_iff.1 h)
    · simp only [retry, hs]

theorem retry_of_repeated {attempt : StateM σ (Result α)} {s : σ} {f : Failure}
    (h : (attempt s).1 = .error f) (hf : f.isRetryable = true) (repeats : Nat) :
    retry attempt (repeats + 1) s =
      (((retry attempt repeats (attempt s).2).1.1, f :: (retry attempt repeats (attempt s).2).1.2),
        (retry attempt repeats (attempt s).2).2) := by
  rcases hs : attempt s with ⟨r, s'⟩
  rw [hs] at h
  obtain rfl : r = .error f := h
  simp only [retry, hs]
  exact if_pos hf

/-- There is a last attempt. Those before it failed with what the failures tell, and it is only
followed by none because it is final or no repeat is left. -/
theorem retry_run (attempt : StateM σ (Result α)) (repeats : Nat) (s : σ) :
    ∃ n failures, n ≤ repeats ∧
      (∀ i < n, (outcomeAt attempt s i).isRepeated = true) ∧
      (n < repeats → (outcomeAt attempt s n).isRepeated = false) ∧
      failures.map Except.error = (List.range n).map (outcomeAt attempt s) ∧
      retry attempt repeats s =
        ((outcomeAt attempt s n, failures), (fun s => (attempt s).2)^[n + 1] s) := by
  induction repeats generalizing s with
  | zero =>
    exact ⟨0, [], Nat.le_refl 0, fun i hi => absurd hi i.not_lt_zero,
      fun h => absurd h (Nat.lt_irrefl 0), rfl, rfl⟩
  | succ repeats ih =>
    cases h : (attempt s).1.isRepeated with
    | false =>
      exact ⟨0, [], Nat.zero_le _, fun i hi => absurd hi i.not_lt_zero, fun _ => h, rfl,
        retry_of_final h _⟩
    | true =>
      obtain ⟨f, hs, hf⟩ := Result.isRepeated_iff.1 h
      -- What follows is a run with one repeat less, from the state the attempt left.
      obtain ⟨n, failures, hn, hearlier, hlast, hfailures, hrun⟩ := ih (attempt s).2
      refine ⟨n + 1, f :: failures, Nat.succ_le_succ hn, ?_, ?_, ?_, ?_⟩
      · intro i hi
        cases i with
        | zero => exact h
        | succ i =>
          rw [outcomeAt_succ]
          exact hearlier i (Nat.lt_of_succ_lt_succ hi)
      · intro hlt
        rw [outcomeAt_succ]
        exact hlast (Nat.lt_of_succ_lt_succ hlt)
      · rw [List.range_succ_eq_map, List.map_cons, List.map_cons, List.map_map, outcomeAt_zero, hs,
          hfailures]
        exact congrArg _ (List.map_congr_left fun i _ => (outcomeAt_succ attempt s i).symm)
      · rw [retry_of_repeated hs hf, hrun, outcomeAt_succ]
        rfl

namespace Failure

def isPassing (config : RetryConfig) (f : Failure) : Bool :=
  f.isRetryable || f.cause.isWorthRetry config

theorem isRetryable_classify (config : RetryConfig) (f : Failure) :
    (f.classify config).isRetryable = f.isPassing config := by
  unfold classify isPassing
  split
  case isTrue h => rw [h, Bool.or_true]; rfl
  case isFalse h => rw [Bool.eq_false_iff.2 h, Bool.or_false]

theorem isPassing_within (config : RetryConfig) (context : String) (f : Failure) :
    (f.within context).isPassing config = f.isPassing config := by
  cases f
  rfl

end Failure

end ChatRetrieval
