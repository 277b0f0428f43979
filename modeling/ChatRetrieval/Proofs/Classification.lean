import ChatRetrieval.Proofs.Retry
import Mathlib.Data.List.Induction

/-!
Which failures are marked as worth another attempt. The cause alone decides, whatever contexts stand around
it, and the mark neither nests nor changes the message.
-/

namespace ChatRetrieval

namespace Text

/-- Decimal digits and the number they stand for. -/
inductive Spells : List Char → Nat → Prop
  | digit {c : Char} (h : isDigit c = true) : Spells [c] (c.toNat - '0'.toNat)
  | concat {cs : List Char} {n : Nat} {c : Char} (hcs : Spells cs n) (h : isDigit c = true) :
      Spells (cs ++ [c]) (10 * n + (c.toNat - '0'.toNat))

theorem numeral?_concat (cs : List Char) (c : Char) (hcs : cs ≠ []) : numeral? (cs ++ [c]) =
    if isDigit c then (numeral? cs).map fun n => 10 * n + (c.toNat - '0'.toNat) else none := by
  cases hc : isDigit c <;> cases hall : cs.all isDigit <;> simp [numeral?, hcs, hc, hall]

theorem numeral?_eq_some_iff {cs : List Char} {n : Nat} : numeral? cs = some n ↔ Spells cs n := by
  constructor
  · intro h
    induction cs using List.reverseRecOn generalizing n with
    | nil => cases h
    | append_singleton cs c ih =>
      rcases eq_or_ne cs [] with rfl | hcs
      · cases hc : isDigit c with
        | false => simp [numeral?, hc] at h
        | true =>
          obtain rfl : c.toNat - '0'.toNat = n := by simpa [numeral?, hc] using h
          exact .digit hc
      · rw [numeral?_concat cs c hcs] at h
        split at h
        · rename_i hc
          obtain ⟨k, hk, rfl⟩ := Option.map_eq_some_iff.1 h
          exact .concat (ih hk) hc
        · cases h
  · intro h
    induction h with
    | digit hc => simp [numeral?, hc]
    | @concat cs n c hcs hc ih =>
      have hne : cs ≠ [] := by
        rintro rfl
        cases ih
      rw [numeral?_concat cs c hne, if_pos hc, ih]
      rfl

theorem Spells.isDigit_of_mem {cs : List Char} {n : Nat} (h : Spells cs n) {c : Char} (hc : c ∈ cs) :
    isDigit c = true := by
  induction h with
  | digit h => rwa [List.mem_singleton.1 hc]
  | concat _ h ih =>
    rcases List.mem_append.1 hc with hc | hc
    · exact ih hc
    · rwa [List.mem_singleton.1 hc]

end Text

theorem statusOfCode_eq_some_iff {code : String} {status : Nat} : statusOfCode code = some status ↔
    ∃ digits, (code.toList = digits ∨ code.toList = '+' :: digits) ∧ Text.Spells digits status ∧
      status < UInt16.size := by
  have hread (digits : List Char) : (Text.numeral? digits).filter (· < Nat.pow 2 16) = some status ↔
      Text.Spells digits status ∧ status < UInt16.size := by
    rw [Option.filter_eq_some_iff, Text.numeral?_eq_some_iff, decide_eq_true_iff]
  unfold statusOfCode
  constructor
  · intro h
    split at h
    · rename_i digits hcode
      exact ⟨digits, .inr hcode, (hread digits).1 h⟩
    · exact ⟨_, .inl rfl, (hread _).1 h⟩
  · rintro ⟨digits, hcode | hcode, hdigits⟩
    · split
      · -- No digits begin with a plus sign.
        rename_i rest hplus
        have hmem : '+' ∈ digits := hcode ▸ hplus ▸ List.mem_cons_self ..
        exact absurd (hdigits.1.isDigit_of_mem hmem) (by decide)
      · rw [hcode]
        exact (hread digits).2 hdigits
    · rw [hcode]
      exact (hread digits).2 hdigits

namespace Cause

/-- The cause carries a status: that of a reply, that of a transport failure, that with which an event
stream was refused, or the number that the code of an error object spells. -/
inductive CarriesStatus : Cause → Nat → Prop
  | httpStatus (status : Nat) (body : String) : CarriesStatus (.httpStatus status body) status
  | transportStatus (status : Nat) (text : String) : CarriesStatus (.transportStatus status text) status
  | streamStatus (status : Nat) (body : Option String) :
      CarriesStatus (.streamStatus status body) status
  | streamContentType (contentType : String) (status : Nat) :
      CarriesStatus (.streamContentType contentType status) status
  | api (provider message : String) {code : String} {digits : List Char} {status : Nat}
      (hcode : code.toList = digits ∨ code.toList = '+' :: digits)
      (hdigits : Text.Spells digits status) (hstatus : status < UInt16.size) :
      CarriesStatus (.api provider code message) status

theorem status?_eq_some_iff {c : Cause} {status : Nat} :
    c.status? = some status ↔ c.CarriesStatus status := by
  constructor
  · intro h
    cases c with
    | httpStatus | transportStatus | streamStatus | streamContentType =>
      obtain rfl := Option.some.inj h
      constructor
    | api provider code message =>
      obtain ⟨digits, hcode, hdigits, hstatus⟩ := statusOfCode_eq_some_iff.1 h
      exact .api provider message hcode hdigits hstatus
    | _ => cases h
  · intro h
    cases h with
    | httpStatus | transportStatus | streamStatus | streamContentType => rfl
    | api _ _ hcode hdigits hstatus =>
      exact statusOfCode_eq_some_iff.2 ⟨_, hcode, hdigits, hstatus⟩

/-- A failure of this cause may pass when the attempt is made again. -/
inductive MayPass (config : RetryConfig) : Cause → Prop
  | listed {c : Cause} {status : Nat} (hc : c.CarriesStatus status)
      (hstatus : status ∈ config.statusCodes) : MayPass config c
  | timeout (text : String) : MayPass config (.timeout text)
  | connection (text : String) : MayPass config (.connection text)
  | streamTransport (text : String) : MayPass config (.streamTransport text)
  | brokenConnection (provider message : String) {code : String}
      (h : code ∈ ["ERR_STREAM_PREMATURE_CLOSE", "ECONNRESET", "ETIMEDOUT"]) :
      MayPass config (.api provider code message)
  | marked (f : Failure) : MayPass config (.retryable f)

theorem isWorthRetry_iff {config : RetryConfig} {c : Cause} : c.isWorthRetry config = true ↔
    (∃ status ∈ config.statusCodes, c.CarriesStatus status) ∨ c.isBrokenConnection = true := by
  rw [isWorthRetry, Bool.or_eq_true]
  refine or_congr_left ?_
  simp only [← status?_eq_some_iff]
  cases c.status? with
  | none => simp
  | some status => simp

theorem mayPass_of_isBrokenConnection {config : RetryConfig} {c : Cause}
    (h : c.isBrokenConnection = true) : c.MayPass config := by
  cases c with
  | timeout text => exact .timeout text
  | connection text => exact .connection text
  | streamTransport text => exact .streamTransport text
  | api provider code message => exact .brokenConnection provider message (List.contains_iff_mem.1 h)
  | _ => cases h

end Cause

namespace Failure

theorem isPassing_iff {config : RetryConfig} {f : Failure} :
    f.isPassing config = true ↔ f.cause.MayPass config := by
  rw [isPassing, Bool.or_eq_true, Cause.isWorthRetry_iff]
  constructor
  · rintro (hmarked | ⟨status, hstatus, hc⟩ | hbroken)
    · unfold isRetryable at hmarked
      split at hmarked
      · rename_i inner hcause
        rw [hcause]
        exact .marked inner
      · cases hmarked
    · exact .listed hc hstatus
    · exact Cause.mayPass_of_isBrokenConnection hbroken
  · unfold isRetryable
    generalize f.cause = c
    intro h
    cases h with
    | listed hc hstatus => exact .inr (.inl ⟨_, hstatus, hc⟩)
    | timeout | connection | streamTransport => exact .inr (.inr rfl)
    | brokenConnection _ _ h => exact .inr (.inr (List.contains_iff_mem.2 h))
    | marked => exact .inl rfl

/-- A failure under further contexts, the last of them outermost. -/
def under (contexts : List String) (f : Failure) : Failure :=
  contexts.foldl (fun f context => f.within context) f

@[simp] theorem cause_under (contexts : List String) (f : Failure) :
    (f.under contexts).cause = f.cause := by
  induction contexts generalizing f with
  | nil => rfl
  | cons context rest ih =>
    obtain ⟨contexts, c⟩ := f
    exact ih _

theorem classify_of_isRetryable {config : RetryConfig} {f : Failure} (h : f.isRetryable = true) :
    f.classify config = f := by
  obtain ⟨contexts, c⟩ := f
  cases c with
  | retryable inner => rfl
  | _ => cases h

theorem classify_classify (config : RetryConfig) (f : Failure) :
    (f.classify config).classify config = f.classify config := by
  by_cases h : f.cause.isWorthRetry config = true
  · have hmarked : f.classify config = (Cause.retryable f).failure := if_pos h
    rw [hmarked]
    exact classify_of_isRetryable rfl
  · have hsame : f.classify config = f := if_neg h
    rw [hsame, hsame]

theorem message_mk (contexts : List String) (c : Cause) :
    (mk contexts c).message = Text.joinWith ": " (contexts ++ [c.text]) := rfl

theorem message_retryable (f : Failure) : (Cause.retryable f).failure.message = f.message := by
  rw [Cause.failure, message_mk, List.nil_append]
  exact String.intercalate_singleton

theorem message_classify (config : RetryConfig) (f : Failure) :
    (f.classify config).message = f.message := by
  unfold classify
  split
  · exact message_retryable f
  · rfl

/-- Whatever contexts a failure has passed through, it is marked just if its cause may pass. Marking a
failure again changes nothing, and its message is the same with and without the mark. -/
theorem classify_by_cause (config : RetryConfig) (f : Failure) (contexts : List String) :
    (((f.under contexts).classify config).isRetryable = true ↔ f.cause.MayPass config) ∧
      ((f.under contexts).classify config).classify config = (f.under contexts).classify config ∧
      ((f.under contexts).classify config).message = (f.under contexts).message := by
  refine ⟨?_, classify_classify config _, message_classify config _⟩
  rw [isRetryable_classify, isPassing_iff, cause_under]

end Failure

end ChatRetrieval
