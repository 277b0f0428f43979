import ChatRetrieval.Embedder
import ChatRetrieval.Proofs.Result
import Mathlib.Logic.Function.Iterate

/-!
Sessions as scripts. Every request takes the next reply, so what a step asks for and what it is
answered go together as a list of exchanges, and the exchanges of two steps append.
-/

namespace ChatRetrieval

/-- The reply to request number `i` from now on. -/
def Session.replyTo (s : Session) (i : Nat) : Reply := s.replies.getD i (.failed Http.noReply)

/-- The session once a request has been made and answered `count` times. -/
def Session.asked (s : Session) (request : Request) (count : Nat) : Session :=
  { s with sent := s.sent ++ List.replicate count request, replies := s.replies.drop count }

structure Exchange where
  request : Request
  reply : Reply

/-- These exchanges and no others lead from one session to another. -/
structure Session.Makes (s : Session) (exchanges : List Exchange) (after : Session) : Prop where
  sent : after.sent = s.sent ++ exchanges.map (·.request)
  replies : after.replies = s.replies.drop exchanges.length
  answered : exchanges.map (·.reply) = (List.range exchanges.length).map s.replyTo

namespace Session

theorem asked_zero (s : Session) (request : Request) : s.asked request 0 = s := by
  simp only [asked, List.replicate_zero, List.append_nil, List.drop_zero]

theorem asked_asked (s : Session) (request : Request) (i j : Nat) :
    (s.asked request i).asked request j = s.asked request (i + j) := by
  simp only [asked, List.append_assoc, List.replicate_append_replicate, List.drop_drop]

theorem replyTo_asked (s : Session) (request : Request) (i j : Nat) :
    (s.asked request i).replyTo j = s.replyTo (i + j) := by
  simp only [asked, replyTo, List.getD_eq_getElem?_getD, List.getElem?_drop]

theorem iterate_asked {step : Session → Session} {request : Request}
    (h : ∀ s, step s = s.asked request 1) (count : Nat) (s : Session) :
    step^[count] s = s.asked request count := by
  induction count with
  | zero => exact (asked_zero s request).symm
  | succ count ih => rw [Function.iterate_succ_apply', ih, h, asked_asked]

variable {s t u : Session} {a b : List Exchange}

theorem Makes.none (hsent : t.sent = s.sent) (hreplies : t.replies = s.replies) : s.Makes [] t :=
  ⟨by rw [hsent, List.map_nil, List.append_nil], hreplies, rfl⟩

theorem Makes.refl (s : Session) : s.Makes [] s := .none rfl rfl

theorem makes_asked (s : Session) (request : Request) :
    s.Makes [⟨request, s.replyTo 0⟩] (s.asked request 1) := ⟨rfl, rfl, rfl⟩

theorem Makes.replyTo (h : s.Makes a t) (i : Nat) : t.replyTo i = s.replyTo (a.length + i) := by
  simp only [Session.replyTo, h.replies, List.getD_eq_getElem?_getD, List.getElem?_drop]

theorem Makes.trans (h : s.Makes a t) (h' : t.Makes b u) : s.Makes (a ++ b) u where
  sent := by rw [h'.sent, h.sent, List.map_append, List.append_assoc]
  replies := by rw [h'.replies, h.replies, List.drop_drop, List.length_append]
  answered := by
    have hshift : t.replyTo = fun i => s.replyTo (a.length + i) := funext h.replyTo
    rw [List.map_append, h.answered, h'.answered, hshift, List.length_append, List.range_add,
      List.map_append, List.map_map]
    rfl

theorem Makes.eq_zipWith (h : s.Makes a t) :
    a = List.zipWith Exchange.mk (t.sent.drop s.sent.length)
      ((List.range (t.sent.length - s.sent.length)).map s.replyTo) := by
  have hsent : t.sent.drop s.sent.length = a.map (·.request) := by
    rw [h.sent, List.drop_left]
  have hlength : t.sent.length - s.sent.length = a.length := by
    rw [h.sent, List.length_append, List.length_map, Nat.add_sub_cancel_left]
  rw [hsent, hlength, ← h.answered, List.zipWith_map, List.zipWith_self]
  exact (List.map_id a).symm

theorem Makes.head {x : Exchange} (h : s.Makes (x :: a) t) : x.reply = s.replyTo 0 := by
  have hreplies := h.answered
  rw [List.map_cons, List.length_cons, List.range_succ_eq_map, List.map_cons] at hreplies
  exact (List.cons.inj hreplies).1

end Session

namespace Action

variable {α β : Type} {a : Action α} {s s' : Session}

theorem bind_of_ok {x : α} (h : a s = (.ok x, s')) (f : α → Action β) : (a >>= f) s = f x s' := by
  simp only [bind, ExceptT.bind, ExceptT.mk, StateT.bind, h]
  rfl

theorem bind_of_error {e : Failure} (h : a s = (.error e, s')) (f : α → Action β) :
    (a >>= f) s = (.error e, s') := by
  simp only [bind, ExceptT.bind, ExceptT.mk, StateT.bind, h]
  rfl

theorem bind_eq_ok {f : α → Action β} {b : β} {t : Session} (h : (a >>= f) s = (.ok b, t)) :
    ∃ x u, a s = (.ok x, u) ∧ f x u = (.ok b, t) := by
  rcases hrun : a s with ⟨e | x, u⟩
  · rw [bind_of_error hrun] at h
    cases h
  · rw [bind_of_ok hrun] at h
    exact ⟨x, u, rfl, h⟩

theorem pure_eq_ok {x y : α} (h : (pure x : Action α) s = (.ok y, s')) : x = y ∧ s' = s :=
  ⟨Except.ok.inj (congrArg Prod.fst h), (congrArg Prod.snd h).symm⟩

theorem lift_eq_ok {r : Result α} {x : α} (h : lift r s = (.ok x, s')) : r = .ok x ∧ s' = s :=
  ⟨congrArg Prod.fst h, (congrArg Prod.snd h).symm⟩

theorem bind_pure_run {r : Result α} (h : a s = (r, s')) (g : α → β) :
    (a >>= fun x => pure (g x)) s = (r.map g, s') := by
  cases r with
  | error e => exact bind_of_error h _
  | ok x => exact bind_of_ok h _

theorem within_run {r : Result α} (h : a s = (r, s')) (context : String) :
    a.within context s = (r.within context, s') := by
  simp only [within, h]

theorem attempt_run {r : Result α} (h : a s = (r, s')) : a.attempt s = (.ok r, s') := by
  simp only [attempt, h]

theorem within_eq_ok {context : String} {x : α} (h : a.within context s = (.ok x, s')) :
    a s = (.ok x, s') := by
  rcases hrun : a s with ⟨e | y, u⟩
  · rw [within_run hrun] at h
    cases h
  · rw [within_run hrun] at h
    exact h

theorem lift_ok_bind (x : α) (f : α → Action β) (s : Session) :
    (lift (.ok x) >>= f) s = f x s := rfl

theorem bind_lift_run {r : Result α} (h : a s = (r, s')) (f : α → Result β) :
    (a >>= fun x => lift (f x)) s = (r >>= f, s') := by
  cases r with
  | error e => exact bind_of_error h _
  | ok x => exact bind_of_ok h _

theorem deadline_of_reaches {seconds : Nat} (h : s.Reaches seconds) :
    deadline seconds s = (.ok (s.elapsed + seconds * 1000), s) := if_pos h

theorem deadline_of_not_reaches {seconds : Nat} (h : ¬s.Reaches seconds) :
    deadline seconds s = (.error beyondClock, s) := if_neg h

theorem bind_lift_snd (a : Action α) (f : α → Result β) (s : Session) :
    ((a >>= fun x => lift (f x)) s).2 = (a s).2 := by
  rw [bind_lift_run (Prod.eta (a s)).symm]

end Action

theorem Embedder.bind_embed {α : Type} (e : Embedder) (texts : List String) (context : String)
    (f : List (List Double) → Action α) (s : Session) :
    ((e.embed texts).within context >>= f) s =
      match Result.within context (e.vectors texts) with
      | .error failure => (.error failure, { s with embedded := s.embedded ++ [texts] })
      | .ok vectors => f vectors { s with embedded := s.embedded ++ [texts] } := by
  have hembed : e.embed texts s = (e.vectors texts, { s with embedded := s.embedded ++ [texts] }) :=
    rfl
  have hwithin := Action.within_run hembed context
  cases hvectors : Result.within context (e.vectors texts) with
  | error failure =>
    rw [hvectors] at hwithin
    exact Action.bind_of_error hwithin f
  | ok vectors =>
    rw [hvectors] at hwithin
    exact Action.bind_of_ok hwithin f

namespace Http

def answer : Reply → Result (Response × List (Result String))
  | .failed f => .error f
  | .answered response events => .ok (response, events)

theorem exchange_eq (request : Request) (s : Session) :
    exchange request s = (answer (s.replyTo 0), s.asked request 1) := by
  unfold exchange Session.asked Session.replyTo
  cases s.replies with
  | nil => rfl
  | cons reply r => cases reply <;> rfl

theorem send_eq (request : Request) (s : Session) :
    send request s = ((answer (s.replyTo 0)).map Prod.fst, s.asked request 1) :=
  Action.bind_pure_run (exchange_eq request s) Prod.fst

theorem openEvents_eq (request : Request) (s : Session) :
    openEvents request s = ((answer (s.replyTo 0)).map Prod.snd, s.asked request 1) :=
  Action.bind_pure_run (exchange_eq request s) Prod.snd

end Http

def Reply.value? {α : Type} (d : Decoder α) : Reply → Option α
  | .answered ⟨status, _, .ok text⟩ _ => if Http.isSuccess status then Decode.fromText d text else none
  | _ => none

theorem Http.readJson_toOption {α : Type} (d : Decoder α) (response : Response)
    (events : List (Result String)) (method url : String) :
    (readJson d response method url).toOption = (Reply.answered response events).value? d := by
  obtain ⟨status, headers, f | text⟩ := response
  · rfl
  · simp only [readJson, Result.within, Reply.value?]
    cases isSuccess status with
    | false => rfl
    | true => cases Decode.fromText d text <;> rfl

theorem Reply.value?_eq_some_iff {α : Type} {d : Decoder α} {reply : Reply} {a : α} :
    reply.value? d = some a ↔ ∃ status headers text events,
      reply = .answered ⟨status, headers, .ok text⟩ events ∧ Http.isSuccess status = true ∧
        Decode.fromText d text = some a := by
  constructor
  · intro h
    rcases reply with f | ⟨⟨status, headers, f | text⟩, events⟩
    · cases h
    · cases h
    · rw [value?] at h
      split at h
      · exact ⟨status, headers, text, events, rfl, ‹_›, h⟩
      · cases h
  · rintro ⟨status, headers, text, events, rfl, hstatus, hvalue⟩
    rw [value?, if_pos hstatus, hvalue]

end ChatRetrieval
