import ChatRetrieval.Proofs.Ark.Responses.Call
import ChatRetrieval.Proofs.Json.Decode

/-!
Where a call goes on. With the session cache on it is behind the last reply that is still stored, unless
a context is given; otherwise everything is sent. Which of the two it is depends on the extra values of
the messages alone.
-/

namespace ChatRetrieval.Ark

namespace Extra

theorem expireAt?_invalidate (m : Message) : expireAt? (invalidate m) = none := by
  rw [expireAt?, invalidate, Dict.get?_erase_self, Option.bind_none, Option.map_none]

end Extra

namespace Responses

/-- The message is a reply that is stored under this id and has not expired. -/
structure IsLive (now : Int64) (m : Message) (id : String) : Prop where
  expiry : ∃ second, Extra.expireAt? m = some second ∧ now ≤ second
  response : Extra.responseId? m = some id

section

variable {now : Int64} {m : Message} {id : String} {input later : List Message}

theorem liveResponseId?_eq_some_iff : liveResponseId? now m = some id ↔ IsLive now m id := by
  unfold liveResponseId?
  constructor
  · intro h
    split at h
    · next second hsecond =>
      split at h
      · cases h
      · next hlate => exact ⟨⟨second, hsecond, Int64.not_lt.1 hlate⟩, h⟩
    · cases h
  · rintro ⟨⟨second, hsecond, hlate⟩, hid⟩
    rw [hsecond]
    exact (if_neg (Int64.not_lt.2 hlate)).trans hid

theorem liveResponseId?_eq_none_iff : liveResponseId? now m = none ↔ ∀ id, ¬IsLive now m id := by
  rw [Option.eq_none_iff_forall_ne_some]
  exact forall_congr' fun _ => not_congr liveResponseId?_eq_some_iff

theorem newestLive?_eq_none_iff :
    newestLive? now input = none ↔ ∀ m ∈ input, ∀ id, ¬IsLive now m id := by
  induction input with
  | nil => exact iff_of_true rfl nofun
  | cons m input ih =>
    rw [List.forall_mem_cons, ← ih, ← liveResponseId?_eq_none_iff, newestLive?]
    cases newestLive? now input with
    | none => simp only [Option.map_eq_none_iff, and_true]
    | some found => exact iff_of_false nofun fun h => nomatch h.2

/-- The last live reply of the input is found, with the messages that stand behind it. -/
theorem newestLive?_eq_some_iff :
    newestLive? now input = some (id, later) ↔
      ∃ earlier m, input = earlier ++ m :: later ∧ IsLive now m id ∧
        ∀ m' ∈ later, ∀ id', ¬IsLive now m' id' := by
  induction input with
  | nil =>
    refine iff_of_false nofun ?_
    rintro ⟨earlier, m, hnil, -⟩
    exact List.append_ne_nil_of_right_ne_nil earlier (List.cons_ne_nil m later) hnil.symm
  | cons m input ih =>
    rw [newestLive?]
    cases hfound : newestLive? now input with
    | some found =>
      rw [hfound] at ih
      refine ih.trans ⟨?_, ?_⟩
      · rintro ⟨earlier, reply, rfl, hlive, hlast⟩
        exact ⟨m :: earlier, reply, rfl, hlive, hlast⟩
      · rintro ⟨_ | ⟨_, earlier⟩, reply, hsplit, hlive, hlast⟩
        · -- A live reply behind the first message is not the first message.
          obtain ⟨rfl, rfl⟩ := List.cons.inj hsplit
          rw [newestLive?_eq_none_iff.2 hlast] at hfound
          cases hfound
        · obtain ⟨rfl, rfl⟩ := List.cons.inj hsplit
          exact ⟨earlier, reply, rfl, hlive, hlast⟩
    | none =>
      have hnone := newestLive?_eq_none_iff.1 hfound
      simp only [Option.map_eq_some_iff, Prod.mk.injEq]
      constructor
      · rintro ⟨_, hid, rfl, rfl⟩
        exact ⟨[], m, rfl, liveResponseId?_eq_some_iff.1 hid, hnone⟩
      · rintro ⟨_ | ⟨_, earlier⟩, reply, hsplit, hlive, hlast⟩
        · obtain ⟨rfl, rfl⟩ := List.cons.inj hsplit
          exact ⟨id, liveResponseId?_eq_some_iff.2 hlive, rfl, rfl⟩
        · obtain ⟨rfl, rfl⟩ := List.cons.inj hsplit
          exact absurd hlive (hnone reply (List.mem_append_right _ (List.mem_cons_self ..)) id)

theorem not_isLive_invalidate : ¬IsLive now (Extra.invalidate m) id := by
  rintro ⟨⟨second, hsecond, -⟩, -⟩
  rw [Extra.expireAt?_invalidate] at hsecond
  cases hsecond

end

/-- The setting of the session cache that a call goes by: its own, or else the configured one. -/
def cacheSetting (configured : Option SessionCache) (option : Option CacheOption) :
    Option SessionCache :=
  (option.bind (·.sessionCache)).or configured

/-- The request with what it says of the cache under a setting, going on from a response. -/
def Request.noted (request : Request) (setting : Option SessionCache) (now : Int64)
    (previous : Option String) : Request :=
  { request with
    previousResponseId := previous
    store := some (setting.any (·.enabled))
    caching := some (setting.any (·.enabled))
    expireAt := setting.map (now + ·.ttl)
    reusable := false }

section

variable (input : List Message) (request : Request) (configured : Option SessionCache)
  (option : Option CacheOption) (now : Int64)

theorem effectiveCache_eq : effectiveCache configured option =
    ⟨(cacheSetting configured option).any (·.enabled),
      (cacheSetting configured option).map (·.ttl)⟩ := by
  unfold effectiveCache cacheSetting
  cases (option.bind (·.sessionCache)).or configured <;> rfl

theorem populateCache_eq : populateCache input request configured option now =
    (continuation input (effectiveCache configured option) option now).map fun c =>
      (c.remaining, request.noted (cacheSetting configured option) now c.previous) := by
  unfold populateCache Request.noted
  simp only [effectiveCache_eq, Option.map_map, Function.comp_def]

variable {input request configured option now}

theorem continuation_of_live {cache : CacheChoice} {earlier later : List Message} {m : Message}
    {id : String} (hon : cache.enabled = true) (hcontext : option.bind (·.contextId) = none)
    (hlive : IsLive now m id) (hlast : ∀ m' ∈ later, ∀ id', ¬IsLive now m' id') :
    continuation (earlier ++ m :: later) cache option now =
      if later = [] then Result.fail "not found incremental input after ResponseID"
      else .ok ⟨later, some id⟩ := by
  have hnewest := newestLive?_eq_some_iff.2 ⟨earlier, m, rfl, hlive, hlast⟩
  rw [continuation, if_pos ⟨hon, by rw [hcontext]; rfl⟩, hnewest]
  cases later <;> rfl

theorem continuation_of_not_live {cache : CacheChoice}
    (h : ¬(cache.enabled = true ∧ option.bind (·.contextId) = none ∧
      ∃ m ∈ input, ∃ id, IsLive now m id)) :
    continuation input cache option now =
      .ok ⟨input, (option.bind (·.contextId)).or (option.bind (·.headResponseId))⟩ := by
  have hnone : (if cache.enabled = true ∧ (option.bind (·.contextId)).isNone = true then
      newestLive? now input else none) = none := by
    split
    · next hcond =>
      have hcontext := Option.isNone_iff_eq_none.1 hcond.2
      exact newestLive?_eq_none_iff.2 fun m hm id hlive => h ⟨hcond.1, hcontext, m, hm, id, hlive⟩
    · rfl
  rw [continuation, hnone]

theorem populateCache_of_not_live
    (h : ¬((cacheSetting configured option).any (·.enabled) = true ∧
      option.bind (·.contextId) = none ∧ ∃ m ∈ input, ∃ id, IsLive now m id)) :
    populateCache input request configured option now =
      .ok (input, request.noted (cacheSetting configured option) now
        ((option.bind (·.contextId)).or (option.bind (·.headResponseId)))) := by
  rw [populateCache_eq, effectiveCache_eq, continuation_of_not_live h]
  rfl

end

/-- The second of expiry is exact as long as it is a number of 64 bits. -/
theorem Request.expireAt_noted (request : Request) {c : SessionCache} {now : Int64}
    (h : Decode.InInt64 (now.toInt + c.ttl.toInt)) (previous : Option String) :
    (request.noted (some c) now previous).expireAt.map (·.toInt) =
      some (now.toInt + c.ttl.toInt) := by
  obtain ⟨hlow, hhigh⟩ := h
  have hsum : (now + c.ttl).toInt = now.toInt + c.ttl.toInt := by
    rw [Int64.toInt_add]
    exact Int.bmod_eq_of_le (by omega) (by omega)
  exact congrArg some hsum

def storedReply (id : String) (second : Int64) : Message :=
  { Message.blank .assistant with
    extra := .ofList [(Extra.expireAtKey, .int second.toInt), (Extra.responseIdKey, .str id)] }

def storedTwice : List Message :=
  [storedReply "r1" 1000, .blank .user, storedReply "r2" 999, .blank .user]

def bareRequest : Request where
  model := "m"
  input := []
  maxOutputTokens := none
  temperature := none
  topP := none
  format := none
  thinking := none
  reasoningEffort := none
  serviceTier := none
  previousResponseId := none
  store := none
  expireAt := none
  caching := none
  reusable := false
  tools := []
  toolChoice := none
  maxToolCalls := none
  streamed := false

example (request : Request) : populateCache storedTwice request (some ⟨true, 60⟩) none 1000 =
    .ok (storedTwice.drop 1, request.noted (some ⟨true, 60⟩) 1000 (some "r1")) := by
  rfl

end Responses

end ChatRetrieval.Ark
