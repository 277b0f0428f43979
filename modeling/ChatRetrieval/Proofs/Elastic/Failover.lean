import ChatRetrieval.Proofs.Elastic.Client

/-!
Going from node to node. Whatever is asked of a cluster, the nodes before the one that answers were
asked the same in vain, and the operation ends as the answer alone says.
-/

namespace ChatRetrieval

def Session.askedEach (s : Session) (requests : List Request) : Session :=
  { s with sent := s.sent ++ requests, replies := s.replies.drop requests.length }

namespace Session

theorem askedEach_nil (s : Session) : s.askedEach [] = s := by
  simp only [askedEach, List.append_nil, List.length_nil, List.drop_zero]

theorem asked_askedEach (s : Session) (request : Request) (requests : List Request) :
    (s.asked request 1).askedEach requests = s.askedEach (request :: requests) := by
  simp only [asked, askedEach, List.replicate_one, List.append_assoc, List.singleton_append,
    List.drop_drop, List.length_cons, Nat.add_comm 1]

end Session

namespace Elastic

/-- A node that was asked in vain. -/
structure Miss where
  address : String
  url : Url
  failure : Failure

namespace Miss

def report (m : Miss) (method : Method) : Failure :=
  m.failure.within (Http.contextText none method.name m.url.text)

/-- The report of the last miss, or a failure of another origin if there was none. -/
def lastReport (method : Method) (misses : List Miss) (otherwise : Failure) : Failure :=
  (misses.getLast?.map (report · method)).getD otherwise

theorem lastReport_cons (method : Method) (m : Miss) (misses : List Miss) (otherwise : Failure) :
    lastReport method (m :: misses) otherwise =
      lastReport method misses (m.report method) := by
  cases misses with
  | nil => rfl
  | cons n more => rfl

end Miss

section

variable (method : Method) (path : String) (headers : Headers) (payload : Payload)

def requestTo (url : Url) : Request := ⟨method, url.text, headers, payload⟩

/-- These nodes were the first to be asked, each at the URL of its address, and all failed. -/
structure Missed (s : Session) (misses : List Miss) : Prop where
  joined : ∀ m ∈ misses, Url.join m.address path = .ok m.url
  failed : ∀ i m, misses[i]? = some m → s.replyTo i = .failed m.failure

theorem Missed.nil (s : Session) : Missed path s [] := ⟨nofun, nofun⟩

theorem Missed.cons {s : Session} {m : Miss} {misses : List Miss} {request : Request}
    (hjoin : Url.join m.address path = .ok m.url) (hreply : s.replyTo 0 = .failed m.failure)
    (h : Missed path (s.asked request 1) misses) : Missed path s (m :: misses) := by
  refine ⟨List.forall_mem_cons.2 ⟨hjoin, h.joined⟩, ?_⟩
  intro i n hi
  cases i with
  | zero =>
    cases hi
    exact hreply
  | succ i =>
    have hlater : (s.asked request 1).replyTo i = .failed n.failure := h.failed i n hi
    rwa [Session.replyTo_asked, Nat.add_comm] at hlater

/-- Nodes are asked in their order until one answers. The rest begins with the node that ends the
search: by its answer, or by an address that is no URL. -/
theorem sendToAny_eq (last : Failure) (addresses : List String) (s : Session) :
    ∃ misses rest, addresses = misses.map Miss.address ++ rest ∧ Missed path s misses ∧
      let requests := misses.map fun m => requestTo method headers payload m.url
      let run := sendToAny method path headers payload last addresses s
      match rest with
      | [] => run = (.error (Miss.lastReport method misses last), s.askedEach requests)
      | address :: _ =>
        match Url.join address path with
        | .error f => run = (.error f, s.askedEach requests)
        | .ok url => ∃ response events, s.replyTo misses.length = .answered response events ∧
          run = (.ok (response, url.text),
            s.askedEach (requests ++ [requestTo method headers payload url])) := by
  -- By induction on the addresses: each that fails leaves its report as the last one so far.
  induction addresses generalizing last s with
  | nil =>
    refine ⟨[], [], rfl, .nil path s, ?_⟩
    exact Prod.ext rfl s.askedEach_nil.symm
  | cons address later ih =>
    rw [sendToAny_cons]
    cases hurl : Url.join address path with
    | error f =>
      refine ⟨[], address :: later, rfl, .nil path s, ?_⟩
      simp only [hurl, List.map_nil, s.askedEach_nil]
    | ok url =>
      cases hreply : s.replyTo 0 with
      | answered response events =>
        refine ⟨[], address :: later, rfl, .nil path s, ?_⟩
        simp only [hurl]
        exact ⟨response, events, hreply, rfl⟩
      | failed f =>
        -- The node is one more miss in front of those that the rest of the nodes give.
        obtain ⟨misses, rest, hsplit, hmissed, hrun⟩ :=
          ih (Miss.report ⟨address, url, f⟩ method)
            (s.asked (requestTo method headers payload url) 1)
        refine ⟨⟨address, url, f⟩ :: misses, rest, congrArg (address :: ·) hsplit,
          .cons path hurl hreply hmissed, ?_⟩
        simp only [Miss.lastReport_cons, List.map_cons, List.cons_append, List.length_cons]
        cases rest with
        | nil =>
          simp only [Session.asked_askedEach] at hrun
          exact hrun
        | cons next more =>
          cases hnext : Url.join next path with
          | error g =>
            simp only [hnext, Session.asked_askedEach] at hrun ⊢
            exact hrun
          | ok nextUrl =>
            simp only [hnext, Session.asked_askedEach, Session.replyTo_asked,
              Nat.add_comm 1] at hrun ⊢
            exact hrun

end

inductive Operation : Type → Type where
  | search (index : String) (request : SearchRequest) : Operation SearchResponse
  | bulk (operations : List BulkOperation) : Operation BulkResponse
  | indexExists (index : String) : Operation Bool
  | createIndex (index : String) (body : Json) : Operation Unit

namespace Operation

variable {α : Type}

def run (c : ClientConfig) : Operation α → Action α
  | search index request => c.search index request
  | bulk operations => c.bulk operations
  | indexExists index => c.indexExists index
  | createIndex index body => c.createIndex index body

def method : Operation α → Method
  | search .. => .post
  | bulk .. => .post
  | indexExists .. => .head
  | createIndex .. => .put

def path : Operation α → String
  | search index _ => index ++ "/_search"
  | bulk _ => "_bulk"
  | indexExists index => index
  | createIndex index _ => index

def contentType : Operation α → String
  | bulk _ => "application/x-ndjson"
  | _ => "application/json"

def payload : Operation α → Payload
  | search _ request => .json request.toJson
  | bulk operations => .lines (BulkOperation.lines operations)
  | indexExists _ => .empty
  | createIndex _ body => .json body

/-- What the operation comes to when a node answers. -/
def outcome : Operation α → Response → String → Result α
  | search .., response, url => Http.readJson SearchResponse.decode response Method.post.name url
  | bulk .., response, url => Http.readJson BulkResponse.decode response Method.post.name url
  | indexExists .., response, url =>
    if response.status = 200 then .ok true
    else if response.status = 404 then .ok false
    else .error ((Cause.httpStatus response.status "").failure.within
      (Http.contextText (some response.status) "HEAD" url))
  | createIndex .., response, url =>
    (Http.readJson Decode.any response Method.put.name url).map fun _ => ()

theorem run_eq (op : Operation α) (c : ClientConfig) (s : Session) :
    op.run c s = (c.execute op.method op.path op.contentType op.payload >>= fun answer =>
      Action.lift (op.outcome answer.1 answer.2)) s := by
  cases op with
  | search index request => rfl
  | bulk operations => rfl
  | indexExists index =>
    refine congrArg (fun f => (c.execute .head index "application/json" .empty >>= f) s) ?_
    funext ⟨response, url⟩
    dsimp only [outcome]
    split
    · rfl
    · split <;> rfl
  | createIndex index body =>
    -- The value read from the answer is dropped in a step of its own.
    rcases hrun : c.execute .put index "application/json" (.json body) s with
      ⟨f | ⟨response, url⟩, after⟩
    · have hread := Action.bind_of_error hrun fun answer =>
        Action.lift (Http.readJson Decode.any answer.1 Method.put.name answer.2)
      exact (Action.bind_of_error hread _).trans (Action.bind_of_error hrun _).symm
    · have hread := Action.bind_of_ok hrun fun answer =>
        Action.lift (Http.readJson Decode.any answer.1 Method.put.name answer.2)
      refine (Action.bind_pure_run hread fun _ => ()).trans ?_
      exact (Action.bind_of_ok hrun fun answer =>
        Action.lift ((createIndex index body).outcome answer.1 answer.2)).symm

/-- Without headers nothing is sent, and otherwise the nodes are asked in their order until one
answers. The operation comes to what that answer says, whatever its status; the nodes before it were
asked the same, once each, and those after it are not asked. It fails for want of an answer with the
failure of the last node, or for want of a node, and with that of an address that is no URL as soon
as the address is reached. -/
theorem run_failover (op : Operation α) (c : ClientConfig) (s : Session) :
    match c.headers op.contentType with
    | .error f => op.run c s = (.error f, s)
    | .ok headers =>
      ∃ misses rest, c.addresses = misses.map Miss.address ++ rest ∧ Missed op.path s misses ∧
        let requests := misses.map fun m => requestTo op.method headers op.payload m.url
        match rest with
        | [] => op.run c s = (.error (Miss.lastReport op.method misses Cause.noAddress.failure),
            s.askedEach requests)
        | address :: _ =>
          match Url.join address op.path with
          | .error f => op.run c s = (.error f, s.askedEach requests)
          | .ok url => ∃ response events, s.replyTo misses.length = .answered response events ∧
            op.run c s = (op.outcome response url.text,
              s.askedEach (requests ++ [requestTo op.method headers op.payload url])) := by
  rw [run_eq]
  cases hheaders : c.headers op.contentType with
  | error f =>
    have hrun : c.execute op.method op.path op.contentType op.payload s = (.error f, s) := by
      rw [ClientConfig.execute, hheaders]
      rfl
    exact Action.bind_of_error hrun _
  | ok headers =>
    have hexecute : c.execute op.method op.path op.contentType op.payload s =
        sendToAny op.method op.path headers op.payload Cause.noAddress.failure c.addresses s := by
      rw [ClientConfig.execute, hheaders]
      rfl
    obtain ⟨misses, rest, hsplit, hmissed, hrun⟩ :=
      sendToAny_eq op.method op.path headers op.payload Cause.noAddress.failure c.addresses s
    refine ⟨misses, rest, hsplit, hmissed, ?_⟩
    rw [← hexecute] at hrun
    cases rest with
    | nil => exact Action.bind_of_error hrun _
    | cons address more =>
      cases hurl : Url.join address op.path with
      | error f =>
        simp only [hurl] at hrun ⊢
        exact Action.bind_of_error hrun _
      | ok url =>
        simp only [hurl] at hrun ⊢
        obtain ⟨response, events, hreply, hrun⟩ := hrun
        exact ⟨response, events, hreply, Action.bind_of_ok hrun _⟩

/-- A node answers if it is asked alone, and is never asked if an address that is no URL stands before
it. -/
theorem indexExists_stops_at_address :
    let asking (addresses : List String) : Result Bool × Session :=
      (indexExists "docs").run ⟨addresses, none, none, none, .default⟩
        ⟨[.answered ⟨200, .empty, .ok ""⟩ []], [], [], 0, 0⟩
    (asking ["http://b:9200"]).1.toOption = some true ∧
      (asking ["http://[", "http://b:9200"]).1.toOption = none ∧
      (asking ["http://[", "http://b:9200"]).2.sent.length = 0 := by
  decide +kernel

end Operation

end Elastic

end ChatRetrieval
