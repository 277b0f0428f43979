import ChatRetrieval.Milvus.Rest
import ChatRetrieval.Proofs.Http.Session
import ChatRetrieval.Proofs.Json.Lookup

/-!
Calls of the vector store. A call that can be made at all is one request, and its reply alone decides
about the outcome.
-/

namespace ChatRetrieval.Milvus

def dataOf (reply : ChatRetrieval.Reply) : Option Json :=
  (reply.value? Reply.decode).bind fun r => if r.code = 0 then some r.data else none

/-- The rows of a reply that holds rows or nothing. -/
def rowsOf (reply : ChatRetrieval.Reply) : Option (List Json) :=
  (dataOf reply).bind fun
    | .arr rows => some rows
    | .null => some []
    | _ => none

def replyOf (url : String) (reply : ChatRetrieval.Reply) : Result Reply := do
  let response ← Result.within (Http.contextText none "POST" url) ((Http.answer reply).map Prod.fst)
  Http.readJson Reply.decode response "POST" url

def answerOf (path url : String) (reply : ChatRetrieval.Reply) : Result Json := do
  let r ← replyOf url reply
  if r.code = 0 then return r.data
  else .error ((Cause.server r.code r.message).failure.within ("Milvus call " ++ path ++ " failed"))

theorem toOption_replyOf (url : String) (reply : ChatRetrieval.Reply) :
    (replyOf url reply).toOption = reply.value? Reply.decode := by
  cases reply with
  | failed f => rfl
  | answered response events =>
    exact Http.readJson_toOption Reply.decode response events "POST" url

theorem toOption_answerOf (path url : String) (reply : ChatRetrieval.Reply) :
    (answerOf path url reply).toOption = dataOf reply := by
  rw [answerOf, dataOf, Result.toOption_bind, toOption_replyOf]
  congr
  funext r
  split <;> rfl

def answering (data : Json) : ChatRetrieval.Reply :=
  .answered ⟨200, .empty, .ok (Json.obj [("code", .int 0), ("data", data)]).render⟩ []

namespace ClientConfig

open Json (field)

variable (c : ClientConfig) (path : String) (body : Json) (s : Session)

def endpoint : Result (String × Headers) := do
  let url ← Url.join c.address path
  let headers ← c.headers
  return (url.text, headers)

def request (target : String × Headers) : Request :=
  ⟨.post, target.1, target.2, .json (c.withDatabase body)⟩

variable {c path body s}

theorem get?_withDatabase {k : String} (hk : k ≠ "dbName") :
    (c.withDatabase body).get? k = body.get? k := by
  unfold withDatabase
  split
  · rw [Json.get?_ofMembers_concat, if_neg hk]
  · rfl

theorem send_of_error {f : Failure} (h : c.endpoint path = .error f) :
    c.send path body s = (.error f, s) := by
  unfold endpoint at h
  unfold send
  cases hurl : Url.join c.address path with
  | error g =>
    rw [hurl] at h
    cases h
    rfl
  | ok url =>
    cases hheaders : c.headers with
    | error g =>
      rw [hurl, hheaders] at h
      cases h
      rfl
    | ok headers =>
      rw [hurl, hheaders] at h
      cases h

theorem send_eq (body : Json) (s : Session) {target : String × Headers}
    (h : c.endpoint path = .ok target) :
    c.send path body s = (replyOf target.1 (s.replyTo 0), s.asked (c.request body target) 1) := by
  unfold endpoint at h
  obtain ⟨url, hurl, h⟩ := Result.bind_eq_ok h
  obtain ⟨headers, hheaders, h⟩ := Result.bind_eq_ok h
  cases h
  have hsent := Action.within_run (Http.send_eq (c.request body (url.text, headers)) s)
    (Http.contextText none "POST" url.text)
  rw [send, hurl, hheaders]
  exact Action.bind_lift_run hsent fun response =>
    Http.readJson Reply.decode response "POST" url.text

theorem call_of_error {f : Failure} (h : c.endpoint path = .error f) :
    c.call path body s = (.error f, s) :=
  Action.bind_of_error (send_of_error h) _

theorem call_eq (body : Json) (s : Session) {target : String × Headers}
    (h : c.endpoint path = .ok target) :
    c.call path body s =
      (answerOf path target.1 (s.replyTo 0), s.asked (c.request body target) 1) := by
  have hsent := send_eq body s h
  rw [call, answerOf]
  cases hreply : replyOf target.1 (s.replyTo 0) with
  | error f =>
    rw [hreply] at hsent
    exact Action.bind_of_error hsent _
  | ok reply =>
    rw [hreply] at hsent
    rw [Action.bind_of_ok hsent]
    by_cases hcode : reply.code = 0
    · rw [if_pos hcode, Result.ok_bind, if_pos hcode]
      rfl
    · rw [if_neg hcode, Result.ok_bind, if_neg hcode]
      rfl

theorem call_of_endpoint (body : Json) (s : Session) {target : String × Headers}
    (h : c.endpoint path = .ok target) :
    (c.call path body s).2 = s.asked (c.request body target) 1 ∧
      (c.call path body s).1.toOption = dataOf (s.replyTo 0) := by
  rw [call_eq body s h]
  exact ⟨rfl, toOption_answerOf ..⟩

theorem call_eq_ok {data : Json} {t : Session} (h : c.call path body s = (.ok data, t)) :
    ∃ target, c.endpoint path = .ok target ∧ t = s.asked (c.request body target) 1 := by
  cases hend : c.endpoint path with
  | error f =>
    rw [call_of_error hend] at h
    cases h
  | ok target =>
    have hafter := (call_of_endpoint body s hend).1
    rw [h] at hafter
    exact ⟨target, rfl, hafter⟩

theorem describeIndex_eq (collection name : String) (s : Session) {target : String × Headers}
    (h : c.endpoint "/v2/vectordb/indexes/describe" = .ok target) :
    ∃ describe : Json → IndexDescription, c.describeIndex collection name s =
      ((replyOf target.1 (s.replyTo 0)).map fun reply =>
          if reply.code = 0 then (firstIndex reply.data).map describe else none,
        s.asked (c.request (.ofFields [field "collectionName" (.str collection),
          field "indexName" (.str name)]) target) 1) := by
  have hsent := send_eq (.ofFields [field "collectionName" (.str collection),
    field "indexName" (.str name)]) s h
  refine ⟨fun item => ⟨((item.get? "indexName").bind Json.asString?).getD name,
    ((item.get? "fieldName").bind Json.asString?).getD "",
    (item.get? "indexType").bind Json.asString?⟩, ?_⟩
  rw [describeIndex]
  cases hreply : replyOf target.1 (s.replyTo 0) with
  | error f =>
    rw [hreply] at hsent
    exact Action.bind_of_error hsent _
  | ok reply =>
    rw [hreply] at hsent
    rw [Action.bind_of_ok hsent]
    by_cases hcode : reply.code = 0
    · simp only [hcode, ne_eq, not_true_eq_false, if_false, Except.map, if_true]
      rfl
    · simp only [hcode, ne_eq, not_false_eq_true, if_true, Except.map, if_false]
      rfl

def searchEndpoint (c : ClientConfig) : Result (String × Headers) :=
  c.endpoint "/v2/vectordb/entities/search"

theorem searchRows_of_error {f : Failure} (h : c.searchEndpoint = .error f) :
    c.searchRows body s = (.error f, s) :=
  Action.bind_of_error (call_of_error h) _

theorem searchRows_of_endpoint (body : Json) (s : Session) {target : String × Headers}
    (h : c.searchEndpoint = .ok target) :
    (c.searchRows body s).2 = s.asked (c.request body target) 1 ∧
      (c.searchRows body s).1.toOption = (rowsOf (s.replyTo 0)).map (.ofRows true) := by
  obtain ⟨hafter, hdata⟩ := call_of_endpoint body s h
  refine ⟨(Action.bind_lift_snd _ _ s).trans hafter, ?_⟩
  rw [rowsOf, ← hdata, searchRows]
  rcases hrun : c.call "/v2/vectordb/entities/search" body s with ⟨f | data, after⟩
  · rw [Action.bind_of_error hrun]
    rfl
  · rw [Action.bind_of_ok hrun]
    cases data <;> rfl

end ClientConfig

end ChatRetrieval.Milvus
