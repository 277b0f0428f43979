import ChatRetrieval.Proofs.Chat.Operation
import ChatRetrieval.Proofs.Http.Headers

/-!
Custom headers of the Ark models. The maps of the configuration and of the call are merged by the
exact spelling of the names and then written into the request in the order of the names, where
spellings that differ in case alone are one name: the last of them is sent.
-/

namespace ChatRetrieval

open ChatRetrieval.Action (AsksOnly)

namespace Chat

theorem requestHeaders_eq_ok {c : Client} {extra : List (String × String)} {headers : Headers}
    (h : c.requestHeaders extra = .ok headers) :
    ∃ own, c.requestHeaders [] = .ok own ∧ headers = own.insertMany (extra.map Headers.entry) := by
  obtain ⟨own, hown, hextra⟩ := Headers.addAll_append h
  refine ⟨own, ?_, Headers.addAll_eq_ok hextra⟩
  unfold Client.requestHeaders
  rw [List.append_nil]
  exact hown

end Chat

namespace Ark

/-- No name in the map is another spelling of this one that comes behind it. -/
def IsLastSpelling (d : Dict String String) (name : String) : Prop :=
  ∀ other ∈ d.keys, Text.lower other = Text.lower name → compare other name ≠ .gt

instance (d : Dict String String) (name : String) : Decidable (IsLastSpelling d name) :=
  inferInstanceAs (Decidable (∀ other ∈ d.keys, _ → _))

variable {d configured given : Dict String String} {name value : String}

theorem IsLastSpelling.union (hconfigured : IsLastSpelling configured name)
    (hgiven : IsLastSpelling given name) : IsLastSpelling (configured.union given) name :=
  fun other hother => (Dict.mem_keys_union.1 hother).elim (hconfigured other) (hgiven other)

theorem get?_insertMany_of_isLastSpelling (h : d.get? name = some value)
    (hlast : IsLastSpelling d name) (headers : Headers) :
    (headers.insertMany (d.entries.map Headers.entry)).get? (Text.lower name) = some value := by
  obtain ⟨front, rest, hentries⟩ := List.append_of_mem (Dict.get?_eq_some_iff.1 h)
  have hrest : Text.lower name ∉ (rest.map Headers.entry).map (·.1) := by
    rw [List.map_map, List.mem_map]
    rintro ⟨⟨other, v⟩, hother, hlower⟩
    have hmem : other ∈ d.keys := by
      rw [Dict.keys, hentries]
      exact List.mem_map_of_mem (List.mem_append_right _ (List.mem_cons_of_mem _ hother))
    -- Behind the entry there are greater names only.
    have hlt : compare name other = .lt := by
      have hsorted := d.sorted
      rw [hentries] at hsorted
      exact (List.pairwise_cons.1 (List.pairwise_append.1 hsorted).2.1).1 _ hother
    exact hlast other hmem hlower (Std.OrientedCmp.gt_of_lt hlt)
  have hreverse : Text.lower name ∉ ((rest.map Headers.entry).reverse).map (·.1) := by
    rwa [List.map_reverse, List.mem_reverse]
  rw [Dict.get?_insertMany_eq, hentries, List.map_append, List.map_cons, List.reverse_append,
    List.reverse_cons, List.append_assoc, List.lookup_append,
    lookup_eq_none_of_notMem hreverse, Option.none_or, List.singleton_append, Headers.entry,
    List.lookup_cons_self, Option.some_or]

theorem get?_insertMany_of_notMem (h : ∀ other ∈ d.keys, Text.lower other ≠ name)
    (headers : Headers) :
    (headers.insertMany (d.entries.map Headers.entry)).get? name = headers.get? name := by
  have hnone : name ∉ ((d.entries.map Headers.entry).reverse).map (·.1) := by
    rw [List.map_reverse, List.mem_reverse, List.map_map, List.mem_map]
    rintro ⟨e, he, hlower⟩
    exact h e.1 (List.mem_map_of_mem he) hlower
  rw [Dict.get?_insertMany_eq, lookup_eq_none_of_notMem hnone, Option.none_or]

/-- What a request holds whose client's own headers are `own`, when these headers are configured and
those are given for the call. -/
structure Carries (configured given : Dict String String) (own headers : Headers) : Prop where
  /-- A header of the call is sent unless another spelling of its name comes behind. -/
  ofCall : ∀ name value, given.get? name = some value → IsLastSpelling given name →
    IsLastSpelling configured name → headers.get? (Text.lower name) = some value
  /-- A configured header is sent unless the call has its very name or another spelling of it comes
  behind. -/
  ofConfig : ∀ name value, configured.get? name = some value → given.get? name = none →
    IsLastSpelling given name → IsLastSpelling configured name →
    headers.get? (Text.lower name) = some value
  ofClient : ∀ name,
    (∀ other, other ∈ configured.keys ∨ other ∈ given.keys → Text.lower other ≠ name) →
    headers.get? name = own.get? name

theorem carries_union (configured given : Dict String String) (own : Headers) :
    Carries configured given own
      (own.insertMany ((configured.union given).entries.map Headers.entry)) where
  ofCall name value hvalue hgiven hconfigured := by
    refine get?_insertMany_of_isLastSpelling ?_ (hconfigured.union hgiven) own
    rw [Dict.get?_union, hvalue, Option.some_or]
  ofConfig name value hvalue hnone hgiven hconfigured := by
    refine get?_insertMany_of_isLastSpelling ?_ (hconfigured.union hgiven) own
    rw [Dict.get?_union, hnone, Option.none_or, hvalue]
  ofClient name hname :=
    get?_insertMany_of_notMem (fun other hother => hname other (Dict.mem_keys_union.1 hother)) own

def givenHeaders (options : ChatOptions) : Dict String String :=
  (options.ark.map (·.customHeaders)).getD .empty

theorem mergedHeaders_eq (configured : Dict String String) (options : ChatOptions) :
    mergedHeaders configured options.ark = (configured.union (givenHeaders options)).entries := by
  unfold givenHeaders mergedHeaders
  cases options.ark <;> rfl

end Ark

namespace Chat

def Settings.ark? : Settings → Option (Client × Dict String String)
  | ark c => some (c.common.client, c.customHeaders)
  | arkResponses c => some (c.client, c.customHeaders)
  | deepSeek _ | qwen _ | qianfan _ | claude _ | gemini _ => none

theorem Operation.asksOnly {m : Model} {client : Client} {configured : Dict String String}
    (h : m.settings.ark? = some (client, configured)) (options : ChatOptions)
    (operation : Operation) :
    (operation.run m options).AsksOnly fun r =>
      client.requestHeaders (Ark.mergedHeaders configured options.ark) = .ok r.headers := by
  have hrun := operation.run_asksOnly m options
  obtain ⟨settings, binding⟩ := m
  cases settings with
  | ark c =>
    obtain ⟨rfl, rfl⟩ := Prod.mk.inj (Option.some.inj h)
    exact hrun
  | arkResponses c =>
    obtain ⟨rfl, rfl⟩ := Prod.mk.inj (Option.some.inj h)
    exact hrun
  | deepSeek _ | qwen _ | qianfan _ | claude _ | gemini _ => cases h

/-- All requests of an Ark model, for whatever it is called, carry its custom headers. Where
the configuration and the call spell one name differently, the spelling that comes last in byte order
is sent. -/
theorem Operation.run_carries {m : Model} {client : Client} {configured : Dict String String}
    (h : m.settings.ark? = some (client, configured)) (options : ChatOptions)
    (operation : Operation) :
    (operation.run m options).AsksOnly fun r => ∃ own, client.requestHeaders [] = .ok own ∧
      Ark.Carries configured (Ark.givenHeaders options) own r.headers := by
  refine Action.Ensures.mono (operation.asksOnly h options) fun hasked x hx => ?_
  obtain ⟨own, hown, hheaders⟩ := requestHeaders_eq_ok (hasked x hx)
  rw [Ark.mergedHeaders_eq] at hheaders
  rw [hheaders]
  exact ⟨own, hown, Ark.carries_union configured (Ark.givenHeaders options) own⟩

def teamConfig (name : String) : Ark.Responses.Config where
  apiKey := "key"
  baseUrl := "http://h"
  region := "r"
  model := "m"
  maxOutputTokens := none
  temperature := none
  topP := none
  responseFormat := none
  thinking := none
  serviceTier := none
  reasoningEffort := none
  sessionCache := none
  webSearch := none
  maxToolCalls := none
  customHeaders := .ofList [(name, "a"), ("x-zone", "z")]
  http := .default
  retry := .default

def teamOptions (name : String) : ChatOptions :=
  { ChatOptions.none with ark := some ⟨.ofList [(name, "b")], none, none, none, none, none⟩ }

theorem Operation.run_carries_capital :
    let config := teamConfig "X-Team"
    let m : Model := ⟨.arkResponses config, .none⟩
    m.settings.ark? = some (config.client, config.customHeaders) ∧
    ((Operation.generate []).run m (teamOptions "x-team")).AsksOnly fun r =>
      r.headers.get? "x-team" = some "b" ∧ r.headers.get? "x-zone" = some "z" := by
  intro config m
  have hrun := Operation.run_carries (m := m) rfl (teamOptions "x-team") (.generate [])
  refine ⟨rfl, Action.Ensures.mono hrun fun hcarries x hx => ?_⟩
  obtain ⟨own, -, h⟩ := hcarries x hx
  have hteam := h.ofCall "x-team" "b" (by decide) (by decide) (by decide)
  have hzone := h.ofConfig "x-zone" "z" (by decide) (by decide) (by decide) (by decide)
  exact ⟨hteam, hzone⟩

/-- A header given for the call does not always win: spelled with capital letters it is written first
and the configured value over it. -/
theorem Operation.run_keeps_configured :
    let m : Model := ⟨.arkResponses (teamConfig "x-team"), .none⟩
    let s : Session := ⟨[], [], [], 0, 0⟩
    (Ark.givenHeaders (teamOptions "X-Team")).get? "X-Team" = some "b" ∧
    ((Operation.generate []).run m (teamOptions "X-Team") s).2.sent.map
      (·.headers.get? (Text.lower "X-Team")) = [some "a"] := by
  decide +kernel

end Chat

end ChatRetrieval
