import ChatRetrieval.Proofs.Chat.Offer
import ChatRetrieval.Proofs.Chat.Operation

/-!
The tools of a call. Whatever a model is called for and whatever it is bound to, the body that is built for
the call offers the tools of the call, or else the bound ones, with a choice that can be followed, and where
there is no such choice nothing is built. Only a conversation that goes on from a stored response says
nothing of tools.
-/

namespace ChatRetrieval

namespace ChatOptions

variable (options : ChatOptions) (binding : Binding)

def toolNames : List String := (options.tools.getD binding.tools).map (·.name)

def choice : Option ToolChoice := options.toolChoice.or binding.choice

end ChatOptions

/-- The body starts afresh and offers the tools of the call with a choice that can be followed. -/
structure Offers (offer : Json → Offer) (binding : Binding) (options : ChatOptions) (body : Json) : Prop where
  fresh : body.get? "previous_response_id" = none
  sound : (offer body).IsSound (options.toolNames binding) (options.choice binding)
  satisfiable : ¬ToolChoice.Unsatisfiable options.allowedToolNames (options.toolNames binding)
    (options.choice binding)

/-- The body goes on from a stored response and says nothing of tools. -/
structure GoesOn (body : Json) : Prop where
  previous : ∃ id, body.get? "previous_response_id" = some (.str id)
  tools : body.get? "tools" = none
  choice : body.get? "tool_choice" = none

variable {binding : Binding} {options : ChatOptions}

theorem Offers.of_resolve {offer : Json → Offer} {choice : Option ResolvedChoice} {body : Json}
    (hresolve : ToolChoice.resolve (options.choice binding) options.allowedToolNames
      (options.toolNames binding) = .ok choice)
    (hoffer : offer body = ⟨options.toolNames binding, choice⟩)
    (hfresh : body.get? "previous_response_id" = none) : Offers offer binding options body := by
  have hcomes := ToolChoice.resolve_eq_ok_iff.1 hresolve
  exact ⟨hfresh, hoffer ▸ hcomes.isSound, hcomes.not_unsatisfiable⟩

namespace Completions

theorem Request.withTools_offers {r r' : Request} (h : r.withTools binding options = .ok r')
    (hplain : r.IsPlain) (streamed : Bool) :
    Offers offer binding options { r' with streamed }.toJson := by
  obtain ⟨choice, hresolve, h⟩ := Result.bind_eq_ok h
  cases h
  let sent : Request := { r with
    tools := functionTools (options.tools.getD binding.tools)
    toolChoice := choice.map .ofResolved
    streamed }
  have hsent : sent.IsPlain := hplain
  exact .of_resolve hresolve (offer_toJson hsent rfl rfl) (get?_toJson hsent).2.2

end Completions

namespace DeepSeek

theorem Config.request_offers {c : Config} {input : List Message} {r : Completions.Request}
    (h : c.request binding input options = .ok r) (streamed : Bool) :
    Offers Completions.offer binding options { r with streamed }.toJson := by
  obtain ⟨messages, -, h⟩ := Result.bind_eq_ok h
  exact Completions.Request.withTools_offers h (fun _ _ => List.not_mem_nil) streamed

end DeepSeek

namespace Qwen

theorem Config.request_offers {c : Config} {input : List Message} {r : Completions.Request}
    (h : c.request binding input options = .ok r) (streamed : Bool) :
    Offers Completions.offer binding options { r with streamed }.toJson := by
  obtain ⟨-, -, h⟩ := Result.bind_eq_ok h
  obtain ⟨messages, -, h⟩ := Result.bind_eq_ok h
  have hcommon : (c.common.request.override options).IsPlain := fun _ _ => List.not_mem_nil
  have hplain := (hcommon.addField? "seed" (by decide) .int c.seed).addField? "enable_thinking" (by decide)
    .bool ((options.qwen.bind id).or c.thinking)
  exact Completions.Request.withTools_offers h hplain streamed

end Qwen

namespace Qianfan

theorem Config.request_offers {c : Config} {input : List Message} {r : Completions.Request}
    (h : c.request binding input options = .ok r) (streamed : Bool) :
    Offers Completions.offer binding options { r with streamed }.toJson := by
  obtain ⟨messages, -, h⟩ := Result.bind_eq_ok h
  have hcommon : c.common.request.IsPlain := fun _ _ => List.not_mem_nil
  have hplain := (((hcommon.addField? "penalty_score" (by decide) .ofSingle c.penaltyScore).addField? "seed"
    (by decide) .int c.seed).addField? "user" (by decide) .str c.user).addField? "parallel_tool_calls"
    (by decide) .bool c.parallelToolCalls
  exact Completions.Request.withTools_offers h hplain streamed

end Qianfan

namespace Ark

theorem ChatConfig.request_offers {c : ChatConfig} {input : List Message} {r : Completions.Request}
    (h : c.request binding input options = .ok r) (streamed : Bool) :
    Offers Completions.offer binding options { r with streamed }.toJson := by
  obtain ⟨messages, -, h⟩ := Result.bind_eq_ok h
  let base : Completions.Request := { c.common.request with
    logprobs := if c.logprobs then some true else none
    topLogprobs := c.topLogprobs }
  have hcommon : (base.override options).IsPlain := fun _ _ => List.not_mem_nil
  have hplain := ((hcommon.addField? "thinking" (by decide) Thinking.toJson
    ((options.ark.bind (·.thinking)).or c.thinking)).addField? "service_tier" (by decide) ServiceTier.toJson
    c.serviceTier).addField? "reasoning_effort" (by decide) ReasoningEffort.toJson
    ((options.ark.bind (·.reasoningEffort)).or c.reasoningEffort)
  exact Completions.Request.withTools_offers h hplain streamed

namespace Responses

theorem populateTools_offers {q r : Request} {search : Option WebSearch} {limit : Option Int}
    (h : populateTools q binding options search limit = .ok r) (htools : q.tools = [])
    (hchoice : q.toolChoice = none) (streamed : Bool) :
    GoesOn { r with streamed }.toJson ∨ Offers offer binding options { r with streamed }.toJson := by
  rw [populateTools] at h
  split at h
  · rename_i hprevious
    cases h
    obtain ⟨id, hid⟩ := Option.isSome_iff_exists.1 hprevious
    obtain ⟨htools', hchoice', hprevious'⟩ := Request.get?_toJson { q with streamed }
    refine .inl ⟨⟨id, ?_⟩, ?_, ?_⟩
    · rw [hprevious', hid]
      rfl
    · rw [htools', htools]
      rfl
    · rw [hchoice', hchoice]
      rfl
  · rename_i hprevious
    obtain ⟨choice, hresolve, h⟩ := Result.bind_eq_ok h
    cases h
    refine .inr (.of_resolve hresolve (Request.offer_toJson _ rfl) ?_)
    rw [(Request.get?_toJson _).2.2, Option.not_isSome_iff_eq_none.1 hprevious]
    rfl

theorem tools_of_baseRequest {c : Config} {q : Request} (h : c.baseRequest options = .ok q) :
    q.tools = [] ∧ q.toolChoice = none := by
  rw [Config.baseRequest] at h
  split at h
  · cases h
    exact ⟨rfl, rfl⟩
  · cases h

theorem Config.request_offers {c : Config} {input : List Message} {now : Int64} {r : Request}
    (h : c.request binding input options now = .ok r) (streamed : Bool) :
    GoesOn { r with streamed }.toJson ∨ Offers offer binding options { r with streamed }.toJson := by
  obtain ⟨base, hbase, h⟩ := Result.bind_eq_ok h
  obtain ⟨cached, hcached, h⟩ := Result.bind_eq_ok h
  obtain ⟨continued, -, rfl⟩ := Result.map_eq_ok hcached
  obtain ⟨items, -, h⟩ := Result.bind_eq_ok h
  obtain ⟨htools, hchoice⟩ := tools_of_baseRequest hbase
  exact populateTools_offers h htools hchoice streamed

theorem Config.storingRequest_offers {c : Config} {beginning : List Message} {ttl now : Int64} {r : Request}
    (h : c.storingRequest binding beginning ttl options now = .ok r) :
    GoesOn r.toJson ∨ Offers offer binding options r.toJson := by
  obtain ⟨base, hbase, h⟩ := Result.bind_eq_ok h
  obtain ⟨items, -, h⟩ := Result.bind_eq_ok h
  obtain ⟨htools, hchoice⟩ := tools_of_baseRequest hbase
  exact populateTools_offers h htools hchoice r.streamed

end Responses

end Ark

namespace Claude

theorem isSound_toolChoice {choice : Option ToolChoice} {allowedNames toolNames : List String}
    {disableParallel : Option Bool} {param : Option ToolChoiceParam}
    (h : toolChoice choice allowedNames toolNames disableParallel = .ok param) :
    Offer.IsSound toolNames choice ⟨toolNames, param.map (·.choice)⟩ ∧
      ¬ToolChoice.Unsatisfiable allowedNames toolNames choice := by
  obtain ⟨resolved, hresolve, hparam⟩ := Result.bind_eq_ok h
  have hcomes := ToolChoice.resolve_eq_ok_iff.1 hresolve
  refine ⟨?_, hcomes.not_unsatisfiable⟩
  cases resolved with
  | some r =>
    cases hparam
    exact hcomes.isSound
  | none =>
    cases hcomes
    dsimp only at hparam
    split at hparam
    · cases hparam
      exact ⟨rfl, nofun, nofun, by simp⟩
    · cases hparam
      exact ⟨rfl, nofun, nofun, by simp⟩

theorem Config.request_offers {c : Config} {input : List Message} {r : Request}
    (h : c.request binding input options = .ok r) (streamed : Bool) :
    Offers offer binding options { r with streamed }.toJson := by
  obtain ⟨choice, hchoice, h⟩ := Result.bind_eq_ok h
  obtain ⟨messages, -, h⟩ := Result.bind_eq_ok h
  have hr : r.tools.map (·.name) = options.toolNames binding ∧ r.toolChoice = choice := by
    have hnames : (toolDefinitions (options.tools.getD binding.tools)).map (·.name) =
        options.toolNames binding := List.map_map ..
    cases h
    rw [Transformation.pipe, Transformation.guarded]
    split
    · exact ⟨(Request.map_name_withCache _).trans hnames, rfl⟩
    · exact ⟨hnames, rfl⟩
  obtain ⟨hoffer, hfresh⟩ := Request.offer_toJson { r with streamed }
  obtain ⟨hsound, hsatisfiable⟩ := isSound_toolChoice hchoice
  have hsame : offer { r with streamed }.toJson =
      ⟨options.toolNames binding, choice.map (·.choice)⟩ := by
    rw [hoffer, hr.1, hr.2]
  refine ⟨hfresh, ?_, hsatisfiable⟩
  rw [hsame]
  exact hsound

end Claude

namespace Gemini

theorem Config.request_offers {c : Config} {input : List Message} {r : Request}
    (h : c.request binding input options = .ok r) : Offers offer binding options r.toJson := by
  obtain ⟨choice, hresolve, h⟩ := Result.bind_eq_ok h
  obtain ⟨contents, -, h⟩ := Result.bind_eq_ok h
  cases h
  exact .of_resolve hresolve (Request.offer_toJson _).1 (Request.offer_toJson _).2

end Gemini

namespace Chat

/-- How a model's requests say what they offer. -/
def Settings.offer : Settings → Json → Offer
  | deepSeek _ | qwen _ | qianfan _ | ark _ => Completions.offer
  | arkResponses _ => Ark.Responses.offer
  | claude _ => Claude.offer
  | gemini _ => Gemini.offer

/-- A body says nothing of tools, as one that goes on from a stored response of this model, or it offers the
tools of the call. -/
def IsFitting (m : Model) (options : ChatOptions) (body : Json) : Prop :=
  ((∃ c, m.settings = .arkResponses c) ∧ GoesOn body) ∨ Offers m.settings.offer m.binding options body

theorem Operation.body_isFitting {m : Model} {operation : Operation} {now : Int64} {body : Json}
    (h : operation.body m options now = .ok body) : IsFitting m options body := by
  obtain ⟨settings, binding⟩ := m
  cases operation with
  | generate input =>
    cases settings with
    | deepSeek c =>
      obtain ⟨r, hr, rfl⟩ := Result.map_eq_ok h
      exact .inr (DeepSeek.Config.request_offers hr r.streamed)
    | qwen c =>
      obtain ⟨r, hr, rfl⟩ := Result.map_eq_ok h
      exact .inr (Qwen.Config.request_offers hr r.streamed)
    | qianfan c =>
      obtain ⟨r, hr, rfl⟩ := Result.map_eq_ok h
      exact .inr (Qianfan.Config.request_offers hr r.streamed)
    | ark c =>
      obtain ⟨r, hr, rfl⟩ := Result.map_eq_ok h
      exact .inr (Ark.ChatConfig.request_offers hr r.streamed)
    | arkResponses c =>
      obtain ⟨r, hr, rfl⟩ := Result.map_eq_ok h
      exact (Ark.Responses.Config.request_offers hr r.streamed).imp_left (⟨⟨c, rfl⟩, ·⟩)
    | claude c =>
      obtain ⟨r, hr, rfl⟩ := Result.map_eq_ok h
      exact .inr (Claude.Config.request_offers hr r.streamed)
    | gemini c =>
      obtain ⟨r, hr, rfl⟩ := Result.map_eq_ok h
      exact .inr (Gemini.Config.request_offers hr)
  | stream input =>
    cases settings with
    | deepSeek c =>
      obtain ⟨r, hr, rfl⟩ := Result.map_eq_ok h
      exact .inr (DeepSeek.Config.request_offers hr true)
    | qwen c =>
      obtain ⟨r, hr, rfl⟩ := Result.map_eq_ok h
      exact .inr (Qwen.Config.request_offers hr true)
    | qianfan c =>
      obtain ⟨r, hr, rfl⟩ := Result.map_eq_ok h
      exact .inr (Qianfan.Config.request_offers hr true)
    | ark c =>
      obtain ⟨r, hr, rfl⟩ := Result.map_eq_ok h
      exact .inr (Ark.ChatConfig.request_offers hr true)
    | arkResponses c =>
      obtain ⟨r, hr, rfl⟩ := Result.map_eq_ok h
      exact (Ark.Responses.Config.request_offers hr true).imp_left (⟨⟨c, rfl⟩, ·⟩)
    | claude c =>
      obtain ⟨r, hr, rfl⟩ := Result.map_eq_ok h
      exact .inr (Claude.Config.request_offers hr true)
    | gemini c =>
      obtain ⟨r, hr, rfl⟩ := Result.map_eq_ok h
      exact .inr (Gemini.Config.request_offers hr)
  | storePrompt beginning ttl =>
    cases settings with
    | arkResponses c =>
      obtain ⟨r, hr, rfl⟩ := Result.map_eq_ok h
      exact (Ark.Responses.Config.storingRequest_offers hr).imp_left (⟨⟨c, rfl⟩, ·⟩)
    | deepSeek _ | qwen _ | qianfan _ | ark _ | claude _ | gemini _ => cases h

/-- Every body that is built for a call offers the tools of the call with a choice that can be followed, or
it goes on from a stored response and says nothing of tools; for a choice that cannot be followed no other
body is built. What is built is what is sent, and a call for which nothing is built fails. -/
theorem Operation.offers_tools (m : Model) (options : ChatOptions) (operation : Operation) :
    (∀ now body, operation.body m options now = .ok body → IsFitting m options body) ∧
    (ToolChoice.Unsatisfiable options.allowedToolNames (options.toolNames m.binding)
        (options.choice m.binding) →
      ∀ now, (∃ f, operation.body m options now = .error f) ∨ ∃ body,
        operation.body m options now = .ok body ∧ (∃ c, m.settings = .arkResponses c) ∧ GoesOn body) ∧
    (operation.run m options).Asks fun r =>
      ∃ now body, operation.body m options now = .ok body ∧ r.payload = .json body := by
  refine ⟨fun now body => operation.body_isFitting, fun hrefused now => ?_,
    (operation.run_asks m options).mono fun h => h.payload⟩
  cases hbody : operation.body m options now with
  | error f => exact .inl ⟨f, rfl⟩
  | ok body =>
    rcases operation.body_isFitting hbody with hgoesOn | hoffers
    · exact .inr ⟨body, rfl, hgoesOn⟩
    · exact absurd hrefused hoffers.satisfiable

def searchModel : Model where
  settings := .arkResponses {
    apiKey := "k", baseUrl := "http://h", region := "", model := "m", maxOutputTokens := none
    temperature := none, topP := none, responseFormat := none, thinking := none, serviceTier := none
    reasoningEffort := none, sessionCache := none, webSearch := none, maxToolCalls := none
    customHeaders := .empty, http := .default, retry := .disabled }
  binding := ⟨[⟨"find", "", none⟩, ⟨"open", "", none⟩], some .allowed⟩

def forcedCall (allowedNames : List String) (previous : Option String) : ChatOptions :=
  { ChatOptions.none with
    toolChoice := some .forced
    allowedToolNames := allowedNames
    ark := some ⟨.empty, none, none, none, none, some ⟨none, previous, none⟩⟩ }

theorem Operation.offers_tools_forced :
    (∃ body, (generate []).body searchModel (forcedCall ["open"] none) 0 = .ok body ∧
      Offers Ark.Responses.offer searchModel.binding (forcedCall ["open"] none) body) ∧
    (∃ f, (generate []).body searchModel (forcedCall ["find", "open"] none) 0 = .error f) ∧
    ∃ body, (generate []).body searchModel (forcedCall ["close"] (some "r")) 0 = .ok body ∧ GoesOn body := by
  refine ⟨?_, ?_, ?_⟩
  · refine ⟨_, rfl, ?_⟩
    refine ((offers_tools searchModel _ (generate [])).1 0 _ rfl).resolve_left ?_
    rintro ⟨-, ⟨id, hid⟩, -, -⟩
    cases hid
  · have hseveral : ToolChoice.Unsatisfiable ["find", "open"] ["find", "open"] (some .forced) :=
      .several (by decide)
    refine ((offers_tools searchModel (forcedCall ["find", "open"] none) (generate [])).2.1 hseveral
      0).resolve_right ?_
    rintro ⟨body, hbody, -⟩
    cases hbody
  · have hunknown : ToolChoice.Unsatisfiable ["close"] ["find", "open"] (some .forced) :=
      .unknown (List.mem_cons_self ..) (by decide)
    rcases (offers_tools searchModel (forcedCall ["close"] (some "r")) (generate [])).2.1 hunknown 0 with
      ⟨f, hf⟩ | ⟨body, hbody, -, hgoesOn⟩
    · cases hf
    · exact ⟨body, hbody, hgoesOn⟩

end Chat

end ChatRetrieval
