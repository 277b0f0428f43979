import ChatRetrieval.Ark.Responses.Input
import ChatRetrieval.Claude.Input
import ChatRetrieval.Completions.Request
import ChatRetrieval.Gemini.Wire
import ChatRetrieval.Proofs.Json.Fields
import ChatRetrieval.Proofs.Tool.Choice

/-!
What the body of a request offers. Each wire format says in its own way which functions a model is offered
and how it may call them. It is read from the bodies here, and it is what was written into them.
-/

namespace ChatRetrieval

open Json (HasName field field? fieldList fieldText map_snd_field map_snd_field? reads_of_fields)

namespace Json

def text? (j : Json) (key : String) : Option String := (j.get? key).bind asString?

def items (j : Json) (key : String) : List Json :=
  match j.get? key with
  | some (.arr xs) => xs
  | _ => []

theorem text?_ofFields (keys : List String) {fields : List (Option (String × Json))}
    (h : List.Forall₂ HasName keys fields) (hkeys : keys.Nodup) {k v : String}
    (hm : some (k, .str v) ∈ fields) : (ofFields fields).text? k = some v := by
  rw [text?, get?_ofFields_of_mem h hkeys hm]
  rfl

theorem items_of_fieldList {α : Type} {j : Json} {key : String} {encode : α → Json} {l : List α}
    (h : j.get? key = (fieldList key encode l).map (·.2)) : j.items key = l.map encode := by
  rw [items, h]
  cases l <;> rfl

end Json

theorem filterMap_map_eq {α β γ : Type} {read : β → Option γ} {write : α → β} {known : α → γ}
    (h : ∀ a, read (write a) = some (known a)) (l : List α) :
    (l.map write).filterMap read = l.map known := by
  rw [List.filterMap_map, ← List.filterMap_eq_map]
  exact List.filterMap_congr fun a _ => h a

namespace Completions

def functionName? (tool : Json) : Option String :=
  if tool.text? "type" = some "function" then (tool.get? "function").bind (·.text? "name") else none

def readChoice? : Json → Option ResolvedChoice
  | .str mode => [("none", .none), ("auto", .auto), ("required", .required)].lookup mode
  | j => (functionName? j).map .function

def offer (body : Json) : Offer where
  functions := (body.items "tools").filterMap functionName?
  choice := (body.get? "tool_choice").bind readChoice?

theorem functionName?_of_text? {function : Json} {name : String} (h : function.text? "name" = some name) :
    functionName? (.ofFields [field "type" (.str "function"), field "function" function]) = some name := by
  have hkeys : List.Forall₂ HasName ["type", "function"]
      [field "type" (.str "function"), field "function" function] := by simp
  rw [functionName?, Json.text?_ofFields _ hkeys (by decide) (List.mem_cons_self ..), if_pos rfl,
    Json.get?_ofFields_of_mem hkeys (by decide) (List.mem_cons_of_mem _ (List.mem_cons_self ..))]
  exact h

theorem functionName?_toJson (name description : String) (parameters : Json) :
    functionName? (Tool.toJson ⟨"function", name, description, parameters⟩) = some name :=
  functionName?_of_text? (Json.text?_ofFields ["name", "description", "parameters"] (by simp) (by decide)
    (List.mem_cons_self ..))

theorem readChoice?_ofResolved (choice : ResolvedChoice) :
    readChoice? (ToolChoiceParam.ofResolved choice).toJson = some choice := by
  cases choice with
  | function name =>
    have hname : (Json.ofFields [field "name" (.str name)]).text? "name" = some name :=
      Json.text?_ofFields ["name"] (by simp) (by decide) (List.mem_cons_self ..)
    exact congrArg (Option.map ResolvedChoice.function) (functionName?_of_text? hname)
  | _ => rfl

namespace Request

def commonNames : List String := ["model", "messages", "max_tokens", "temperature", "top_p", "stop",
  "presence_penalty", "frequency_penalty", "response_format", "logprobs", "top_logprobs", "tools",
  "tool_choice", "stream", "stream_options"]

/-- What the fields of one provider must not speak of. -/
def reserved : List String := ["tools", "tool_choice", "previous_response_id"]

/-- The fields of one provider leave the tools alone. -/
def IsPlain (r : Request) : Prop := ∀ k ∈ reserved, k ∉ r.extra.map (·.1)

theorem IsPlain.addField? {r : Request} (h : r.IsPlain) (name : String) (hname : name ∉ reserved)
    {α : Type} (encode : α → Json) (value : Option α) : (r.addField? name encode value).IsPlain := by
  cases value with
  | none => exact h
  | some v =>
    intro k hk
    rw [Request.addField?, addField, List.map_append, List.map_singleton, List.mem_append,
      List.mem_singleton]
    rintro (hextra | rfl)
    · exact h k hk hextra
    · exact hname hk

variable {r : Request} (hplain : r.IsPlain)
include hplain

theorem get?_toJson :
    r.toJson.get? "tools" = (fieldList "tools" Tool.toJson r.tools).map (·.2) ∧
    r.toJson.get? "tool_choice" = r.toolChoice.map ToolChoiceParam.toJson ∧
    r.toJson.get? "previous_response_id" = none := by
  have hreads := @reads_of_fields commonNames _ { r with extra := [] }.toJson
    (congrArg Json.ofMembers (List.append_nil _)) (by simp [commonNames]) (by decide)
  have hbare {k : String} (hk : k ∈ reserved) : r.toJson.get? k = { r with extra := [] }.toJson.get? k := by
    rw [toJson, toJson, List.append_nil]
    exact Json.get?_ofMembers_append_of_notMem (hplain k hk) _
  have hprevious : { r with extra := [] }.toJson.get? "previous_response_id" = none := by
    rw [toJson, List.append_nil]
    exact @Json.get?_ofFields_of_notMem commonNames _ (by simp [commonNames]) _ (by decide)
  simp only [commonNames, List.forall₂_cons, map_snd_field?] at hreads
  obtain ⟨-, -, -, -, -, -, -, -, -, -, -, htools, hchoice, -⟩ := hreads
  exact ⟨(hbare (by decide)).trans htools, (hbare (by decide)).trans hchoice,
    (hbare (by decide)).trans hprevious⟩

theorem offer_toJson {tools : List ToolInfo} {choice : Option ResolvedChoice}
    (htools : r.tools = functionTools tools) (hchoice : r.toolChoice = choice.map .ofResolved) :
    offer r.toJson = ⟨tools.map (·.name), choice⟩ := by
  obtain ⟨htools', hchoice', -⟩ := get?_toJson hplain
  have hfunctions : (r.toJson.items "tools").filterMap functionName? = tools.map (·.name) := by
    rw [Json.items_of_fieldList htools', htools, functionTools, List.map_map]
    exact filterMap_map_eq (fun _ => functionName?_toJson ..) tools
  have hread : (r.toJson.get? "tool_choice").bind readChoice? = choice := by
    rw [hchoice', hchoice]
    cases choice with
    | none => rfl
    | some c => exact readChoice?_ofResolved c
  rw [offer, hfunctions, hread]

end Request

end Completions

namespace Ark.Responses

def functionName? (tool : Json) : Option String :=
  if tool.text? "type" = some "function" then tool.text? "name" else none

def readChoice? : Json → Option ResolvedChoice
  | .str mode => [("none", .none), ("auto", .auto), ("required", .required)].lookup mode
  | j => (functionName? j).map .function

def offer (body : Json) : Offer where
  functions := (body.items "tools").filterMap functionName?
  choice := (body.get? "tool_choice").bind readChoice?

theorem functionName?_function (name description : String) (parameters : Json) :
    functionName? (Tool.function name description parameters).toJson = some name := by
  have hkeys : List.Forall₂ HasName ["type", "name", "description", "parameters"]
      [field "type" (.str "function"), field "name" (.str name), fieldText "description" description,
        field "parameters" parameters] := by simp
  rw [functionName?, Tool.toJson, Json.text?_ofFields _ hkeys (by decide) (List.mem_cons_self ..), if_pos rfl]
  exact Json.text?_ofFields _ hkeys (by decide) (List.mem_cons_of_mem _ (List.mem_cons_self ..))

theorem functionName?_search (search : WebSearch) : functionName? (Tool.search search).toJson = none := by
  have htype : (Tool.search search).toJson.text? "type" = some "web_search" :=
    Json.text?_ofFields ["type", "limit", "user_location", "sources", "max_keyword"] (by simp) (by decide)
      (List.mem_cons_self ..)
  rw [functionName?, htype]
  rfl

theorem readChoice?_toJson (choice : ResolvedChoice) : readChoice? (choiceToJson choice) = some choice := by
  cases choice with
  | function name =>
    have hkeys : List.Forall₂ HasName ["type", "name"]
        [field "type" (.str "function"), field "name" (.str name)] := by simp
    have hname : functionName? (choiceToJson (.function name)) = some name := by
      rw [functionName?, choiceToJson, Json.text?_ofFields _ hkeys (by decide) (List.mem_cons_self ..),
        if_pos rfl]
      exact Json.text?_ofFields _ hkeys (by decide) (List.mem_cons_of_mem _ (List.mem_cons_self ..))
    exact congrArg (Option.map ResolvedChoice.function) hname
  | _ => rfl

namespace Request

variable (r : Request)

theorem get?_toJson :
    r.toJson.get? "tools" = (fieldList "tools" Tool.toJson r.tools).map (·.2) ∧
    r.toJson.get? "tool_choice" = r.toolChoice.map choiceToJson ∧
    r.toJson.get? "previous_response_id" = r.previousResponseId.map .str := by
  have hreads := @reads_of_fields ["model", "input", "max_output_tokens", "temperature", "top_p", "text",
    "thinking", "reasoning", "service_tier", "previous_response_id", "store", "expire_at", "caching", "tools",
    "tool_choice", "max_tool_calls", "stream"] _ r.toJson rfl (by simp) (by decide)
  simp only [List.forall₂_cons, map_snd_field?] at hreads
  obtain ⟨-, -, -, -, -, -, -, -, -, hprevious, -, -, -, htools, hchoice, -⟩ := hreads
  exact ⟨htools, hchoice, hprevious⟩

theorem offer_toJson {tools : List ToolInfo} {search : Option WebSearch}
    (htools : r.tools = functionTools tools ++ (search.map Tool.search).toList) :
    offer r.toJson = ⟨tools.map (·.name), r.toolChoice⟩ := by
  obtain ⟨htools', hchoice, -⟩ := r.get?_toJson
  have hsearch : ((search.map Tool.search).toList.map Tool.toJson).filterMap functionName? = [] := by
    cases search with
    | none => rfl
    | some s => exact List.filterMap_cons_none (functionName?_search s)
  have hfunctions : (r.toJson.items "tools").filterMap functionName? = tools.map (·.name) := by
    rw [Json.items_of_fieldList htools', htools, List.map_append, List.filterMap_append, hsearch,
      List.append_nil, functionTools, List.map_map]
    exact filterMap_map_eq (fun _ => functionName?_function ..) tools
  have hread : (r.toJson.get? "tool_choice").bind readChoice? = r.toolChoice := by
    rw [hchoice]
    cases r.toolChoice with
    | none => rfl
    | some c => exact readChoice?_toJson c
  rw [offer, hfunctions, hread]

end Request

end Ark.Responses

namespace Claude

def readChoice? (j : Json) : Option ResolvedChoice :=
  (j.text? "type").bind fun kind => if kind = "tool" then (j.text? "name").map .function
    else [("none", .none), ("auto", .auto), ("any", .required)].lookup kind

def offer (body : Json) : Offer where
  functions := (body.items "tools").filterMap (·.text? "name")
  choice := (body.get? "tool_choice").bind readChoice?

@[simp] theorem hasName_cacheField (cached : Bool) : HasName "cache_control" (cacheField cached) :=
  Json.hasName_ite (Json.hasName_field _ _)

theorem text?_name_toJson (t : Tool) : t.toJson.text? "name" = some t.name :=
  Json.text?_ofFields ["name", "description", "input_schema", "cache_control"] (by simp) (by decide)
    (List.mem_cons_self ..)

theorem readChoice?_toJson (p : ToolChoiceParam) : readChoice? p.toJson = some p.choice := by
  obtain ⟨choice, disableParallel⟩ := p
  have hmode (kind : String) : (Json.ofFields [field "type" (.str kind),
      field? "disable_parallel_tool_use" .bool disableParallel]).text? "type" = some kind :=
    Json.text?_ofFields ["type", "disable_parallel_tool_use"] (by simp) (by decide) (List.mem_cons_self ..)
  cases choice with
  | none => rfl
  | auto =>
    rw [readChoice?, ToolChoiceParam.toJson, hmode]
    rfl
  | required =>
    rw [readChoice?, ToolChoiceParam.toJson, hmode]
    rfl
  | function name =>
    have hkeys : List.Forall₂ HasName ["type", "name", "disable_parallel_tool_use"]
        [field "type" (.str "tool"), field "name" (.str name),
          field? "disable_parallel_tool_use" .bool disableParallel] := by simp
    have hname := Json.text?_ofFields _ hkeys (by decide) (List.mem_cons_of_mem _ (List.mem_cons_self ..))
    rw [readChoice?, ToolChoiceParam.toJson, Json.text?_ofFields _ hkeys (by decide) (List.mem_cons_self ..),
      Option.bind_some, if_pos rfl, hname]
    rfl

theorem map_changeLast {α β : Type} {f : α → α} {g : α → β} (h : ∀ a, g (f a) = g a) (l : List α) :
    (Request.changeLast f l).map g = l.map g := by
  unfold Request.changeLast
  split
  · rename_i a ha
    conv_rhs => rw [← List.dropLast_append_getLast? a ha]
    rw [List.map_append, List.map_append, List.map_singleton, List.map_singleton, h]
  · rfl

theorem Request.map_name_withCache (r : Request) :
    r.withCache.tools.map (·.name) = r.tools.map (·.name) := by
  refine map_changeLast ?_ r.tools
  exact fun _ => rfl

def Request.fieldNames : List String := ["model", "max_tokens", "system", "messages", "temperature", "top_p",
  "top_k", "stop_sequences", "thinking", "tools", "tool_choice", "stream"]

theorem Request.offer_toJson (r : Request) :
    offer r.toJson = ⟨r.tools.map (·.name), r.toolChoice.map (·.choice)⟩ ∧
    r.toJson.get? "previous_response_id" = none := by
  have hreads := @reads_of_fields fieldNames _ r.toJson rfl (by simp [fieldNames]) (by decide)
  have hprevious : r.toJson.get? "previous_response_id" = none :=
    @Json.get?_ofFields_of_notMem fieldNames _ (by simp [fieldNames]) _ (by decide)
  simp only [fieldNames, List.forall₂_cons, map_snd_field?] at hreads
  obtain ⟨-, -, -, -, -, -, -, -, -, htools, hchoice, -⟩ := hreads
  have hfunctions : (r.toJson.items "tools").filterMap (·.text? "name") = r.tools.map (·.name) := by
    rw [Json.items_of_fieldList htools]
    exact filterMap_map_eq text?_name_toJson r.tools
  have hread : (r.toJson.get? "tool_choice").bind readChoice? = r.toolChoice.map (·.choice) := by
    rw [hchoice]
    cases r.toolChoice with
    | none => rfl
    | some p => exact readChoice?_toJson p
  exact ⟨by rw [offer, hfunctions, hread], hprevious⟩

end Claude

namespace Gemini

def readChoice? (j : Json) : Option ResolvedChoice :=
  (j.text? "mode").bind fun mode => if mode = "ANY" then
      match (j.items "allowedFunctionNames").filterMap Json.asString? with
      | [] => some .required
      | [name] => some (.function name)
      | _ => none
    else [("NONE", .none), ("AUTO", .auto)].lookup mode

def offer (body : Json) : Offer where
  functions := ((body.items "tools").flatMap (·.items "functionDeclarations")).filterMap (·.text? "name")
  choice := ((body.get? "toolConfig").bind (·.get? "functionCallingConfig")).bind readChoice?

theorem text?_name_declaration (t : ToolInfo) : (declaration t).text? "name" = some t.name :=
  Json.text?_ofFields ["name", "description", "parametersJsonSchema"] (by simp) (by decide)
    (List.mem_cons_self ..)

theorem readChoice?_toolConfig (choice : ResolvedChoice) :
    ((toolConfig choice).get? "functionCallingConfig").bind readChoice? = some choice := by
  have hconfig (config : Json) : (Json.ofFields [field "functionCallingConfig" config]).get?
      "functionCallingConfig" = some config :=
    @Json.get?_ofFields_of_mem ["functionCallingConfig"] _ (by simp) (by decide) _ _ (List.mem_cons_self ..)
  rw [toolConfig, hconfig, Option.bind_some]
  have hreads := reads_of_fields ["mode", "allowedFunctionNames"] (Eq.refl (Json.ofFields
    [field "mode" (.str (callingMode choice).1),
      fieldList "allowedFunctionNames" .str (callingMode choice).2])) (by simp) (by decide)
  simp only [List.forall₂_cons, map_snd_field] at hreads
  obtain ⟨hmode, hnames, -⟩ := hreads
  rw [readChoice?, Json.text?, hmode, Json.items_of_fieldList hnames]
  cases choice <;> rfl

theorem functions_toolList (r : Request) :
    (r.toolList.flatMap (·.items "functionDeclarations")).filterMap (·.text? "name") =
      r.tools.map (·.name) := by
  have hcode : (if r.codeExecution then [Json.ofFields [field "codeExecution" (.obj [])]] else []).flatMap
      (·.items "functionDeclarations") = [] := by
    cases r.codeExecution <;> rfl
  have hdeclared (l : List Json) : (Json.ofFields [field "functionDeclarations" (.arr l)]).items
      "functionDeclarations" = l := by
    have hget := @Json.get?_ofFields_of_mem ["functionDeclarations"] [field "functionDeclarations" (.arr l)]
      (by simp) (by decide) _ _ (List.mem_cons_self ..)
    rw [Json.items, hget]
  have htools : (if r.tools.isEmpty then []
      else [Json.ofFields [field "functionDeclarations" (.arr (r.tools.map declaration))]]).flatMap
      (·.items "functionDeclarations") = r.tools.map declaration := by
    split
    · rename_i hempty
      rw [List.isEmpty_iff.1 hempty]
      rfl
    · rw [List.flatMap_singleton, hdeclared]
  rw [Request.toolList, List.flatMap_append, hcode, htools, List.append_nil]
  exact filterMap_map_eq text?_name_declaration r.tools

def Request.fieldNames : List String :=
  ["contents", "systemInstruction", "tools", "toolConfig", "generationConfig", "safetySettings"]

theorem Request.offer_toJson (r : Request) : offer r.toJson = ⟨r.tools.map (·.name), r.toolChoice⟩ ∧
    r.toJson.get? "previous_response_id" = none := by
  have hreads := @reads_of_fields fieldNames _ r.toJson rfl (by simp [fieldNames]) (by decide)
  have hprevious : r.toJson.get? "previous_response_id" = none :=
    @Json.get?_ofFields_of_notMem fieldNames _ (by simp [fieldNames]) _ (by decide)
  simp only [fieldNames, List.forall₂_cons, map_snd_field?] at hreads
  obtain ⟨-, -, htools, hchoice, -⟩ := hreads
  have hread : ((r.toJson.get? "toolConfig").bind (·.get? "functionCallingConfig")).bind readChoice? =
      r.toolChoice := by
    rw [hchoice]
    cases r.toolChoice with
    | none => rfl
    | some c => exact readChoice?_toolConfig c
  refine ⟨?_, hprevious⟩
  rw [offer, Json.items_of_fieldList htools, List.map_id, functions_toolList, hread]

end Gemini

end ChatRetrieval
