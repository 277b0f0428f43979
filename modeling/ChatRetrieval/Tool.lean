import ChatRetrieval.Failure

/-!
Tools a model may call, the JSON schema of their parameters, and the choice among them.
-/

namespace ChatRetrieval

open Json (field field?)

inductive DataType where
  | object
  | number
  | integer
  | string
  | array
  | null
  | boolean
  deriving DecidableEq, Repr

namespace DataType

def name : DataType → String
  | object => "object"
  | number => "number"
  | integer => "integer"
  | string => "string"
  | array => "array"
  | null => "null"
  | boolean => "boolean"

def decode : Decoder DataType :=
  Decode.oneOf ([object, number, integer, string, array, null, boolean].map fun t => (t.name, t))

end DataType

/-- A parameter: its type, what it is for, the texts it is limited to, whether it must be given, its
elements when it is an array and its fields, in name order, when it is an object. -/
inductive Parameter where
  | mk (type : DataType) (description : String) (choices : List String) (isRequired : Bool)
      (element : Option Parameter) (fields : List (String × Parameter))

namespace Parameter

def isRequired : Parameter → Bool
  | mk _ _ _ r _ _ => r

/-- The names of the parameters that must be given. -/
def requiredNames (ps : List (String × Parameter)) : List String :=
  (ps.filter fun p => p.2.isRequired).map (·.1)

mutual

/-- The JSON schema of a parameter. -/
def schema : Parameter → Json
  | mk type description choices _ element fields =>
    let names := if type = .object then requiredNames fields else []
    .ofFields [
      field "type" (.str type.name),
      if description.isEmpty then none else field "description" (.str description),
      if choices.isEmpty then none else field "enum" (.ofStrings choices),
      elementSchema element,
      if type = .object then field "properties" (.ofMembers (schemas fields)) else none,
      if names.isEmpty then none else field "required" (.ofStrings names)]

def elementSchema : Option Parameter → Option (String × Json)
  | none => none
  | some p => some ("items", schema p)

def schemas : List (String × Parameter) → List (String × Json)
  | [] => []
  | (name, p) :: r => (name, schema p) :: schemas r

end

mutual

/-- All fields of a parameter, given or not. -/
def toJson : Parameter → Json
  | mk type description choices isRequired element fields => .ofFields [
      field "type" (.str type.name), field "desc" (.str description),
      field "enum_values" (.ofStrings choices), field "required" (.bool isRequired),
      field "elem_info" (elementToJson element), field "sub_params" (.ofMembers (fieldsToJson fields))]

def elementToJson : Option Parameter → Json
  | none => .null
  | some p => toJson p

def fieldsToJson : List (String × Parameter) → List (String × Json)
  | [] => []
  | (name, p) :: r => (name, toJson p) :: fieldsToJson r

end

/-- Decodes a parameter nested at most so deep. -/
def decodeWithin : Nat → Decoder Parameter
  | 0, _ => none
  | depth + 1, j => do
    let r ← Decode.record ["type", "desc", "enum_values", "required", "elem_info", "sub_params"] j
    let type ← r.required "type" DataType.decode
    let description ← r.text "desc"
    let choices ← r.listOf "enum_values" Decode.string
    let isRequired ← r.withDefault "required" false Decode.bool
    let element ← r.maybe "elem_info" (decodeWithin depth)
    let fields ← r.withDefault "sub_params" Dict.empty (Decode.dict (decodeWithin depth))
    return mk type description choices isRequired element fields.entries

end Parameter

/-- Parameters described one by one, or a schema as it is. -/
inductive ToolParams where
  | described (params : List (String × Parameter))
  | schema (schema : Json)

structure ToolInfo where
  name : String
  description : String
  params : Option ToolParams

namespace ToolParams

/-- The JSON schema of all parameters as one object. -/
def toSchema : ToolParams → Json
  | schema s => s
  | described ps =>
    let names := Parameter.requiredNames ps
    .ofFields [
      field "type" (.str "object"), field "properties" (.ofMembers (Parameter.schemas ps)),
      if names.isEmpty then none else field "required" (.ofStrings names)]

def toJson : ToolParams → Json
  | described ps => .ofFields [field "params" (.ofMembers (Parameter.fieldsToJson ps))]
  | schema s => .ofFields [field "json_schema" s]

def decodeDescribed (depth : Nat) (j : Json) : Option ToolParams := do
  let ps ← Decode.dict (Parameter.decodeWithin depth) j
  return described ps.entries

def decode : Decoder ToolParams
  | .obj [("params", j)] => decodeDescribed j.depth j
  | .obj [("json_schema", j)] => some (schema j.canonical)
  | _ => none

end ToolParams

namespace ToolInfo

/-- The schema of an object without properties. -/
def emptySchema : Json :=
  .ofFields [field "type" (.str "object"), field "properties" (.obj [])]

/-- The schema of a tool's parameters; of none when nothing is declared. -/
def schema (t : ToolInfo) : Json :=
  match t.params with
  | some p => p.toSchema
  | none => emptySchema

def toJson (t : ToolInfo) : Json := .ofFields [
  field "name" (.str t.name), field "desc" (.str t.description),
  field "params" (match t.params with
    | some p => p.toJson
    | none => .null)]

def decode : Decoder ToolInfo := fun j => do
  let r ← Decode.record ["name", "desc", "params"] j
  return ⟨← r.required "name" Decode.string, ← r.required "desc" Decode.string,
    ← r.maybe "params" ToolParams.decode⟩

end ToolInfo

/-- How a model may use its tools. -/
inductive ToolChoice where
  | forbidden
  | allowed
  | forced
  deriving DecidableEq, Repr

/-- What the choice comes to for given tools. -/
inductive ResolvedChoice where
  | none
  | auto
  | required
  | function (name : String)
  deriving DecidableEq, Repr

namespace ToolChoice

def decode : Decoder ToolChoice :=
  Decode.oneOf [("forbidden", forbidden), ("allowed", allowed), ("forced", forced)]

/-- Resolves a forced choice. A lone tool or a lone allowed name is called by name. -/
def resolveForced (allowedNames toolNames : List String) : Result ResolvedChoice :=
  match toolNames, allowedNames with
  | [], _ => .error Cause.forcedWithoutTools.failure
  | [tool], [] => .ok (.function tool)
  | _, [] => .ok .required
  | tools, [name] =>
    if tools.contains name then .ok (.function name)
    else .error (Cause.unknownAllowedTool name).failure
  | _, _ => .error Cause.tooManyAllowedTools.failure

/-- Resolves a choice among the named tools; allowed names narrow a forced choice only. -/
def resolve (choice : Option ToolChoice) (allowedNames toolNames : List String) :
    Result (Option ResolvedChoice) :=
  match choice with
  | none => .ok none
  | some forbidden => .ok (some .none)
  | some allowed =>
    if allowedNames.isEmpty then .ok (some .auto)
    else .error Cause.allowedWithToolNames.failure
  | some forced => (resolveForced allowedNames toolNames).map some

end ToolChoice

end ChatRetrieval
