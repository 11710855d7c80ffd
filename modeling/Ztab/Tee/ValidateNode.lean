import Ztab.Tee.Status

set_option autoImplicit false

namespace Ztab

-- `RE2::PartialMatch(text, pattern)`, false also for a pattern that does not compile.
abbrev PartialMatch := String → String → Bool

namespace Outcome

def ofException {α : Type} : Except JsonException α → Outcome α
  | .ok value => .ok value
  | .error exception => .error (.raised exception)

-- Every failing status is passed on as InvalidArgument under a longer message.
def within (context : String) : Outcome Unit → Outcome Unit
  | .error (.status status) => refuse .invalidArgument (context ++ status.message)
  | other => other

theorem within_ok_iff (context : String) (outcome : Outcome Unit) :
    outcome.within context = .ok () ↔ outcome = .ok () := by
  unfold within
  split
  next status => simp [refuse]
  next => rfl

end Outcome

def expected (type : String) (value : Json) : Outcome Unit :=
  refuse .invalidArgument ("Expected " ++ type ++ ", got " ++ value.typeName)

def validatePattern (partialMatch : PartialMatch) (text : String) (schema : Json) : Outcome Unit :=
  match schema.member "pattern" with
  | none => .ok ()
  | some held => do
    let pattern ← Outcome.ofException held.getString
    if partialMatch text pattern then .ok ()
    else refuse .invalidArgument ("String does not match pattern '" ++ pattern ++ "'")

def validateMinItems (size : Nat) (schema : Json) : Outcome Unit :=
  match schema.member "minItems" with
  | none => .ok ()
  | some held => do
    let bound ← Outcome.ofException held.getInt
    if (size : Int) < bound then refuse .invalidArgument "Array has fewer items than minItems"
    else .ok ()

def validateMaxItems (size : Nat) (schema : Json) : Outcome Unit :=
  match schema.member "maxItems" with
  | none => .ok ()
  | some held => do
    let bound ← Outcome.ofException held.getInt
    if (size : Int) > bound then refuse .invalidArgument "Array has more items than maxItems"
    else .ok ()

def validateElements (validate : Json → Outcome Unit) : Nat → List Json → Outcome Unit
  | _, [] => .ok ()
  | index, element :: rest => do
    (validate element).within ("Array item " ++ toString index ++ ": ")
    validateElements validate (index + 1) rest

def validateItems (validate : Json → Json → Outcome Unit) (elements : List Json) (schema : Json) :
    Outcome Unit :=
  match schema.member "items" with
  | none => .ok ()
  | some items => validateElements (fun element => validate element items) 0 elements

def validateFields (value : Json) : List Json → Outcome Unit
  | [] => .ok ()
  | required :: rest => do
    let field ← Outcome.ofException required.getString
    if (value.member field).isNone then
      refuse .invalidArgument ("Missing required field: '" ++ field ++ "'")
    else validateFields value rest

def validateRequired (value schema : Json) : Outcome Unit :=
  match schema.member "required" with
  | none => .ok ()
  | some required => validateFields value required.iterate

def declares (schema : Json) (key : String) : Bool :=
  match schema.member "properties" with
  | none => false
  | some properties => (properties.member key).isSome

def validateAdditional (value schema : Json) : Outcome Unit :=
  match schema.member "additionalProperties" with
  | none => .ok ()
  | some held => do
    let additional ← Outcome.ofException held.getBool
    if additional = false ∧ value.items.any (fun member => !declares schema member.1) then
      refuse .invalidArgument "Unexpected field present in object"
    else .ok ()

def validateProperty (validate : Json → Json → Outcome Unit) (value : Json) (key : String)
    (propSchema : Json) : Outcome Unit :=
  match value.member key with
  | none => .ok ()
  | some held => (validate held propSchema).within ("Field '" ++ key ++ "': ")

def validateDeclared (validate : Json → Json → Outcome Unit) (value : Json) :
    List (String × Json) → Outcome Unit
  | [] => .ok ()
  | (key, propSchema) :: rest => do
    validateProperty validate value key propSchema
    validateDeclared validate value rest

def validateProperties (validate : Json → Json → Outcome Unit) (value schema : Json) :
    Outcome Unit :=
  match schema.member "properties" with
  | none => .ok ()
  | some properties => validateDeclared validate value properties.items

def validateArray (validate : Json → Json → Outcome Unit) (elements : List Json) (schema : Json) :
    Outcome Unit := do
  validateMinItems elements.length schema
  validateMaxItems elements.length schema
  validateItems validate elements schema

def validateObject (validate : Json → Json → Outcome Unit) (value schema : Json) :
    Outcome Unit := do
  validateRequired value schema
  validateAdditional value schema
  validateProperties validate value schema

-- One branch for each supported type; a type name outside the list constrains nothing.
def validateType (partialMatch : PartialMatch) (validate : Json → Json → Outcome Unit)
    (type : String) (value schema : Json) : Outcome Unit :=
  if type = "string" then
    match value with
    | .string text => validatePattern partialMatch text schema
    | other => expected "string" other
  else if type = "array" then
    match value with
    | .array elements => validateArray validate elements schema
    | other => expected "array" other
  else if type = "object" then
    match value with
    | .object members => validateObject validate (.object members) schema
    | other => expected "object" other
  else if type = "number" then
    match value with
    | .integer _ | .float _ => .ok ()
    | other => expected "number" other
  else if type = "integer" then
    match value with
    | .integer _ => .ok ()
    | other => expected "integer" other
  else if type = "boolean" then
    match value with
    | .boolean _ => .ok ()
    | other => expected "boolean" other
  else .ok ()

-- `validate` stands for the recursive call on an element or a property.
def validateLevel (partialMatch : PartialMatch) (validate : Json → Json → Outcome Unit)
    (value schema : Json) : Outcome Unit :=
  match schema.member "type" with
  | none => .ok ()
  | some held => do
    let type ← Outcome.ofException held.getString
    validateType partialMatch validate type value schema

-- Each call goes at least one level down the schema, so its depth is enough fuel.
def validateWithin (partialMatch : PartialMatch) : Nat → Json → Json → Outcome Unit
  | 0, _, _ => .ok ()
  | fuel + 1, value, schema =>
    validateLevel partialMatch (validateWithin partialMatch fuel) value schema

def validateNode (partialMatch : PartialMatch) (value schema : Json) : Outcome Unit :=
  validateWithin partialMatch (schema.depth + 1) value schema

def validateJsonSchema (json : Nlohmann) (partialMatch : PartialMatch) (text : Bytes)
    (schemaJson : String) : Outcome Unit :=
  match parseJsonSafely json text with
  | .error failure => .error failure
  | .ok value =>
    match parseJsonSafely json (utf8 schemaJson) with
    | .error (.status status) => refuse .internal ("Invalid schema JSON: " ++ status.message)
    | .error raised => .error raised
    | .ok schema => validateNode partialMatch value schema

end Ztab
