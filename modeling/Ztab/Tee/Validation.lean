import Ztab.Json.Readings
import Ztab.Tee.ValidateNode

set_option autoImplicit false

/-!
# Validation of a truncated value

The schema is truncated at the same depth as the value, so a value cut off below
the reach of the schema is as valid as the whole.
-/

namespace Ztab

theorem validateElements_map {validate validate' : Json → Outcome Unit} {change : Json → Json}
    (same : ∀ element, validate (change element) = validate' element) (elements : List Json)
    (index : Nat) :
    validateElements validate index (elements.map change) = validateElements validate' index elements := by
  induction elements generalizing index with
  | nil => rfl
  | cons head rest ih =>
    simp only [List.map_cons, validateElements, same, ih]

theorem member_clip (bound : Nat) (members : List (String × Json)) (key : String) :
    ((Json.object members).clip (bound + 1)).member key =
      ((Json.object members).member key).map (Json.clip bound) :=
  OrderedMap.find_map (Json.clip bound) key members

theorem validateFields_clip (bound : Nat) (members : List (String × Json)) (fields : List Json) :
    validateFields ((Json.object members).clip (bound + 1)) fields =
      validateFields (.object members) fields := by
  induction fields with
  | nil => rfl
  | cons head rest ih => simp only [validateFields, member_clip, Option.isNone_map, ih]

theorem items_clip_any (bound : Nat) (members : List (String × Json)) (test : String → Bool) :
    ((Json.object members).clip (bound + 1)).items.any (fun member => test member.1) =
      (Json.object members).items.any (fun member => test member.1) := by
  simp [Json.clip, Json.items, List.any_map, Function.comp_def]

section Clip

variable (partialMatch : PartialMatch) {validate : Json → Json → Outcome Unit} {bound : Nat}
  (within : ∀ value schema : Json, schema.depth ≤ bound →
    validate (value.clip bound) schema = validate value schema)
include within

theorem validateArray_clip (elements : List Json) (schema : Json) (shallow : schema.depth ≤ bound + 1) :
    validateArray validate (elements.map (Json.clip bound)) schema =
      validateArray validate elements schema := by
  unfold validateArray validateItems
  rw [List.length_map]
  cases found : schema.member "items" with
  | none => rfl
  | some items =>
    have nested := Json.depth_member found
    have same : validateElements (fun element => validate element items) 0
          (elements.map (Json.clip bound)) =
        validateElements (fun element => validate element items) 0 elements :=
      validateElements_map (fun element => within element items (by omega)) elements 0
    simp only [same]

theorem validateDeclared_clip (members properties : List (String × Json))
    (shallow : ∀ key schema, (key, schema) ∈ properties → schema.depth ≤ bound) :
    validateDeclared validate ((Json.object members).clip (bound + 1)) properties =
      validateDeclared validate (.object members) properties := by
  induction properties with
  | nil => rfl
  | cons head rest ih =>
    obtain ⟨key, schema⟩ := head
    have first : validateProperty validate ((Json.object members).clip (bound + 1)) key schema =
        validateProperty validate (.object members) key schema := by
      unfold validateProperty
      rw [member_clip]
      cases (Json.object members).member key with
      | none => rfl
      | some held =>
        simp only [Option.map_some, within held schema (shallow key schema (List.mem_cons_self ..))]
    simp only [validateDeclared, first,
      ih (fun key schema listed => shallow key schema (List.mem_cons_of_mem _ listed))]

theorem validateObject_clip (members : List (String × Json)) (schema : Json)
    (shallow : schema.depth ≤ bound + 1) :
    validateObject validate ((Json.object members).clip (bound + 1)) schema =
      validateObject validate (.object members) schema := by
  have required : validateRequired ((Json.object members).clip (bound + 1)) schema =
      validateRequired (.object members) schema := by
    unfold validateRequired
    cases schema.member "required" with
    | none => rfl
    | some fields => exact validateFields_clip bound members fields.iterate
  have additional : validateAdditional ((Json.object members).clip (bound + 1)) schema =
      validateAdditional (.object members) schema := by
    unfold validateAdditional
    simp only [items_clip_any bound members (fun key => !declares schema key)]
  have properties : validateProperties validate ((Json.object members).clip (bound + 1)) schema =
      validateProperties validate (.object members) schema := by
    unfold validateProperties
    cases found : schema.member "properties" with
    | none => rfl
    | some properties =>
      have nested := Json.depth_member found
      refine validateDeclared_clip within members properties.items fun key held listed => ?_
      have := Json.depth_items listed
      omega
  simp only [validateObject, required, additional, properties]

theorem validateType_clip (type : String) (value schema : Json) (shallow : schema.depth ≤ bound + 1) :
    validateType partialMatch validate type (value.clip (bound + 1)) schema =
      validateType partialMatch validate type value schema := by
  cases value with
  | array elements =>
    have same := validateArray_clip within elements schema shallow
    simp only [Json.clip, validateType, expected, Json.typeName, same]
  | object members =>
    have same := validateObject_clip within members schema shallow
    simp only [Json.clip] at same
    simp only [Json.clip, validateType, expected, Json.typeName, same]
  | _ => rfl

end Clip

theorem validateWithin_clip (partialMatch : PartialMatch) (fuel bound : Nat) (value schema : Json)
    (shallow : schema.depth ≤ bound) :
    validateWithin partialMatch fuel (value.clip bound) schema =
      validateWithin partialMatch fuel value schema := by
  induction fuel generalizing bound value schema with
  | zero => rfl
  | succ fuel ih =>
    simp only [validateWithin, validateLevel]
    cases found : schema.member "type" with
    | none => rfl
    | some held =>
      have nested := Json.depth_member found
      obtain ⟨smaller, rfl⟩ : ∃ smaller, bound = smaller + 1 := ⟨bound - 1, by omega⟩
      simp only [validateType_clip partialMatch (fun value schema shallow =>
        ih smaller value schema shallow) _ value schema shallow]

theorem validateNode_clip (partialMatch : PartialMatch) (bound : Nat) (value schema : Json)
    (shallow : schema.depth ≤ bound) :
    validateNode partialMatch (value.clip bound) schema = validateNode partialMatch value schema :=
  validateWithin_clip partialMatch (schema.depth + 1) bound value schema shallow

theorem parseJsonSafely_eq (json : Nlohmann) (text : Bytes) :
    parseJsonSafely json text =
      if (json.read text).numbers.any NumberLiteral.overflows then .error (.raised .outOfRange)
      else
        match json.read text with
        | .malformed what _ =>
          refuse .invalidArgument ("JSON parse error (possibly exceeded max depth " ++
            toString kMaxJsonParseDepth ++ "): " ++ what)
        | .complete tree => .ok ((tree.readAs .lastWins).clip kMaxJsonParseDepth) := by
  unfold parseJsonSafely Nlohmann.parse
  by_cases overflows : (json.read text).numbers.any NumberLiteral.overflows = true
  · simp only [if_pos overflows]
  · simp only [if_neg overflows]
    cases json.read text with
    | malformed what met => rfl
    | complete tree =>
      have limited := JsonText.toJson_limited kMaxJsonParseDepth tree 0 (Nat.zero_le _)
      simp only [Nat.zero_le, decide_true, if_true, limited, Nat.sub_zero]

theorem parseJsonSafely_ok {json : Nlohmann} {text : Bytes} {value : Json}
    (parsed : parseJsonSafely json text = .ok value) :
    ∃ tree, json.read text = .complete tree ∧
      value = (tree.readAs .lastWins).clip kMaxJsonParseDepth := by
  rw [parseJsonSafely_eq] at parsed
  split_ifs at parsed
  cases read : json.read text with
  | malformed what met => simp [read, refuse] at parsed
  | complete tree =>
    simp only [read] at parsed
    cases parsed
    exact ⟨tree, rfl, rfl⟩

theorem parseJsonSafely_of_parse {json : Nlohmann} {text : Bytes} {value : Json}
    (parsed : json.parse text (fun _ => true) = .ok value) :
    parseJsonSafely json text = .ok (value.clip kMaxJsonParseDepth) := by
  simp only [Nlohmann.parse, if_true] at parsed
  rw [parseJsonSafely_eq]
  split_ifs at parsed with overflows
  rw [if_neg overflows]
  cases read : json.read text with
  | malformed what met => simp [read] at parsed
  | complete tree =>
    simp only [read, Except.ok.injEq] at parsed
    rw [← parsed]
    rfl

theorem validateJsonSchema_ok {json : Nlohmann} {partialMatch : PartialMatch} {text : Bytes}
    {schemaJson : String} (valid : validateJsonSchema json partialMatch text schemaJson = .ok ()) :
    ∃ tree schema, json.read text = .complete tree ∧
      parseJsonSafely json (utf8 schemaJson) = .ok schema ∧
      validateNode partialMatch (tree.readAs .lastWins) schema = .ok () := by
  unfold validateJsonSchema at valid
  split at valid
  next => cases valid
  next value parsed =>
    obtain ⟨tree, read, rfl⟩ := parseJsonSafely_ok parsed
    split at valid
    next => cases valid
    next => cases valid
    next schema schemaParsed =>
      obtain ⟨schemaTree, -, rfl⟩ := parseJsonSafely_ok schemaParsed
      have shallow := Json.depth_clip kMaxJsonParseDepth (schemaTree.readAs .lastWins)
      rw [validateNode_clip partialMatch kMaxJsonParseDepth _ _ shallow] at valid
      exact ⟨tree, _, read, schemaParsed, valid⟩

end Ztab
