import Ztab.Shared.Effect
import Ztab.Tee.ValidateNode

set_option autoImplicit false

/-!
# The meaning of a schema

What the documented keywords ask of a value, whatever the node's type, and the nodes at which the
validator asks it.
-/

namespace Ztab

section Recursion

variable {validate validate' : Json → Json → Outcome Unit} {schema : Json}
  (agree : ∀ value nested : Json, nested.depth < schema.depth →
    validate value nested = validate' value nested)
include agree

theorem validateArray_congr (elements : List Json) :
    validateArray validate elements schema = validateArray validate' elements schema := by
  unfold validateArray validateItems
  cases found : schema.member "items" with
  | none => rfl
  | some items =>
    have nested := Json.depth_member found
    simp only [agree _ items nested]

theorem validateDeclared_congr (value : Json) (properties : List (String × Json))
    (shallow : ∀ key nested, (key, nested) ∈ properties → nested.depth < schema.depth) :
    validateDeclared validate value properties = validateDeclared validate' value properties := by
  induction properties with
  | nil => rfl
  | cons head rest ih =>
    obtain ⟨key, nested⟩ := head
    have first : validateProperty validate value key nested =
        validateProperty validate' value key nested := by
      unfold validateProperty
      cases value.member key with
      | none => rfl
      | some held => simp only [agree held nested (shallow key nested (List.mem_cons_self ..))]
    have others := ih fun key nested listed => shallow key nested (List.mem_cons_of_mem _ listed)
    simp only [validateDeclared, first, others]

theorem validateObject_congr (value : Json) :
    validateObject validate value schema = validateObject validate' value schema := by
  have same : validateProperties validate value schema =
      validateProperties validate' value schema := by
    unfold validateProperties
    cases found : schema.member "properties" with
    | none => rfl
    | some properties =>
      have nested := Json.depth_member found
      refine validateDeclared_congr agree value properties.items fun key held listed => ?_
      have := Json.depth_items listed
      omega
  simp only [validateObject, same]

theorem validateLevel_congr (partialMatch : PartialMatch) (value : Json) :
    validateLevel partialMatch validate value schema =
      validateLevel partialMatch validate' value schema := by
  unfold validateLevel validateType
  cases value with
  | array elements => simp only [validateArray_congr agree elements]
  | object members => simp only [validateObject_congr agree (.object members)]
  | _ => rfl

end Recursion

theorem validateWithin_enough (partialMatch : PartialMatch) (fuel other : Nat) (value schema : Json)
    (enough : schema.depth < fuel) (enough' : schema.depth < other) :
    validateWithin partialMatch fuel value schema = validateWithin partialMatch other value schema := by
  induction fuel generalizing other value schema with
  | zero => omega
  | succ fuel ih =>
    obtain ⟨smaller, rfl⟩ : ∃ smaller, other = smaller + 1 := ⟨other - 1, by omega⟩
    simp only [validateWithin]
    apply validateLevel_congr
    intro element nested shallower
    exact ih smaller element nested (by omega) (by omega)

-- The recursion of the source: the fuel is never used up.
theorem validateNode_eq (partialMatch : PartialMatch) (value schema : Json) :
    validateNode partialMatch value schema =
      validateLevel partialMatch (validateNode partialMatch) value schema := by
  unfold validateNode
  simp only [validateWithin]
  apply validateLevel_congr
  intro element nested shallower
  exact validateWithin_enough partialMatch schema.depth (nested.depth + 1) element nested shallower
    (by omega)

namespace Json

def hasType (name : String) : Json → Bool
  | .null => name = "null"
  | .boolean _ => name = "boolean"
  | .integer _ => name = "integer" || name = "number"
  | .float _ => name = "number"
  | .string _ => name = "string"
  | .array _ => name = "array"
  | .object _ => name = "object"

def wholeNumber? : Json → Option Int
  | .integer value => some value
  | .float value => if value.isWhole then some value.truncate else none
  | _ => none

-- `type` is a name or a list of names; a name outside the standard is the type of no value.
def AllowsType (value : Json) : Json → Prop
  | .string name => value.hasType name = true
  | .array names => ∃ name, .string name ∈ names ∧ value.hasType name = true
  | _ => True

end Json

/-- One node on its own: every keyword it has, in the form the standard gives it, holds of the
value; a keyword is about values of its type and says nothing of others. -/
structure Obeys (partialMatch : PartialMatch) (value schema : Json) : Prop where
  allowed : schema ≠ .boolean false
  type : ∀ held, schema.member "type" = some held → value.AllowsType held
  pattern : ∀ pattern text, schema.member "pattern" = some (.string pattern) →
    value = .string text → partialMatch text pattern = true
  minItems : ∀ held bound elements, schema.member "minItems" = some held →
    held.wholeNumber? = some bound → value = .array elements → bound ≤ elements.length
  maxItems : ∀ held bound elements, schema.member "maxItems" = some held →
    held.wholeNumber? = some bound → value = .array elements → (elements.length : Int) ≤ bound
  required : ∀ fields field members, schema.member "required" = some (.array fields) →
    .string field ∈ fields → value = .object members → (value.member field).isSome = true
  additionalProperties : ∀ members, schema.member "additionalProperties" = some (.boolean false) →
    value = .object members → ∀ key held, (key, held) ∈ members → declares schema key = true

/-- The parts of the value that a node of the schema applies to. A list of schemas under `items`
is read position by position, as JSON Schema did up to draft 2019-09. -/
inductive NodeApplies : Json → Json → Json → Json → Prop
  | here (value schema : Json) : NodeApplies value schema value schema
  | item {elements : List Json} {element schema items part node : Json}
      (listed : element ∈ elements) (declared : schema.member "items" = some items)
      (below : NodeApplies element items part node) : NodeApplies (.array elements) schema part node
  | position {elements schemas : List Json} {index : Nat} {element schema nested part node : Json}
      (declared : schema.member "items" = some (.array schemas))
      (listed : schemas[index]? = some nested) (present : elements[index]? = some element)
      (below : NodeApplies element nested part node) : NodeApplies (.array elements) schema part node
  | property {members : List (String × Json)} {key : String} {held value schema nested part node : Json}
      (declared : schema.member "properties" = some (.object members))
      (listed : (key, nested) ∈ members) (present : value.member key = some held)
      (below : NodeApplies held nested part node) : NodeApplies value schema part node

def Satisfies (partialMatch : PartialMatch) (value schema : Json) : Prop :=
  ∀ part node, NodeApplies value schema part node → Obeys partialMatch part node

section Satisfies

variable {partialMatch : PartialMatch} {value schema : Json}

theorem Satisfies.item {elements : List Json} {element items : Json}
    (satisfies : Satisfies partialMatch (.array elements) schema)
    (declared : schema.member "items" = some items) (listed : element ∈ elements) :
    Satisfies partialMatch element items :=
  fun part node below => satisfies part node (.item listed declared below)

theorem Satisfies.position {elements schemas : List Json} {element nested : Json} {index : Nat}
    (satisfies : Satisfies partialMatch (.array elements) schema)
    (declared : schema.member "items" = some (.array schemas))
    (listed : schemas[index]? = some nested) (present : elements[index]? = some element) :
    Satisfies partialMatch element nested :=
  fun part node below => satisfies part node (.position declared listed present below)

theorem Satisfies.property {members : List (String × Json)} {key : String} {held nested : Json}
    (satisfies : Satisfies partialMatch value schema)
    (declared : schema.member "properties" = some (.object members))
    (listed : (key, nested) ∈ members) (present : value.member key = some held) :
    Satisfies partialMatch held nested :=
  fun part node below => satisfies part node (.property declared listed present below)

theorem satisfies_of_level (obeys : Obeys partialMatch value schema)
    (items : ∀ elements, value = .array elements → ∀ items, schema.member "items" = some items →
      ∀ element ∈ elements, Satisfies partialMatch element items)
    (positions : ∀ elements, value = .array elements →
      ∀ schemas, schema.member "items" = some (.array schemas) →
        ∀ (index : Nat) nested element, schemas[index]? = some nested →
          elements[index]? = some element → Satisfies partialMatch element nested)
    (properties : ∀ members, schema.member "properties" = some (.object members) →
      ∀ key nested, (key, nested) ∈ members → ∀ held, value.member key = some held →
        Satisfies partialMatch held nested) : Satisfies partialMatch value schema := by
  intro part node reached
  cases reached with
  | here => exact obeys
  | item listed declared below => exact items _ rfl _ declared _ listed part node below
  | position declared listed present below =>
    exact positions _ rfl _ declared _ _ _ listed present part node below
  | property declared listed present below =>
    exact properties _ declared _ _ listed _ present part node below

end Satisfies

def supportedTypes : List String := ["string", "array", "object", "number", "integer", "boolean"]

def PatternMet (partialMatch : PartialMatch) (text : String) (schema : Json) : Prop :=
  ∀ held, schema.member "pattern" = some held →
    ∃ pattern, held = .string pattern ∧ partialMatch text pattern = true

def MinItemsMet (size : Nat) (schema : Json) : Prop :=
  ∀ held, schema.member "minItems" = some held → ∃ bound, held.getInt = .ok bound ∧ bound ≤ size

def MaxItemsMet (size : Nat) (schema : Json) : Prop :=
  ∀ held, schema.member "maxItems" = some held → ∃ bound, held.getInt = .ok bound ∧ (size : Int) ≤ bound

def FieldPresent (value entry : Json) : Prop :=
  ∃ field, entry = .string field ∧ (value.member field).isSome = true

def RequiredMet (value schema : Json) : Prop :=
  ∀ held, schema.member "required" = some held → ∀ entry ∈ held.iterate, FieldPresent value entry

def AdditionalMet (value schema : Json) : Prop :=
  ∀ held, schema.member "additionalProperties" = some held → ∃ additional, held = .boolean additional ∧
    (additional = false → ∀ member ∈ value.items, declares schema member.1 = true)

def Typed (schema : Json) (type : String) : Prop := schema.member "type" = some (.string type)

/-- One node on its own: the keywords that the branch for its type looks at. -/
structure Passes (partialMatch : PartialMatch) (value schema : Json) : Prop where
  type : ∀ held, schema.member "type" = some held →
    ∃ name, held = .string name ∧ (name ∈ supportedTypes → value.hasType name = true)
  pattern : Typed schema "string" → ∀ text, value = .string text → PatternMet partialMatch text schema
  minItems : Typed schema "array" → ∀ elements, value = .array elements →
    MinItemsMet elements.length schema
  maxItems : Typed schema "array" → ∀ elements, value = .array elements →
    MaxItemsMet elements.length schema
  required : Typed schema "object" → ∀ members, value = .object members → RequiredMet value schema
  additionalProperties : Typed schema "object" → ∀ members, value = .object members →
    AdditionalMet value schema

inductive Walks : Json → Json → Json → Json → Prop
  | here (value schema : Json) : Walks value schema value schema
  | item {elements : List Json} {element schema items part node : Json} (typed : Typed schema "array")
      (listed : element ∈ elements) (declared : schema.member "items" = some items)
      (below : Walks element items part node) : Walks (.array elements) schema part node
  | property {members : List (String × Json)} {key : String}
      {held schema properties nested part node : Json} (typed : Typed schema "object")
      (declared : schema.member "properties" = some properties)
      (listed : (key, nested) ∈ properties.items)
      (present : (Json.object members).member key = some held)
      (below : Walks held nested part node) : Walks (.object members) schema part node

theorem refuse_ne_ok {α : Type} {code : StatusCode} {message : String} {value : α} :
    (refuse code message : Outcome α) ≠ .ok value := by
  simp [refuse]

theorem Outcome.seq_ok_iff {first : Outcome Unit} {next : Unit → Outcome Unit} :
    first >>= next = .ok () ↔ first = .ok () ∧ next () = .ok () := by
  rw [Effect.bind_eq_ok]
  exact ⟨fun ⟨_, done, rest⟩ => ⟨done, rest⟩, fun ⟨done, rest⟩ => ⟨(), done, rest⟩⟩

theorem Outcome.ofException_ok_iff {α : Type} {result : Except JsonException α} {value : α} :
    Outcome.ofException result = .ok value ↔ result = .ok value := by
  cases result <;> simp [ofException]

theorem Json.getString_ok_iff {value : Json} {text : String} :
    value.getString = .ok text ↔ value = .string text := by
  cases value <;> simp [getString]

theorem Json.getBool_ok_iff {value : Json} {flag : Bool} :
    value.getBool = .ok flag ↔ value = .boolean flag := by
  cases value <;> simp [getBool]

section Keywords

variable {partialMatch : PartialMatch} {validate : Json → Json → Outcome Unit} {value schema : Json}

theorem validatePattern_ok_iff (text : String) :
    validatePattern partialMatch text schema = .ok () ↔ PatternMet partialMatch text schema := by
  unfold validatePattern PatternMet
  cases schema.member "pattern" with
  | none => simp
  | some held =>
    simp only [Effect.bind_eq_ok, Outcome.ofException_ok_iff, Json.getString_ok_iff,
      Option.some.injEq, forall_eq']
    refine exists_congr fun pattern => and_congr_right fun _ => ?_
    split_ifs with found <;> simp [found, refuse]

theorem validateMinItems_ok_iff (size : Nat) :
    validateMinItems size schema = .ok () ↔ MinItemsMet size schema := by
  unfold validateMinItems MinItemsMet
  cases schema.member "minItems" with
  | none => simp
  | some held =>
    simp only [Effect.bind_eq_ok, Outcome.ofException_ok_iff, Option.some.injEq, forall_eq']
    refine exists_congr fun bound => and_congr_right fun _ => ?_
    split_ifs with below
    · simp [refuse, below]
    · simpa using below

theorem validateMaxItems_ok_iff (size : Nat) :
    validateMaxItems size schema = .ok () ↔ MaxItemsMet size schema := by
  unfold validateMaxItems MaxItemsMet
  cases schema.member "maxItems" with
  | none => simp
  | some held =>
    simp only [Effect.bind_eq_ok, Outcome.ofException_ok_iff, Option.some.injEq, forall_eq']
    refine exists_congr fun bound => and_congr_right fun _ => ?_
    split_ifs with above
    · simpa [refuse] using above
    · simpa using above

theorem validateElements_ok_iff (check : Json → Outcome Unit) (index : Nat) (elements : List Json) :
    validateElements check index elements = .ok () ↔ ∀ element ∈ elements, check element = .ok () := by
  induction elements generalizing index with
  | nil => simp [validateElements]
  | cons head rest ih =>
    simp only [validateElements, Outcome.seq_ok_iff, Outcome.within_ok_iff, ih, List.forall_mem_cons]

theorem validateItems_ok_iff (elements : List Json) :
    validateItems validate elements schema = .ok () ↔
      ∀ items, schema.member "items" = some items →
        ∀ element ∈ elements, validate element items = .ok () := by
  unfold validateItems
  cases schema.member "items" with
  | none => simp
  | some items => simp [validateElements_ok_iff]

theorem validateFields_ok_iff (fields : List Json) :
    validateFields value fields = .ok () ↔ ∀ entry ∈ fields, FieldPresent value entry := by
  induction fields with
  | nil => simp [validateFields]
  | cons head rest ih =>
    simp only [validateFields, Effect.bind_eq_ok, Outcome.ofException_ok_iff, Json.getString_ok_iff,
      List.forall_mem_cons]
    constructor
    · rintro ⟨field, rfl, present⟩
      split_ifs at present with absent
      · exact absurd present refuse_ne_ok
      · exact ⟨⟨field, rfl, by simpa [← Option.isSome_iff_ne_none] using absent⟩, ih.mp present⟩
    · rintro ⟨⟨field, rfl, present⟩, others⟩
      refine ⟨field, rfl, ?_⟩
      rw [if_neg (by simpa [Option.isSome_iff_ne_none] using present)]
      exact ih.mpr others

theorem validateRequired_ok_iff :
    validateRequired value schema = .ok () ↔ RequiredMet value schema := by
  unfold validateRequired RequiredMet
  cases schema.member "required" with
  | none => simp
  | some required => simp [validateFields_ok_iff]

theorem validateAdditional_ok_iff :
    validateAdditional value schema = .ok () ↔ AdditionalMet value schema := by
  unfold validateAdditional AdditionalMet
  cases schema.member "additionalProperties" with
  | none => simp
  | some held =>
    simp only [Effect.bind_eq_ok, Outcome.ofException_ok_iff, Json.getBool_ok_iff,
      Option.some.injEq, forall_eq']
    refine exists_congr fun additional => and_congr_right fun _ => ?_
    cases additional with
    | true => simp
    | false =>
      split_ifs with undeclared
      · simpa [refuse] using undeclared
      · simpa using undeclared

theorem validateProperty_ok_iff (key : String) (nested : Json) :
    validateProperty validate value key nested = .ok () ↔
      ∀ held, value.member key = some held → validate held nested = .ok () := by
  unfold validateProperty
  cases value.member key with
  | none => simp
  | some held => simp [Outcome.within_ok_iff]

theorem validateDeclared_ok_iff (properties : List (String × Json)) :
    validateDeclared validate value properties = .ok () ↔
      ∀ key nested, (key, nested) ∈ properties →
        ∀ held, value.member key = some held → validate held nested = .ok () := by
  induction properties with
  | nil => simp [validateDeclared]
  | cons head rest ih =>
    obtain ⟨key, nested⟩ := head
    simp only [validateDeclared, Outcome.seq_ok_iff, validateProperty_ok_iff, ih, List.mem_cons,
      Prod.mk.injEq]
    constructor
    · rintro ⟨first, others⟩ other below (⟨rfl, rfl⟩ | later)
      · exact first
      · exact others other below later
    · intro every
      exact ⟨every key nested (.inl ⟨rfl, rfl⟩),
        fun other below later => every other below (.inr later)⟩

theorem validateProperties_ok_iff :
    validateProperties validate value schema = .ok () ↔
      ∀ properties, schema.member "properties" = some properties →
        ∀ key nested, (key, nested) ∈ properties.items →
          ∀ held, value.member key = some held → validate held nested = .ok () := by
  unfold validateProperties
  cases schema.member "properties" with
  | none => simp
  | some properties => simp [validateDeclared_ok_iff]

structure Descends (check : Json → Json → Prop) (value schema : Json) : Prop where
  items : Typed schema "array" → ∀ elements, value = .array elements →
    ∀ items, schema.member "items" = some items → ∀ element ∈ elements, check element items
  properties : Typed schema "object" → ∀ members, value = .object members →
    ∀ properties, schema.member "properties" = some properties →
      ∀ key nested, (key, nested) ∈ properties.items →
        ∀ held, value.member key = some held → check held nested

theorem validateArray_ok_iff (elements : List Json) :
    validateArray validate elements schema = .ok () ↔
      MinItemsMet elements.length schema ∧ MaxItemsMet elements.length schema ∧
        ∀ items, schema.member "items" = some items →
          ∀ element ∈ elements, validate element items = .ok () := by
  simp only [validateArray, Outcome.seq_ok_iff, validateMinItems_ok_iff, validateMaxItems_ok_iff,
    validateItems_ok_iff]

theorem validateObject_ok_iff :
    validateObject validate value schema = .ok () ↔
      RequiredMet value schema ∧ AdditionalMet value schema ∧
        ∀ properties, schema.member "properties" = some properties →
          ∀ key nested, (key, nested) ∈ properties.items →
            ∀ held, value.member key = some held → validate held nested = .ok () := by
  simp only [validateObject, Outcome.seq_ok_iff, validateRequired_ok_iff, validateAdditional_ok_iff,
    validateProperties_ok_iff]

theorem expected_ne_ok (type : String) : expected type value ≠ .ok () := refuse_ne_ok

-- The type of the node decides which of the keywords are looked at.
theorem passes_descends_iff {check : Json → Json → Prop} {type : String} (typed : Typed schema type) :
    Passes partialMatch value schema ∧ Descends check value schema ↔
      (type ∈ supportedTypes → value.hasType type = true) ∧
      (type = "string" → ∀ text, value = .string text → PatternMet partialMatch text schema) ∧
      (type = "array" → ∀ elements, value = .array elements →
        MinItemsMet elements.length schema ∧ MaxItemsMet elements.length schema ∧
          ∀ items, schema.member "items" = some items → ∀ element ∈ elements, check element items) ∧
      (type = "object" → ∀ members, value = .object members →
        RequiredMet value schema ∧ AdditionalMet value schema ∧
          ∀ properties, schema.member "properties" = some properties →
            ∀ key nested, (key, nested) ∈ properties.items →
              ∀ held, value.member key = some held → check held nested) := by
  have only (other : String) : Typed schema other ↔ type = other := by
    unfold Typed at typed ⊢
    rw [typed]
    simp
  constructor
  · rintro ⟨passes, descends⟩
    refine ⟨fun supported => ?_, fun string text => ?_, fun array elements is_ => ?_,
      fun object members is_ => ?_⟩
    · obtain ⟨name, same, holds⟩ := passes.type _ typed
      cases same
      exact holds supported
    · exact passes.pattern ((only _).mpr string) text
    · have here := (only _).mpr array
      exact ⟨passes.minItems here elements is_, passes.maxItems here elements is_,
        descends.items here elements is_⟩
    · have here := (only _).mpr object
      exact ⟨passes.required here members is_, passes.additionalProperties here members is_,
        descends.properties here members is_⟩
  · rintro ⟨holds, string, array, object⟩
    refine ⟨⟨?_, ?_, ?_, ?_, ?_, ?_⟩, ?_, ?_⟩
    · intro held given
      cases typed.symm.trans given
      exact ⟨type, rfl, holds⟩
    · exact fun here => string ((only _).mp here)
    · exact fun here elements is_ => (array ((only _).mp here) elements is_).1
    · exact fun here elements is_ => (array ((only _).mp here) elements is_).2.1
    · exact fun here members is_ => (object ((only _).mp here) members is_).1
    · exact fun here members is_ => (object ((only _).mp here) members is_).2.1
    · exact fun here elements is_ => (array ((only _).mp here) elements is_).2.2
    · exact fun here members is_ => (object ((only _).mp here) members is_).2.2

theorem validateType_ok_iff (type : String) (typed : Typed schema type) :
    validateType partialMatch validate type value schema = .ok () ↔
      Passes partialMatch value schema ∧
        Descends (fun value schema => validate value schema = .ok ()) value schema := by
  rw [passes_descends_iff typed]
  unfold validateType
  split_ifs with string array object number integer boolean
  · subst string
    cases value <;> simp [Json.hasType, supportedTypes, expected_ne_ok, validatePattern_ok_iff]
  · subst array
    cases value <;> simp [Json.hasType, supportedTypes, expected_ne_ok, validateArray_ok_iff]
  · subst object
    cases value <;> simp [Json.hasType, supportedTypes, expected_ne_ok, validateObject_ok_iff]
  · subst number
    cases value <;> simp [Json.hasType, supportedTypes, expected_ne_ok]
  · subst integer
    cases value <;> simp [Json.hasType, supportedTypes, expected_ne_ok]
  · subst boolean
    cases value <;> simp [Json.hasType, supportedTypes, expected_ne_ok]
  · simp [supportedTypes, string, array, object, number, integer, boolean]

theorem validateLevel_ok_iff :
    validateLevel partialMatch validate value schema = .ok () ↔
      Passes partialMatch value schema ∧
        Descends (fun value schema => validate value schema = .ok ()) value schema := by
  unfold validateLevel
  cases given : schema.member "type" with
  | none =>
    have untyped (type : String) : ¬ Typed schema type := by simp [Typed, given]
    have passes : Passes partialMatch value schema := by
      constructor <;> simp [given, untyped]
    have descends : Descends (fun value schema => validate value schema = .ok ()) value schema := by
      constructor <;> simp [untyped]
    simp [passes, descends]
  | some held =>
    simp only [Effect.bind_eq_ok, Outcome.ofException_ok_iff, Json.getString_ok_iff]
    constructor
    · rintro ⟨type, rfl, valid⟩
      exact (validateType_ok_iff type given).mp valid
    · rintro ⟨passes, descends⟩
      obtain ⟨type, rfl, -⟩ := passes.type held given
      exact ⟨type, rfl, (validateType_ok_iff type given).mpr ⟨passes, descends⟩⟩

end Keywords

/-- A node that the validator gets to is violated or malformed. -/
def Refuted (partialMatch : PartialMatch) (value schema : Json) : Prop :=
  ∃ part node, Walks value schema part node ∧ ¬ Passes partialMatch part node

theorem walks_forall_iff {holds : Json → Json → Prop} {value schema : Json} :
    (∀ part node, Walks value schema part node → holds part node) ↔
      holds value schema ∧
        Descends (fun value schema => ∀ part node, Walks value schema part node → holds part node)
          value schema := by
  constructor
  · intro every
    refine ⟨every _ _ (.here value schema), ?_, ?_⟩
    · rintro typed elements rfl items declared element listed part node below
      exact every part node (.item typed listed declared below)
    · rintro typed members rfl properties declared key nested listed held present part node below
      exact every part node (.property typed declared listed present below)
  · rintro ⟨here, descends⟩ part node walk
    cases walk with
    | here => exact here
    | item typed listed declared below =>
      exact descends.items typed _ rfl _ declared _ listed part node below
    | property typed declared listed present below =>
      exact descends.properties typed _ rfl _ declared _ _ listed _ present part node below

-- A level only descends to nodes of smaller depth.
theorem descends_congr {check check' : Json → Json → Prop} {value schema : Json}
    (agree : ∀ value nested : Json, nested.depth < schema.depth →
      (check value nested ↔ check' value nested)) :
    Descends check value schema ↔ Descends check' value schema := by
  have property {properties nested : Json} {key : String}
      (declared : schema.member "properties" = some properties)
      (listed : (key, nested) ∈ properties.items) : nested.depth < schema.depth := by
    have := Json.depth_member declared
    have := Json.depth_items listed
    omega
  constructor
  · rintro ⟨items, properties⟩
    refine ⟨fun typed elements is_ nested declared element listed => ?_,
      fun typed members is_ held declared key nested listed found present => ?_⟩
    · exact (agree _ _ (Json.depth_member declared)).mp
        (items typed elements is_ nested declared element listed)
    · exact (agree _ _ (property declared listed)).mp
        (properties typed members is_ held declared key nested listed found present)
  · rintro ⟨items, properties⟩
    refine ⟨fun typed elements is_ nested declared element listed => ?_,
      fun typed members is_ held declared key nested listed found present => ?_⟩
    · exact (agree _ _ (Json.depth_member declared)).mpr
        (items typed elements is_ nested declared element listed)
    · exact (agree _ _ (property declared listed)).mpr
        (properties typed members is_ held declared key nested listed found present)

theorem validateNode_ok_iff (partialMatch : PartialMatch) (value schema : Json) :
    validateNode partialMatch value schema = .ok () ↔
      ∀ part node, Walks value schema part node → Passes partialMatch part node := by
  induction depth : schema.depth using Nat.strong_induction_on generalizing value schema with
  | _ depth ih =>
    subst depth
    rw [validateNode_eq, validateLevel_ok_iff, walks_forall_iff]
    refine and_congr_right fun _ => descends_congr fun element nested shallower => ?_
    exact ih nested.depth shallower element nested rfl

theorem validateNode_level_iff {partialMatch : PartialMatch} {value schema : Json} :
    validateNode partialMatch value schema = .ok () ↔
      Passes partialMatch value schema ∧
        Descends (fun value schema => validateNode partialMatch value schema = .ok ()) value schema := by
  rw [validateNode_eq, validateLevel_ok_iff]

theorem refuted_iff (partialMatch : PartialMatch) (value schema : Json) :
    Refuted partialMatch value schema ↔ validateNode partialMatch value schema ≠ .ok () := by
  rw [Ne, validateNode_ok_iff, Refuted]
  simp only [not_forall, exists_prop]

end Ztab
