import Ztab.Tee.Enforcement

set_option autoImplicit false

/-!
# Schemas that raise

The keywords of the wrong JSON type that a value can bring the validator to.
-/

namespace Ztab

def BoundMalformed (schema : Json) (keyword : String) : Prop :=
  ∃ held, schema.member keyword = some held ∧ ∀ bound, held.getInt ≠ .ok bound

/-- In the order of the walk, a keyword of the wrong JSON type comes up before anything is refused. -/
inductive Trips (partialMatch : PartialMatch) : Json → Json → Prop
  | type {value schema held : Json} (given : schema.member "type" = some held)
      (malformed : ∀ name, held ≠ .string name) : Trips partialMatch value schema
  | pattern {text : String} {schema held : Json} (typed : Typed schema "string")
      (given : schema.member "pattern" = some held) (malformed : ∀ pattern, held ≠ .string pattern) :
      Trips partialMatch (.string text) schema
  | minItems {elements : List Json} {schema : Json} (typed : Typed schema "array")
      (malformed : BoundMalformed schema "minItems") : Trips partialMatch (.array elements) schema
  | maxItems {elements : List Json} {schema : Json} (typed : Typed schema "array")
      (enough : MinItemsMet elements.length schema) (malformed : BoundMalformed schema "maxItems") :
      Trips partialMatch (.array elements) schema
  | item {before after : List Json} {element schema items : Json} (typed : Typed schema "array")
      (enough : MinItemsMet (before ++ element :: after).length schema)
      (few : MaxItemsMet (before ++ element :: after).length schema)
      (declared : schema.member "items" = some items)
      (earlier : ∀ other ∈ before, ¬ Refuted partialMatch other items)
      (trips : Trips partialMatch element items) :
      Trips partialMatch (.array (before ++ element :: after)) schema
  | required {members : List (String × Json)} {schema held entry : Json} {before after : List Json}
      (typed : Typed schema "object") (given : schema.member "required" = some held)
      (listed : held.iterate = before ++ entry :: after)
      (earlier : ∀ other ∈ before, FieldPresent (.object members) other)
      (malformed : ∀ field, entry ≠ .string field) : Trips partialMatch (.object members) schema
  | additionalProperties {members : List (String × Json)} {schema held : Json}
      (typed : Typed schema "object") (complete : RequiredMet (.object members) schema)
      (given : schema.member "additionalProperties" = some held)
      (malformed : ∀ additional, held ≠ .boolean additional) :
      Trips partialMatch (.object members) schema
  | property {members : List (String × Json)} {schema properties nested held : Json} {key : String}
      {before after : List (String × Json)}
      (typed : Typed schema "object") (complete : RequiredMet (.object members) schema)
      (expected : AdditionalMet (.object members) schema)
      (declared : schema.member "properties" = some properties)
      (listed : properties.items = before ++ (key, nested) :: after)
      (earlier : ∀ other ∈ before, ∀ found,
        (Json.object members).member other.1 = some found → ¬ Refuted partialMatch found other.2)
      (present : (Json.object members).member key = some held)
      (trips : Trips partialMatch held nested) : Trips partialMatch (.object members) schema

section Raises

variable {partialMatch : PartialMatch} {validate : Json → Json → Outcome Unit} {value schema : Json}

theorem Outcome.raises_refuse {code : StatusCode} {message : String} :
    ¬ Outcome.Raises (refuse code message : Outcome Unit) :=
  Outcome.raises_status ⟨code, message⟩

theorem Outcome.seq_raises_iff {first : Outcome Unit} {next : Unit → Outcome Unit} :
    Outcome.Raises (first >>= next) ↔ first.Raises ∨ first = .ok () ∧ (next ()).Raises := by
  cases first with
  | error failure => simp [Raises, bind, Except.bind]
  | ok done => simp [Raises, bind, Except.bind]

theorem Outcome.within_raises_iff {context : String} {outcome : Outcome Unit} :
    (outcome.within context).Raises ↔ outcome.Raises := by
  match outcome with
  | .ok () => simp [within]
  | .error (.status status) => simp [within, Raises, refuse]
  | .error (.raised exception) => simp [within]

-- A conversion raises on a value of another type; a check of the converted value never does.
theorem Outcome.convert_raises_iff {α : Type} {result : Except JsonException α}
    {next : α → Outcome Unit} (quiet : ∀ value, ¬ (next value).Raises) :
    Outcome.Raises (Outcome.ofException result >>= next) ↔ ∀ value, result ≠ .ok value := by
  cases result with
  | error exception => simp [ofException, Raises, bind, Except.bind]
  | ok value => simpa [ofException, bind, Except.bind] using quiet value

theorem Outcome.check_quiet {holds : Prop} [Decidable holds] {code : StatusCode} {message : String} :
    ¬ Outcome.Raises (if holds then .ok () else refuse code message) ∧
      ¬ Outcome.Raises (if holds then refuse code message else .ok ()) := by
  by_cases here : holds <;> simp [here, raises_refuse]

theorem validatePattern_raises_iff (text : String) :
    (validatePattern partialMatch text schema).Raises ↔
      ∃ held, schema.member "pattern" = some held ∧ ∀ pattern, held ≠ .string pattern := by
  unfold validatePattern
  cases schema.member "pattern" with
  | none => simp 
  | some held =>
    simp [Outcome.convert_raises_iff fun _ => Outcome.check_quiet.1, Json.getString_ok_iff]

theorem validateMinItems_raises_iff (size : Nat) :
    (validateMinItems size schema).Raises ↔ BoundMalformed schema "minItems" := by
  unfold validateMinItems BoundMalformed
  cases schema.member "minItems" with
  | none => simp 
  | some held => simp [Outcome.convert_raises_iff fun _ => Outcome.check_quiet.2]

theorem validateMaxItems_raises_iff (size : Nat) :
    (validateMaxItems size schema).Raises ↔ BoundMalformed schema "maxItems" := by
  unfold validateMaxItems BoundMalformed
  cases schema.member "maxItems" with
  | none => simp 
  | some held => simp [Outcome.convert_raises_iff fun _ => Outcome.check_quiet.2]

theorem validateAdditional_raises_iff :
    (validateAdditional value schema).Raises ↔
      ∃ held, schema.member "additionalProperties" = some held ∧
        ∀ additional, held ≠ .boolean additional := by
  unfold validateAdditional
  cases schema.member "additionalProperties" with
  | none => simp 
  | some held =>
    simp [Outcome.convert_raises_iff fun _ => Outcome.check_quiet.2, Json.getBool_ok_iff]

-- A loop raises at the first item that does not pass, if that one raises.
theorem Outcome.loop_raises_iff {α : Type} (loop : Nat → List α → Outcome Unit)
    (body : Nat → α → Outcome Unit) {passes raises : α → Prop}
    (nil : ∀ index, loop index [] = .ok ())
    (cons : ∀ index head rest,
      loop index (head :: rest) = body index head >>= fun _ => loop (index + 1) rest)
    (ok : ∀ index item, body index item = .ok () ↔ passes item)
    (raised : ∀ index item, (body index item).Raises ↔ raises item)
    (index : Nat) (items : List α) :
    (loop index items).Raises ↔
      ∃ before item after, items = before ++ item :: after ∧
        (∀ other ∈ before, passes other) ∧ raises item := by
  induction items generalizing index with
  | nil => simp [nil]
  | cons head rest ih =>
    rw [cons, seq_raises_iff, ok, raised, ih]
    constructor
    · rintro (here | ⟨passed, before, item, after, rfl, earlier, later⟩)
      · exact ⟨[], head, rest, rfl, by simp, here⟩
      · refine ⟨head :: before, item, after, rfl, ?_, later⟩
        rw [List.forall_mem_cons]
        exact ⟨passed, earlier⟩
    · rintro ⟨before, item, after, split, earlier, here⟩
      cases before with
      | nil =>
        cases split
        exact .inl here
      | cons first others =>
        cases split
        rw [List.forall_mem_cons] at earlier
        exact .inr ⟨earlier.1, others, item, after, rfl, earlier.2, here⟩

theorem validateElements_raises_iff (check : Json → Outcome Unit) (elements : List Json) :
    (validateElements check 0 elements).Raises ↔
      ∃ before element after, elements = before ++ element :: after ∧
        (∀ other ∈ before, check other = .ok ()) ∧ (check element).Raises := by
  apply Outcome.loop_raises_iff (validateElements check) _ (fun _ => rfl) (fun _ _ _ => rfl)
  · exact fun _ _ => Outcome.within_ok_iff _ _
  · exact fun _ _ => Outcome.within_raises_iff

def validateField (value entry : Json) : Outcome Unit := do
  let field ← Outcome.ofException entry.getString
  if (value.member field).isNone then
    refuse .invalidArgument ("Missing required field: '" ++ field ++ "'")
  else .ok ()

theorem validateFields_cons (value head : Json) (rest : List Json) :
    validateFields value (head :: rest) =
      validateField value head >>= fun _ => validateFields value rest := by
  cases head with
  | string field =>
    cases found : (value.member field).isNone <;>
      simp [validateFields, validateField, Json.getString, Outcome.ofException, found, refuse, bind,
        Except.bind]
  | _ => rfl

theorem validateField_ok_iff (value entry : Json) :
    validateField value entry = .ok () ↔ FieldPresent value entry := by
  have single : validateFields value [entry] = .ok () ↔ ∀ other ∈ [entry], FieldPresent value other :=
    validateFields_ok_iff [entry]
  rw [validateFields_cons, Outcome.seq_ok_iff] at single
  simpa [validateFields] using single

theorem validateFields_raises_iff (fields : List Json) :
    (validateFields value fields).Raises ↔
      ∃ before entry after, fields = before ++ entry :: after ∧
        (∀ other ∈ before, FieldPresent value other) ∧ ∀ field, entry ≠ .string field := by
  have raised (entry : Json) : (validateField value entry).Raises ↔ ∀ field, entry ≠ .string field := by
    unfold validateField
    simp [Outcome.convert_raises_iff fun _ => Outcome.check_quiet.2, Json.getString_ok_iff]
  exact Outcome.loop_raises_iff (fun _ => validateFields value) _ (fun _ => rfl)
    (fun _ => validateFields_cons value)
    (fun _ => validateField_ok_iff value) (fun _ => raised) 0 fields

theorem validateDeclared_raises_iff (properties : List (String × Json)) :
    (validateDeclared validate value properties).Raises ↔
      ∃ before property after, properties = before ++ property :: after ∧
        (∀ other ∈ before, ∀ found, value.member other.1 = some found →
          validate found other.2 = .ok ()) ∧
        ∃ held, value.member property.1 = some held ∧ (validate held property.2).Raises := by
  have raised (property : String × Json) :
      (validateProperty validate value property.1 property.2).Raises ↔
        ∃ held, value.member property.1 = some held ∧ (validate held property.2).Raises := by
    unfold validateProperty
    cases value.member property.1 with
    | none => simp 
    | some held => simp [Outcome.within_raises_iff]
  exact Outcome.loop_raises_iff (fun _ => validateDeclared validate value)
    (fun _ property => validateProperty validate value property.1 property.2) (fun _ => rfl)
    (fun _ _ _ => rfl)
    (fun _ property => validateProperty_ok_iff property.1 property.2) (fun _ => raised) 0 properties

theorem validateArray_raises_iff (elements : List Json) :
    (validateArray validate elements schema).Raises ↔
      BoundMalformed schema "minItems" ∨ MinItemsMet elements.length schema ∧
        (BoundMalformed schema "maxItems" ∨ MaxItemsMet elements.length schema ∧
          ∃ items, schema.member "items" = some items ∧
            ∃ before element after, elements = before ++ element :: after ∧
              (∀ other ∈ before, validate other items = .ok ()) ∧ (validate element items).Raises) := by
  have items : (validateItems validate elements schema).Raises ↔
      ∃ items, schema.member "items" = some items ∧
        ∃ before element after, elements = before ++ element :: after ∧
          (∀ other ∈ before, validate other items = .ok ()) ∧ (validate element items).Raises := by
    unfold validateItems
    cases schema.member "items" with
    | none => simp 
    | some items => simp [validateElements_raises_iff]
  simp only [validateArray, Outcome.seq_raises_iff, validateMinItems_raises_iff,
    validateMinItems_ok_iff, validateMaxItems_raises_iff, validateMaxItems_ok_iff, items]

theorem validateObject_raises_iff :
    (validateObject validate value schema).Raises ↔
      (∃ held, schema.member "required" = some held ∧
        ∃ before entry after, held.iterate = before ++ entry :: after ∧
          (∀ other ∈ before, FieldPresent value other) ∧ ∀ field, entry ≠ .string field) ∨
      RequiredMet value schema ∧
        ((∃ held, schema.member "additionalProperties" = some held ∧
          ∀ additional, held ≠ .boolean additional) ∨
        AdditionalMet value schema ∧
          ∃ properties, schema.member "properties" = some properties ∧
            ∃ before property after, properties.items = before ++ property :: after ∧
              (∀ other ∈ before, ∀ found, value.member other.1 = some found →
                validate found other.2 = .ok ()) ∧
              ∃ held, value.member property.1 = some held ∧ (validate held property.2).Raises) := by
  have required : (validateRequired value schema).Raises ↔
      ∃ held, schema.member "required" = some held ∧
        ∃ before entry after, held.iterate = before ++ entry :: after ∧
          (∀ other ∈ before, FieldPresent value other) ∧ ∀ field, entry ≠ .string field := by
    unfold validateRequired
    cases schema.member "required" with
    | none => simp 
    | some held => simp [validateFields_raises_iff]
  have properties : (validateProperties validate value schema).Raises ↔
      ∃ properties, schema.member "properties" = some properties ∧
        ∃ before property after, properties.items = before ++ property :: after ∧
          (∀ other ∈ before, ∀ found, value.member other.1 = some found →
            validate found other.2 = .ok ()) ∧
          ∃ held, value.member property.1 = some held ∧ (validate held property.2).Raises := by
    unfold validateProperties
    cases schema.member "properties" with
    | none => simp 
    | some properties => simp only [validateDeclared_raises_iff, Option.some.injEq, exists_eq_left']
  simp only [validateObject, Outcome.seq_raises_iff, required, validateRequired_ok_iff,
    validateAdditional_raises_iff, validateAdditional_ok_iff, properties]

theorem validateType_raises_iff (type : String) :
    (validateType partialMatch validate type value schema).Raises ↔
      (type = "string" ∧ ∃ text, value = .string text ∧
        (validatePattern partialMatch text schema).Raises) ∨
      (type = "array" ∧ ∃ elements, value = .array elements ∧
        (validateArray validate elements schema).Raises) ∨
      (type = "object" ∧ ∃ members, value = .object members ∧
        (validateObject validate value schema).Raises) := by
  have expected (name : String) (other : Json) : ¬ (expected name other).Raises :=
    Outcome.raises_refuse
  unfold validateType
  split_ifs with string array object number integer boolean
  · subst string
    cases value <;> simp [expected]
  · subst array
    cases value <;> simp [expected]
  · subst object
    cases value <;> simp [expected]
  · subst number
    cases value <;> simp [expected]
  · subst integer
    cases value <;> simp [expected]
  · subst boolean
    cases value <;> simp [expected]
  · simp [string, array, object]

end Raises

theorem not_refuted_iff {partialMatch : PartialMatch} {value schema : Json} :
    ¬ Refuted partialMatch value schema ↔ validateNode partialMatch value schema = .ok () := by
  rw [refuted_iff, not_not]

theorem trips_of_raises {partialMatch : PartialMatch} {value schema : Json}
    (raises : (validateNode partialMatch value schema).Raises) : Trips partialMatch value schema := by
  induction depth : schema.depth using Nat.strong_induction_on generalizing value schema with
  | _ depth ih =>
    subst depth
    rw [validateNode_eq] at raises
    cases given : schema.member "type" with
    | none => simp [validateLevel, given] at raises
    | some held =>
      by_cases text : ∃ type, held = .string type
      · obtain ⟨type, rfl⟩ := text
        rw [validateLevel_typed given, validateType_raises_iff] at raises
        rcases raises with ⟨rfl, text, rfl, raises⟩ | ⟨rfl, elements, rfl, raises⟩ |
          ⟨rfl, members, rfl, raises⟩
        · obtain ⟨pattern, found, malformed⟩ := (validatePattern_raises_iff text).mp raises
          exact .pattern given found malformed
        · rcases (validateArray_raises_iff elements).mp raises with malformed | ⟨enough, raises⟩
          · exact .minItems given malformed
          rcases raises with malformed |
            ⟨few, items, declared, before, element, after, rfl, earlier, raises⟩
          · exact .maxItems given enough malformed
          · exact .item given enough few declared
              (fun other listed => not_refuted_iff.mpr (earlier other listed))
              (ih _ (Json.depth_member declared) raises rfl)
        · rcases validateObject_raises_iff.mp raises with
            ⟨required, found, before, entry, after, listed, earlier, malformed⟩ | ⟨complete, raises⟩
          · exact .required given found listed earlier malformed
          rcases raises with ⟨additional, found, malformed⟩ |
            ⟨expected, properties, declared, before, property, after, listed, earlier, held, present,
              raises⟩
          · exact .additionalProperties given complete found malformed
          · have shallower : property.2.depth < schema.depth := by
              have nested := Json.depth_member declared
              have member : (property.1, property.2) ∈ properties.items := by simp [listed]
              have inside := Json.depth_items member
              omega
            exact .property given complete expected declared listed
              (fun other listed found present =>
                not_refuted_iff.mpr (earlier other listed found present))
              present (ih _ shallower raises rfl)
      · exact .type given (by simpa using text)

theorem Trips.raises {partialMatch : PartialMatch} {value schema : Json}
    (trips : Trips partialMatch value schema) : (validateNode partialMatch value schema).Raises := by
  induction trips with
  | @type value schema held given malformed =>
    rw [validateNode_eq]
    refine ⟨.typeError, ?_⟩
    unfold validateLevel
    rw [given]
    cases held with
    | string name => exact absurd rfl (malformed name)
    | _ => rfl
  | pattern typed given malformed =>
    rw [validateNode_eq, validateLevel_typed typed, validateType_raises_iff]
    exact .inl ⟨rfl, _, rfl, (validatePattern_raises_iff _).mpr ⟨_, given, malformed⟩⟩
  | minItems typed malformed =>
    rw [validateNode_eq, validateLevel_typed typed, validateType_raises_iff]
    exact .inr (.inl ⟨rfl, _, rfl, (validateArray_raises_iff _).mpr (.inl malformed)⟩)
  | maxItems typed enough malformed =>
    rw [validateNode_eq, validateLevel_typed typed, validateType_raises_iff]
    exact .inr (.inl ⟨rfl, _, rfl,
      (validateArray_raises_iff _).mpr (.inr ⟨enough, .inl malformed⟩)⟩)
  | item typed enough few declared earlier trips ih =>
    rw [validateNode_eq, validateLevel_typed typed, validateType_raises_iff]
    refine .inr (.inl ⟨rfl, _, rfl, (validateArray_raises_iff _).mpr (.inr ⟨enough, .inr ⟨few, ?_⟩⟩)⟩)
    exact ⟨_, declared, _, _, _, rfl, fun other listed => not_refuted_iff.mp (earlier other listed), ih⟩
  | required typed given listed earlier malformed =>
    rw [validateNode_eq, validateLevel_typed typed, validateType_raises_iff]
    exact .inr (.inr ⟨rfl, _, rfl, validateObject_raises_iff.mpr
      (.inl ⟨_, given, _, _, _, listed, earlier, malformed⟩)⟩)
  | additionalProperties typed complete given malformed =>
    rw [validateNode_eq, validateLevel_typed typed, validateType_raises_iff]
    exact .inr (.inr ⟨rfl, _, rfl, validateObject_raises_iff.mpr
      (.inr ⟨complete, .inl ⟨_, given, malformed⟩⟩)⟩)
  | property typed complete expected declared listed earlier present trips ih =>
    rw [validateNode_eq, validateLevel_typed typed, validateType_raises_iff]
    refine .inr (.inr ⟨rfl, _, rfl, validateObject_raises_iff.mpr
      (.inr ⟨complete, .inr ⟨expected, ?_⟩⟩)⟩)
    exact ⟨_, declared, _, _, _, listed,
      fun other listed found present => not_refuted_iff.mp (earlier other listed found present),
      _, present, ih⟩

theorem trips_iff {partialMatch : PartialMatch} {value schema : Json} :
    Trips partialMatch value schema ↔ (validateNode partialMatch value schema).Raises :=
  ⟨Trips.raises, trips_of_raises⟩

/-- Some value brings the validator to a keyword of the wrong JSON type: one at a node of the type
whose branch reads it, below `items` that some array may have elements for, and below properties
that may be given when no required property that comes earlier refuses every value. -/
inductive Raisable (partialMatch : PartialMatch) : Json → Prop
  | type {schema held : Json} (given : schema.member "type" = some held)
      (malformed : ∀ name, held ≠ .string name) : Raisable partialMatch schema
  | pattern {schema held : Json} (typed : Typed schema "string")
      (given : schema.member "pattern" = some held) (malformed : ∀ pattern, held ≠ .string pattern) :
      Raisable partialMatch schema
  | bound {schema : Json} {keyword : String} (typed : Typed schema "array")
      (listed : keyword ∈ ["minItems", "maxItems"]) (malformed : BoundMalformed schema keyword) :
      Raisable partialMatch schema
  | items {schema items : Json} {size : Nat} (typed : Typed schema "array")
      (fits : SizePasses size schema) (nonempty : 0 < size)
      (declared : schema.member "items" = some items) (below : Raisable partialMatch items) :
      Raisable partialMatch schema
  | required {schema entry : Json} (typed : Typed schema "object")
      (listed : entry ∈ requiredEntries schema) (malformed : ∀ field, entry ≠ .string field) :
      Raisable partialMatch schema
  | additionalProperties {schema held : Json} (typed : Typed schema "object")
      (given : schema.member "additionalProperties" = some held)
      (malformed : ∀ additional, held ≠ .boolean additional) : Raisable partialMatch schema
  | property {schema nested : Json} {key : String} {before after : List (String × Json)}
      (typed : Typed schema "object")
      (listed : declaredProperties schema = before ++ (key, nested) :: after)
      (expected : schema.member "additionalProperties" = some (.boolean false) →
        declares schema key = true ∧
          ∀ field, .string field ∈ requiredEntries schema → declares schema field = true)
      (filled : ∀ other ∈ before, .string other.1 ∈ requiredEntries schema →
        Fillable partialMatch other.2)
      (below : Raisable partialMatch nested) : Raisable partialMatch schema

section Raisable

variable {partialMatch : PartialMatch} {value schema : Json}

theorem Trips.raisable (trips : Trips partialMatch value schema) : Raisable partialMatch schema := by
  induction trips with
  | type given malformed => exact .type given malformed
  | pattern typed given malformed => exact .pattern typed given malformed
  | minItems typed malformed => exact .bound typed (by simp) malformed
  | maxItems typed enough malformed => exact .bound typed (by simp) malformed
  | item typed enough few declared earlier trips ih =>
    exact .items typed ⟨enough, few⟩ (by simp) declared ih
  | @required members schema held entry before after typed given listed earlier malformed =>
    exact .required typed (by simp [requiredEntries, given, listed]) malformed
  | additionalProperties typed complete given malformed =>
    exact .additionalProperties typed given malformed
  | @property members schema properties nested held key before after typed complete expected declared
      listed earlier present trips ih =>
    have here : declaredProperties schema = before ++ (key, nested) :: after := by
      rw [declaredProperties, declared]
      exact listed
    have given {field : String} (required : .string field ∈ requiredEntries schema) :
        ∃ found, (Json.object members).member field = some found := by
      obtain ⟨_, same, present⟩ := requiredMet_iff.mp complete _ required
      cases same
      exact Option.isSome_iff_exists.mp present
    have known (closed : schema.member "additionalProperties" = some (.boolean false)) {field : String}
        {found : Json} (present : (Json.object members).member field = some found) :
        declares schema field = true := by
      obtain ⟨_, same, declared⟩ := expected _ closed
      cases same
      exact declared rfl (field, found) (OrderedMap.mem_of_find present)
    refine .property typed here (fun closed => ⟨known closed present, fun field required => ?_⟩)
      (fun other listed required => ?_) ih
    · obtain ⟨found, there⟩ := given required
      exact known closed there
    · obtain ⟨found, there⟩ := given required
      exact fillable_of_ok (not_refuted_iff.mp (earlier other listed found there))

-- An object with every required field gets as far as the first entry that is no string.
theorem trips_of_unnamed (typed : Typed schema "object") {entry : Json}
    (listed : entry ∈ requiredEntries schema) (malformed : ∀ field, entry ≠ .string field) :
    ∃ value, Trips partialMatch value schema := by
  have unnamed : ((requiredEntries schema).find? fun entry => entry.getString.toOption.isNone).isSome =
      true := by
    rw [List.find?_isSome]
    refine ⟨entry, listed, ?_⟩
    cases entry with
    | string field => exact absurd rfl (malformed field)
    | _ => rfl
  obtain ⟨first, found⟩ := Option.isSome_iff_exists.mp unnamed
  obtain ⟨here, before, after, split, named⟩ := List.find?_eq_some_iff_append.mp found
  obtain ⟨held, given, entries⟩ : ∃ held, schema.member "required" = some held ∧
      held.iterate = before ++ first :: after := by
    unfold requiredEntries at split
    cases given : schema.member "required" with
    | none => simp [given] at split
    | some held => exact ⟨held, rfl, by simpa [given] using split⟩
  refine ⟨.object (Json.holding (fun _ => .null) (requiredKeys schema)),
    .required typed given entries (fun other earlier => ?_) ?_⟩
  · have string := named other earlier
    cases other with
    | string field =>
      have required : field ∈ requiredKeys schema :=
        mem_requiredKeys.mpr (by rw [split]; exact List.mem_append_left _ earlier)
      exact ⟨field, rfl, by simp [Json.member, Json.find_holding, required]⟩
    | _ => simp [Json.getString, Except.toOption] at string
  · rintro field rfl
    simp [Json.getString, Except.toOption] at here

-- An array long enough for `minItems` gets as far as `maxItems`.
theorem trips_of_bound (typed : Typed schema "array") {keyword : String}
    (listed : keyword ∈ ["minItems", "maxItems"]) (malformed : BoundMalformed schema keyword) :
    ∃ value, Trips partialMatch value schema := by
  by_cases low : BoundMalformed schema "minItems"
  · exact ⟨.array [], .minItems typed low⟩
  have high : BoundMalformed schema "maxItems" := by
    simp only [List.mem_cons, List.not_mem_nil, or_false] at listed
    obtain rfl | rfl := listed
    · exact absurd malformed low
    · exact malformed
  obtain ⟨size, enough⟩ : ∃ size, MinItemsMet size schema := by
    simp only [BoundMalformed, not_exists, not_and, not_forall, not_not] at low
    cases given : schema.member "minItems" with
    | none => exact ⟨0, fun held impossible => absurd (given.symm.trans impossible) (by simp)⟩
    | some held =>
      obtain ⟨bound, ok⟩ := low held given
      refine ⟨bound.toNat, fun other same => ?_⟩
      cases given.symm.trans same
      exact ⟨bound, ok, Int.self_le_toNat bound⟩
  exact ⟨.array (List.replicate size .null),
    .maxItems typed (by rwa [List.length_replicate]) high⟩

theorem trips_of_flag (typed : Typed schema "object") {held : Json}
    (given : schema.member "additionalProperties" = some held)
    (malformed : ∀ additional, held ≠ .boolean additional) :
    ∃ value, Trips partialMatch value schema := by
  by_cases named : ∀ entry ∈ requiredEntries schema, ∃ field, entry = .string field
  · exact ⟨_, .additionalProperties typed (requiredMet_holding (fun _ => .null)
      (fun _ listed => listed) named) given malformed⟩
  · simp only [not_forall, not_exists] at named
    obtain ⟨entry, listed, unnamed⟩ := named
    exact trips_of_unnamed typed listed unnamed

-- The required properties that are looked at before `key` are given values that pass.
theorem exists_passing (formed : schema.WellFormed) {nested : Json} {key : String}
    {before after : List (String × Json)}
    (listed : declaredProperties schema = before ++ (key, nested) :: after)
    (filled : ∀ other ∈ before, .string other.1 ∈ requiredEntries schema →
      Fillable partialMatch other.2) :
    ∃ held : String → Json, ∀ other ∈ before, other.1 ∈ requiredKeys schema →
      validateNode partialMatch (held other.1) other.2 = .ok () := by
  have once := declaredProperties_nodup formed
  have there : ∀ other ∈ before, other ∈ declaredProperties schema := by
    rw [listed]
    exact fun other here => List.mem_append_left _ here
  obtain ⟨held, passes⟩ := choose_members formed
    (fun value nested => validateNode partialMatch value nested = .ok ())
    ((requiredKeys schema).filter fun other => other ∈ before.map Prod.fst)
    fun other sibling also given => by
      obtain ⟨required, earlier⟩ := List.mem_filter.mp given
      obtain ⟨first, here, same⟩ := List.mem_map.mp (of_decide_eq_true earlier)
      cases List.inj_on_of_nodup_map once also (there first here) same.symm
      exact (filled _ here (mem_requiredKeys.mp required)).exists_ok
        (declaredProperties_formed formed also)
  refine ⟨held, fun other here required => passes other.1 other.2 (there other here) ?_⟩
  exact List.mem_filter.mpr ⟨required, decide_eq_true (List.mem_map_of_mem here)⟩

-- The property gets the value that raises, and the required ones before it values that pass.
theorem trips_of_property (formed : schema.WellFormed) (typed : Typed schema "object")
    {nested raising : Json} {key : String} {before after : List (String × Json)}
    (listed : declaredProperties schema = before ++ (key, nested) :: after)
    (expected : schema.member "additionalProperties" = some (.boolean false) →
      declares schema key = true ∧
        ∀ field, .string field ∈ requiredEntries schema → declares schema field = true)
    (filled : ∀ other ∈ before, .string other.1 ∈ requiredEntries schema →
      Fillable partialMatch other.2)
    (named : ∀ entry ∈ requiredEntries schema, ∃ field, entry = .string field)
    (flag : ∀ held, schema.member "additionalProperties" = some held →
      ∃ additional, held = .boolean additional)
    (trips : Trips partialMatch raising nested) : ∃ value, Trips partialMatch value schema := by
  obtain ⟨held, passes⟩ := exists_passing formed listed filled
  obtain ⟨properties, declared, items⟩ : ∃ properties,
      schema.member "properties" = some properties ∧
        properties.items = before ++ (key, nested) :: after := by
    unfold declaredProperties at listed
    cases declared : schema.member "properties" with
    | none => simp [declared] at listed
    | some properties => exact ⟨properties, rfl, by simpa [declared] using listed⟩
  refine ⟨.object (Json.holding (Function.update held key raising) (key :: requiredKeys schema)),
    .property typed (requiredMet_holding _ (fun _ given => List.mem_cons_of_mem _ given) named)
      (additionalMet_holding flag fun closed other given => ?_) declared items
      (fun other earlier found present => not_refuted_iff.mpr ?_)
      (by simp [Json.member, Json.find_holding]) trips⟩
  · obtain ⟨here, required⟩ := expected closed
    obtain rfl | field := List.mem_cons.mp given
    · exact here
    · exact required other (mem_requiredKeys.mp field)
  · have once := declaredProperties_nodup formed
    have different : other.1 ≠ key := by
      rw [listed, List.map_append, List.map_cons, List.nodup_append] at once
      exact once.2.2 _ (List.mem_map_of_mem earlier) _ (List.mem_cons_self ..)
    rw [Json.member, Json.find_holding] at present
    split_ifs at present with given
    cases present
    rw [Function.update_of_ne different]
    exact passes other earlier ((List.mem_cons.mp given).resolve_left different)

theorem Raisable.exists_trips (raisable : Raisable partialMatch schema) (formed : schema.WellFormed) :
    ∃ value, Trips partialMatch value schema := by
  induction raisable with
  | type given malformed => exact ⟨.null, .type given malformed⟩
  | pattern typed given malformed => exact ⟨.string "", .pattern typed given malformed⟩
  | bound typed listed malformed => exact trips_of_bound typed listed malformed
  | @items schema items size typed fits nonempty declared below ih =>
    obtain ⟨value, trips⟩ := ih (formed.member declared)
    obtain ⟨rest, rfl⟩ : ∃ rest, size = rest + 1 := ⟨size - 1, by omega⟩
    have length : ([] ++ value :: List.replicate rest .null).length = rest + 1 := by simp
    have here : Trips partialMatch (.array ([] ++ value :: List.replicate rest .null)) schema :=
      .item typed (length ▸ fits.1) (length ▸ fits.2) declared (by simp) trips
    exact ⟨_, here⟩
  | required typed listed malformed => exact trips_of_unnamed typed listed malformed
  | additionalProperties typed given malformed => exact trips_of_flag typed given malformed
  | @property schema nested key before after typed listed expected filled below ih =>
    by_cases named : ∀ entry ∈ requiredEntries schema, ∃ field, entry = .string field
    · by_cases flag : ∀ held, schema.member "additionalProperties" = some held →
          ∃ additional, held = .boolean additional
      · have entry : (key, nested) ∈ declaredProperties schema := by simp [listed]
        obtain ⟨raising, trips⟩ := ih (declaredProperties_formed formed entry)
        exact trips_of_property formed typed listed expected filled named flag trips
      · simp only [not_forall, not_exists] at flag
        obtain ⟨held, given, malformed⟩ := flag
        exact trips_of_flag typed given malformed
    · simp only [not_forall, not_exists] at named
      obtain ⟨entry, listed, unnamed⟩ := named
      exact trips_of_unnamed typed listed unnamed

theorem raisable_iff (formed : schema.WellFormed) :
    Raisable partialMatch schema ↔ ∃ value, (validateNode partialMatch value schema).Raises := by
  constructor
  · intro raisable
    obtain ⟨value, trips⟩ := raisable.exists_trips formed
    exact ⟨value, trips.raises⟩
  · rintro ⟨value, raises⟩
    exact (trips_of_raises raises).raisable

end Raisable

end Ztab
