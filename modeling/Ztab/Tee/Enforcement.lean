import Mathlib.Data.List.Infix
import Mathlib.Data.List.Nodup
import Ztab.Json.Readings
import Ztab.Tee.SchemaSemantics

set_option autoImplicit false

/-!
# What a schema enforces

The validator against the meaning of the schema: where the two agree, which violations it lets
through, and which schemas it cannot be run on.
-/

namespace Ztab

section Bounds

variable {held : Json} {bound : Int}

theorem getInt_of_wholeNumber (whole : held.wholeNumber? = some bound)
    (low : -(2 ^ 31) ≤ bound) (high : bound < 2 ^ 31) : held.getInt = .ok bound := by
  cases held with
  | integer value =>
    simp only [Json.wholeNumber?, Option.some.injEq] at whole
    subst whole
    simp only [Json.getInt, Except.ok.injEq]
    exact Int.bmod_eq_of_le (by omega) (by omega)
  | float value =>
    simp only [Json.wholeNumber?] at whole
    split_ifs at whole
    cases whole
    simp only [Json.getInt]
    rw [if_pos ⟨low, high⟩]
  | _ => simp [Json.wholeNumber?] at whole

end Bounds

inductive Nested : Json → Json → Prop
  | here (schema : Json) : Nested schema schema
  | items {schema items node : Json} (declared : schema.member "items" = some items)
      (below : Nested items node) : Nested schema node
  | property {members : List (String × Json)} {key : String} {schema nested node : Json}
      (declared : schema.member "properties" = some (.object members))
      (listed : (key, nested) ∈ members) (below : Nested nested node) : Nested schema node

def BoundFits (schema : Json) (keyword : String) : Prop :=
  ∀ held, schema.member keyword = some held →
    ∃ bound, held.wholeNumber? = some bound ∧ -(2 ^ 31) ≤ bound ∧ bound < 2 ^ 31

structure SupportedNode (schema : Json) : Prop where
  type : ∃ name ∈ supportedTypes, Typed schema name
  pattern : ∀ held, schema.member "pattern" = some held → ∃ pattern, held = .string pattern
  minItems : BoundFits schema "minItems"
  maxItems : BoundFits schema "maxItems"
  required : ∀ held, schema.member "required" = some held →
    ∃ fields, held = .array fields ∧ ∀ entry ∈ fields, ∃ field, entry = .string field
  properties : ∀ held, schema.member "properties" = some held → ∃ members, held = .object members
  additionalProperties : ∀ held, schema.member "additionalProperties" = some held →
    ∃ additional, held = .boolean additional

def Supported (schema : Json) : Prop := ∀ node, Nested schema node → SupportedNode node

theorem Walks.reaches {value schema part node : Json} (walk : Walks value schema part node)
    (supported : Supported schema) : NodeApplies value schema part node ∧ Nested schema node := by
  induction walk with
  | here value schema => exact ⟨.here value schema, .here schema⟩
  | item typed listed declared below ih =>
    obtain ⟨applies, nested⟩ := ih fun node nested => supported node (.items declared nested)
    exact ⟨.item listed declared applies, .items declared nested⟩
  | property typed declared listed present below ih =>
    obtain ⟨members, rfl⟩ := (supported _ (.here _)).properties _ declared
    obtain ⟨applies, nested⟩ := ih fun node nested => supported node (.property declared listed nested)
    exact ⟨.property declared listed present applies, .property declared listed nested⟩

/-- The type is left out, or a name that no branch is for. -/
def PassedOver (schema : Json) : Prop :=
  ∀ held, schema.member "type" = some held → ∃ name, held = .string name ∧ name ∉ supportedTypes

def SizePasses (size : Nat) (schema : Json) : Prop :=
  MinItemsMet size schema ∧ MaxItemsMet size schema

-- What the bounds say before they are converted to `int`.
structure SizeObeys (size : Nat) (schema : Json) : Prop where
  minItems : ∀ held bound, schema.member "minItems" = some held → held.wholeNumber? = some bound →
    bound ≤ size
  maxItems : ∀ held bound, schema.member "maxItems" = some held → held.wholeNumber? = some bound →
    (size : Int) ≤ bound

def requiredEntries (schema : Json) : List Json := (schema.member "required").elim [] Json.iterate

def declaredProperties (schema : Json) : List (String × Json) :=
  (schema.member "properties").elim [] Json.items

/-- An object with the required fields and no others is let through to its properties. -/
structure Requirable (schema : Json) : Prop where
  named : ∀ entry ∈ requiredEntries schema, ∃ field, entry = .string field
  flag : ∀ held, schema.member "additionalProperties" = some held →
    ∃ additional, held = .boolean additional
  declared : schema.member "additionalProperties" = some (.boolean false) →
    ∀ field, .string field ∈ requiredEntries schema → declares schema field = true

section Node

variable {partialMatch : PartialMatch} {value schema : Json}

theorem SizePasses.obeys {size : Nat} (fits : SizePasses size schema)
    (low : BoundFits schema "minItems") (high : BoundFits schema "maxItems") :
    SizeObeys size schema := by
  constructor
  · intro held bound given whole
    obtain ⟨same, found, above, below⟩ := low held given
    cases found.symm.trans whole
    obtain ⟨converted, ok, met⟩ := fits.1 held given
    cases ok.symm.trans (getInt_of_wholeNumber whole above below)
    exact met
  · intro held bound given whole
    obtain ⟨same, found, above, below⟩ := high held given
    cases found.symm.trans whole
    obtain ⟨converted, ok, met⟩ := fits.2 held given
    cases ok.symm.trans (getInt_of_wholeNumber whole above below)
    exact met

theorem requiredMet_iff : RequiredMet value schema ↔
    ∀ entry ∈ requiredEntries schema, FieldPresent value entry := by
  unfold RequiredMet requiredEntries
  cases schema.member "required" <;> simp

theorem Passes.typed (passes : Passes partialMatch value schema) :
    PassedOver schema ∨
      ∃ name ∈ supportedTypes, Typed schema name ∧ value.hasType name = true := by
  cases given : schema.member "type" with
  | none =>
    left
    intro held impossible
    exact absurd (given.symm.trans impossible) (by simp)
  | some held =>
    obtain ⟨name, rfl, holds⟩ := passes.type held given
    by_cases supported : name ∈ supportedTypes
    · exact .inr ⟨name, supported, given, holds supported⟩
    · left
      intro other same
      cases given.symm.trans same
      exact ⟨name, rfl, supported⟩

theorem Passes.requirable (passes : Passes partialMatch value schema) (typed : Typed schema "object")
    {members : List (String × Json)} (object : value = .object members) : Requirable schema := by
  subst object
  have required := requiredMet_iff.mp (passes.required typed members rfl)
  constructor
  · intro entry listed
    obtain ⟨field, same, -⟩ := required entry listed
    exact ⟨field, same⟩
  · intro held given
    obtain ⟨additional, same, -⟩ := passes.additionalProperties typed members rfl held given
    exact ⟨additional, same⟩
  · intro closed field listed
    obtain ⟨_, same, present⟩ := required _ listed
    cases same
    obtain ⟨held, found⟩ := Option.isSome_iff_exists.mp present
    obtain ⟨_, same, declared⟩ := passes.additionalProperties typed members rfl _ closed
    cases same
    exact declared rfl (field, held) (OrderedMap.mem_of_find found)

theorem Passes.obeys {name : String} (passes : Passes partialMatch value schema)
    (typed : Typed schema name) (holds : value.hasType name = true)
    (sizes : ∀ elements, value = .array elements → SizeObeys elements.length schema) :
    Obeys partialMatch value schema := by
  -- The value has the node's type, so the keywords about it are those that were looked at.
  constructor
  · rintro rfl
    simp [Typed, Json.member] at typed
  · intro held given
    cases typed.symm.trans given
    exact holds
  · rintro pattern text given rfl
    have string : name = "string" := by simpa [Json.hasType] using holds
    obtain ⟨_, same, found⟩ := passes.pattern (string ▸ typed) text rfl _ given
    cases same
    exact found
  · intro held bound elements given whole array
    exact (sizes elements array).minItems held bound given whole
  · intro held bound elements given whole array
    exact (sizes elements array).maxItems held bound given whole
  · rintro fields field members given listed rfl
    have object : name = "object" := by simpa [Json.hasType] using holds
    obtain ⟨_, same, present⟩ := passes.required (object ▸ typed) members rfl _ given _ listed
    cases same
    exact present
  · rintro members given rfl key held listed
    have object : name = "object" := by simpa [Json.hasType] using holds
    obtain ⟨additional, same, declared⟩ :=
      passes.additionalProperties (object ▸ typed) members rfl _ given
    cases same
    exact declared rfl (key, held) listed

theorem Obeys.passes (obeys : Obeys partialMatch value schema) (supported : SupportedNode schema) :
    Passes partialMatch value schema := by
  constructor
  · intro held given
    obtain ⟨name, -, typed⟩ := supported.type
    cases typed.symm.trans given
    exact ⟨name, rfl, fun _ => obeys.type _ given⟩
  · rintro typed text rfl held given
    obtain ⟨pattern, rfl⟩ := supported.pattern held given
    exact ⟨pattern, rfl, obeys.pattern pattern text given rfl⟩
  · rintro typed elements rfl held given
    obtain ⟨bound, whole, low, high⟩ := supported.minItems held given
    exact ⟨bound, getInt_of_wholeNumber whole low high,
      obeys.minItems held bound elements given whole rfl⟩
  · rintro typed elements rfl held given
    obtain ⟨bound, whole, low, high⟩ := supported.maxItems held given
    exact ⟨bound, getInt_of_wholeNumber whole low high,
      obeys.maxItems held bound elements given whole rfl⟩
  · rintro typed members rfl held given entry listed
    obtain ⟨fields, rfl, strings⟩ := supported.required held given
    obtain ⟨field, rfl⟩ := strings entry listed
    exact ⟨field, rfl, obeys.required fields field members given listed rfl⟩
  · rintro typed members rfl held given
    obtain ⟨additional, rfl⟩ := supported.additionalProperties held given
    refine ⟨additional, rfl, ?_⟩
    rintro rfl ⟨key, value⟩ listed
    exact obeys.additionalProperties members given rfl key value listed

end Node

section Level

variable {partialMatch : PartialMatch} {value schema : Json}

theorem PassedOver.validateNode_ok (passed : PassedOver schema) :
    validateNode partialMatch value schema = .ok () := by
  have untyped : ∀ name ∈ supportedTypes, ¬ Typed schema name := by
    intro name supported typed
    obtain ⟨_, same, unsupported⟩ := passed _ typed
    cases same
    exact unsupported supported
  rw [validateNode_level_iff]
  refine ⟨⟨fun held given => ?_, ?_, ?_, ?_, ?_, ?_⟩, ?_, ?_⟩
  · obtain ⟨name, same, unsupported⟩ := passed held given
    exact ⟨name, same, fun supported => absurd supported unsupported⟩
  all_goals exact fun typed => absurd typed (untyped _ (by decide))

theorem validateLevel_typed {validate : Json → Json → Outcome Unit} {type : String}
    (typed : Typed schema type) :
    validateLevel partialMatch validate value schema =
      validateType partialMatch validate type value schema := by
  unfold Typed at typed
  unfold validateLevel
  rw [typed]
  rfl

theorem validateNode_array_iff (typed : Typed schema "array") {elements : List Json} :
    validateNode partialMatch (.array elements) schema = .ok () ↔
      SizePasses elements.length schema ∧ ∀ items, schema.member "items" = some items →
        ∀ element ∈ elements, validateNode partialMatch element items = .ok () := by
  rw [validateNode_eq, validateLevel_typed typed, SizePasses, and_assoc]
  exact validateArray_ok_iff elements

theorem validateNode_object_iff (typed : Typed schema "object") {members : List (String × Json)} :
    validateNode partialMatch (.object members) schema = .ok () ↔
      RequiredMet (.object members) schema ∧ AdditionalMet (.object members) schema ∧
        ∀ key nested, (key, nested) ∈ declaredProperties schema →
          ∀ held, (Json.object members).member key = some held →
            validateNode partialMatch held nested = .ok () := by
  rw [validateNode_eq, validateLevel_typed typed]
  refine validateObject_ok_iff.trans (and_congr_right fun _ => and_congr_right fun _ => ?_)
  unfold declaredProperties
  cases schema.member "properties" <;> simp

end Level

namespace Json

theorem WellFormed.member {value found : Json} {key : String} (formed : value.WellFormed)
    (present : value.member key = some found) : found.WellFormed := by
  cases formed with
  | object members sorted each => exact each (key, found) (OrderedMap.mem_of_find present)
  | _ => cases present

theorem WellFormed.items {value : Json} (formed : value.WellFormed) {entry : String × Json}
    (listed : entry ∈ value.items) : entry.2.WellFormed := by
  cases formed with
  | object members sorted each => exact each entry listed
  | array elements each =>
    obtain ⟨indexed, visited, rfl⟩ := List.mem_map.mp listed
    exact each _ (List.fst_mem_of_mem_zipIdx visited)
  | null => cases listed
  | boolean value =>
    cases List.mem_singleton.mp listed
    exact .boolean value
  | integer value =>
    cases List.mem_singleton.mp listed
    exact .integer value
  | float value =>
    cases List.mem_singleton.mp listed
    exact .float value
  | string value =>
    cases List.mem_singleton.mp listed
    exact .string value

theorem toString_inj {first second : Nat} (same : toString first = toString second) :
    first = second := by
  rw [Nat.toString_eq_ofList_toDigits, Nat.toString_eq_ofList_toDigits, String.ofList_inj] at same
  rw [← Nat.ofDigitChars_ten_toDigits (n := first), same, Nat.ofDigitChars_ten_toDigits]

theorem WellFormed.items_nodup {value : Json} (formed : value.WellFormed) :
    (value.items.map Prod.fst).Nodup := by
  cases formed with
  | object members sorted each =>
    rw [Json.items, List.Nodup, List.pairwise_map]
    exact sorted.imp fun before => before.ne
  | array elements each =>
    rw [Json.items, List.map_map, List.Nodup, List.pairwise_map]
    have indices : (elements.zipIdx.map Prod.snd).Nodup := by
      rw [List.zipIdx_map_snd]
      exact List.nodup_range'
    rw [List.Nodup, List.pairwise_map] at indices
    exact indices.imp fun different same => different (toString_inj same)
  | null => simp [Json.items]
  | boolean | integer | float | string => simp [Json.items]

def holding (held : String → Json) (keys : List String) : List (String × Json) :=
  keys.foldr (fun key members => OrderedMap.assign key (held key) members) []

theorem find_holding (held : String → Json) (keys : List String) (key : String) :
    OrderedMap.find key (holding held keys) = if key ∈ keys then some (held key) else none := by
  induction keys with
  | nil => rfl
  | cons first rest ih =>
    simp only [holding, List.foldr_cons, OrderedMap.find_assign, List.mem_cons]
    by_cases same : key = first
    · simp [same]
    · simpa [same, holding] using ih

theorem key_of_mem_holding {held : String → Json} {keys : List String} {member : String × Json}
    (listed : member ∈ holding held keys) : member.1 ∈ keys := by
  induction keys with
  | nil => cases listed
  | cons first rest ih =>
    obtain rfl | later := OrderedMap.mem_assign listed
    · exact List.mem_cons_self ..
    · exact List.mem_cons_of_mem _ (ih later)

end Json

def requiredKeys (schema : Json) : List String :=
  (requiredEntries schema).filterMap fun entry => entry.getString.toOption

section Made

variable {schema : Json} {held : String → Json} {keys : List String}

theorem mem_requiredKeys {field : String} :
    field ∈ requiredKeys schema ↔ .string field ∈ requiredEntries schema := by
  unfold requiredKeys
  rw [List.mem_filterMap]
  constructor
  · rintro ⟨entry, listed, named⟩
    exact Json.getString_ok_iff.mp (Effect.ok_of_toOption named) ▸ listed
  · exact fun listed => ⟨_, listed, rfl⟩

theorem requiredMet_holding (held : String → Json)
    (complete : ∀ field ∈ requiredKeys schema, field ∈ keys)
    (named : ∀ entry ∈ requiredEntries schema, ∃ field, entry = .string field) :
    RequiredMet (.object (Json.holding held keys)) schema := by
  rw [requiredMet_iff]
  intro entry listed
  obtain ⟨field, rfl⟩ := named entry listed
  refine ⟨field, rfl, ?_⟩
  have given := complete field (mem_requiredKeys.mpr listed)
  simp [Json.member, Json.find_holding, given]

theorem additionalMet_holding
    (flag : ∀ held, schema.member "additionalProperties" = some held →
      ∃ additional, held = .boolean additional)
    (expected : schema.member "additionalProperties" = some (.boolean false) →
      ∀ key ∈ keys, declares schema key = true) :
    AdditionalMet (.object (Json.holding held keys)) schema := by
  intro found given
  obtain ⟨additional, rfl⟩ := flag found given
  refine ⟨additional, rfl, ?_⟩
  rintro rfl member listed
  exact expected given member.1 (Json.key_of_mem_holding listed)

end Made

inductive Fillable (partialMatch : PartialMatch) : Json → Prop
  | passedOver {schema : Json} (passed : PassedOver schema) : Fillable partialMatch schema
  | scalar {schema : Json} {name : String} (scalar : name ∈ ["number", "integer", "boolean"])
      (typed : Typed schema name) : Fillable partialMatch schema
  | string {schema : Json} {text : String} (typed : Typed schema "string")
      (matched : PatternMet partialMatch text schema) : Fillable partialMatch schema
  | array {schema : Json} {size : Nat} (typed : Typed schema "array") (fits : SizePasses size schema)
      (filled : 0 < size → ∀ items, schema.member "items" = some items →
        Fillable partialMatch items) : Fillable partialMatch schema
  | object {schema : Json} (typed : Typed schema "object") (requirable : Requirable schema)
      (filled : ∀ key nested, (key, nested) ∈ declaredProperties schema →
        .string key ∈ requiredEntries schema → Fillable partialMatch nested) :
      Fillable partialMatch schema

def Violable (partialMatch : PartialMatch) (schema : Json) : Prop :=
  ∃ value, ¬ Satisfies partialMatch value schema

/-- A value may violate the schema and pass: at a node whose type is left out or misspelled, by a
bound outside the range of `int`, or under a list of schemas for the positions of an array. -/
inductive Unenforced (partialMatch : PartialMatch) : Json → Prop
  | passedOver {schema : Json} (passed : PassedOver schema)
      (violable : Violable partialMatch schema) : Unenforced partialMatch schema
  | bound {schema : Json} {size : Nat} (typed : Typed schema "array") (fits : SizePasses size schema)
      (filled : 0 < size → ∀ items, schema.member "items" = some items →
        Fillable partialMatch items)
      (exceeds : ¬ SizeObeys size schema) : Unenforced partialMatch schema
  | position {schema nested : Json} {schemas : List Json} {size index : Nat}
      (typed : Typed schema "array") (fits : SizePasses size schema)
      (declared : schema.member "items" = some (.array schemas))
      (listed : schemas[index]? = some nested) (inside : index < size)
      (violable : Violable partialMatch nested) : Unenforced partialMatch schema
  | items {schema items : Json} {size : Nat} (typed : Typed schema "array")
      (fits : SizePasses size schema) (nonempty : 0 < size)
      (declared : schema.member "items" = some items) (below : Unenforced partialMatch items) :
      Unenforced partialMatch schema
  | property {schema nested : Json} {key : String} {members : List (String × Json)}
      (typed : Typed schema "object") (requirable : Requirable schema)
      (declared : schema.member "properties" = some (.object members))
      (listed : (key, nested) ∈ members)
      (filled : ∀ other sibling, (other, sibling) ∈ members → .string other ∈ requiredEntries schema →
        other ≠ key → Fillable partialMatch sibling)
      (below : Unenforced partialMatch nested) : Unenforced partialMatch schema

section Made

variable {partialMatch : PartialMatch} {schema : Json}

theorem declaredProperties_object {members : List (String × Json)}
    (declared : schema.member "properties" = some (.object members)) :
    declaredProperties schema = members := by
  rw [declaredProperties, declared]
  rfl

theorem declares_of_mem {key : String} {nested : Json} {members : List (String × Json)}
    (declared : schema.member "properties" = some (.object members))
    (listed : (key, nested) ∈ members) : declares schema key = true := by
  unfold declares
  rw [declared]
  exact (OrderedMap.find_isSome_iff key members).mpr (List.mem_map.mpr ⟨_, listed, rfl⟩)

theorem declaredProperties_nodup (formed : schema.WellFormed) :
    ((declaredProperties schema).map Prod.fst).Nodup := by
  unfold declaredProperties
  cases declared : schema.member "properties" with
  | none => exact List.nodup_nil
  | some properties => exact (formed.member declared).items_nodup

theorem declaredProperties_formed (formed : schema.WellFormed) {entry : String × Json}
    (listed : entry ∈ declaredProperties schema) : entry.2.WellFormed := by
  unfold declaredProperties at listed
  cases declared : schema.member "properties" with
  | none =>
    rw [declared] at listed
    cases listed
  | some properties =>
    rw [declared] at listed
    exact (formed.member declared).items listed

-- Each key has one schema, so values that pass can be chosen key by key.
theorem choose_members (formed : schema.WellFormed) (check : Json → Json → Prop) (keys : List String)
    (each : ∀ key nested, (key, nested) ∈ declaredProperties schema → key ∈ keys →
      ∃ held, check held nested) :
    ∃ held : String → Json, ∀ key nested, (key, nested) ∈ declaredProperties schema → key ∈ keys →
      check (held key) nested := by
  have pick (key : String) : ∃ held, ∀ nested, (key, nested) ∈ declaredProperties schema →
      key ∈ keys → check held nested := by
    by_cases needed : ∃ nested, (key, nested) ∈ declaredProperties schema ∧ key ∈ keys
    · obtain ⟨nested, listed, given⟩ := needed
      obtain ⟨held, checked⟩ := each key nested listed given
      refine ⟨held, fun other also _ => ?_⟩
      cases List.inj_on_of_nodup_map (declaredProperties_nodup formed) listed also rfl
      exact checked
    · exact ⟨.null, fun nested listed given => absurd ⟨nested, listed, given⟩ needed⟩
  choose held checked using pick
  exact ⟨held, fun key nested listed given => checked key nested listed given⟩

theorem validateNode_holding (typed : Typed schema "object") (requirable : Requirable schema)
    {held : String → Json} {keys : List String} (complete : ∀ field ∈ requiredKeys schema, field ∈ keys)
    (expected : schema.member "additionalProperties" = some (.boolean false) →
      ∀ key ∈ keys, declares schema key = true)
    (each : ∀ key nested, (key, nested) ∈ declaredProperties schema → key ∈ keys →
      validateNode partialMatch (held key) nested = .ok ()) :
    validateNode partialMatch (.object (Json.holding held keys)) schema = .ok () := by
  refine (validateNode_object_iff typed).mpr ⟨requiredMet_holding held complete requirable.named,
    additionalMet_holding requirable.flag expected, ?_⟩
  intro key nested listed found present
  rw [Json.member, Json.find_holding] at present
  split_ifs at present with given
  cases present
  exact each key nested listed given

theorem validateNode_replicate (typed : Typed schema "array") {size : Nat}
    (fits : SizePasses size schema) {value : Json}
    (passes : 0 < size → ∀ items, schema.member "items" = some items →
      validateNode partialMatch value items = .ok ()) :
    validateNode partialMatch (.array (List.replicate size value)) schema = .ok () := by
  refine (validateNode_array_iff typed).mpr ⟨by rwa [List.length_replicate], ?_⟩
  intro items declared element listed
  obtain ⟨nonempty, rfl⟩ := List.mem_replicate.mp listed
  exact passes (Nat.pos_of_ne_zero nonempty) items declared

theorem choose_element {size : Nat} (check : Json → Json → Prop)
    (each : 0 < size → ∀ items, schema.member "items" = some items → ∃ value, check value items) :
    ∃ value, 0 < size → ∀ items, schema.member "items" = some items → check value items := by
  by_cases needed : 0 < size ∧ (schema.member "items").isSome = true
  · obtain ⟨nonempty, some⟩ := needed
    obtain ⟨items, declared⟩ := Option.isSome_iff_exists.mp some
    obtain ⟨value, checked⟩ := each nonempty items declared
    refine ⟨value, fun _ other same => ?_⟩
    cases declared.symm.trans same
    exact checked
  · exact ⟨.null, fun nonempty items declared => absurd ⟨nonempty, by simp [declared]⟩ needed⟩

theorem Fillable.exists_ok (fillable : Fillable partialMatch schema) (formed : schema.WellFormed) :
    ∃ value, validateNode partialMatch value schema = .ok () := by
  induction fillable with
  | passedOver passed => exact ⟨.null, passed.validateNode_ok⟩
  | scalar scalar typed =>
    simp only [List.mem_cons, List.not_mem_nil, or_false] at scalar
    obtain rfl | rfl | rfl := scalar
    · exact ⟨.integer 0, by rw [validateNode_eq, validateLevel_typed typed]; rfl⟩
    · exact ⟨.integer 0, by rw [validateNode_eq, validateLevel_typed typed]; rfl⟩
    · exact ⟨.boolean true, by rw [validateNode_eq, validateLevel_typed typed]; rfl⟩
  | @string schema text typed matched =>
    refine ⟨.string text, ?_⟩
    rw [validateNode_eq, validateLevel_typed typed]
    exact (validatePattern_ok_iff text).mpr matched
  | @array schema size typed fits filled ih =>
    obtain ⟨value, passes⟩ := choose_element
      (fun value nested => validateNode partialMatch value nested = .ok ())
      fun nonempty items declared => ih nonempty items declared (formed.member declared)
    exact ⟨_, validateNode_replicate typed fits passes⟩
  | @object schema typed requirable filled ih =>
    obtain ⟨held, passes⟩ := choose_members formed
      (fun value nested => validateNode partialMatch value nested = .ok ()) (requiredKeys schema)
      fun key nested listed given => ih key nested listed (mem_requiredKeys.mp given)
        (declaredProperties_formed formed listed)
    refine ⟨_, validateNode_holding typed requirable (fun _ given => given) (fun closed key given => ?_) passes⟩
    exact requirable.declared closed key (mem_requiredKeys.mp given)

end Made

section Enforced

variable {partialMatch : PartialMatch} {value schema : Json}

theorem Passes.sizePasses (passes : Passes partialMatch value schema) (typed : Typed schema "array")
    {elements : List Json} (array : value = .array elements) : SizePasses elements.length schema :=
  ⟨passes.minItems typed elements array, passes.maxItems typed elements array⟩

theorem mem_declaredProperties {entry : String × Json} :
    entry ∈ declaredProperties schema ↔
      ∃ properties, schema.member "properties" = some properties ∧ entry ∈ properties.items := by
  unfold declaredProperties
  cases schema.member "properties" <;> simp

theorem fillable_of_ok (ok : validateNode partialMatch value schema = .ok ()) :
    Fillable partialMatch schema := by
  induction depth : schema.depth using Nat.strong_induction_on generalizing value schema with
  | _ depth ih =>
    subst depth
    obtain ⟨passes, descends⟩ := validateNode_level_iff.mp ok
    obtain passed | ⟨name, supported, typed, holds⟩ := passes.typed
    · exact .passedOver passed
    by_cases scalar : name ∈ ["number", "integer", "boolean"]
    · exact .scalar scalar typed
    have container : name = "string" ∨ name = "array" ∨ name = "object" := by
      simp only [supportedTypes, List.mem_cons, List.not_mem_nil, or_false] at supported scalar
      tauto
    obtain rfl | rfl | rfl := container
    · cases value with
      | string text => exact .string typed (passes.pattern typed text rfl)
      | _ => simp [Json.hasType] at holds
    · cases value with
      | array elements =>
        refine .array typed (passes.sizePasses typed rfl) fun nonempty items declared => ?_
        exact ih _ (Json.depth_member declared) (descends.items typed elements rfl items declared _
          (List.getElem_mem nonempty)) rfl
      | _ => simp [Json.hasType] at holds
    · cases value with
      | object members =>
        refine .object typed (passes.requirable typed rfl) fun key nested listed required => ?_
        obtain ⟨properties, declared, entry⟩ := mem_declaredProperties.mp listed
        obtain ⟨_, same, present⟩ :=
          requiredMet_iff.mp (passes.required typed members rfl) _ required
        cases same
        obtain ⟨held, found⟩ := Option.isSome_iff_exists.mp present
        have shallower : nested.depth < schema.depth := by
          have := Json.depth_member declared
          have := Json.depth_items entry
          omega
        exact ih _ shallower
          (descends.properties typed members rfl properties declared key nested entry held found) rfl
      | _ => simp [Json.hasType] at holds

theorem fillable_iff (formed : schema.WellFormed) :
    Fillable partialMatch schema ↔ ∃ value, validateNode partialMatch value schema = .ok () :=
  ⟨fun fillable => fillable.exists_ok formed, fun ⟨_, ok⟩ => fillable_of_ok ok⟩

theorem Unenforced.exists_violation (unenforced : Unenforced partialMatch schema)
    (formed : schema.WellFormed) :
    ∃ value, validateNode partialMatch value schema = .ok () ∧
      ¬ Satisfies partialMatch value schema := by
  induction unenforced with
  | passedOver passed violable =>
    obtain ⟨value, violates⟩ := violable
    exact ⟨value, passed.validateNode_ok, violates⟩
  | @bound schema size typed fits filled exceeds =>
    obtain ⟨value, passes⟩ := choose_element
      (fun value nested => validateNode partialMatch value nested = .ok ())
      fun nonempty items declared => (filled nonempty items declared).exists_ok (formed.member declared)
    refine ⟨_, validateNode_replicate typed fits passes, ?_⟩
    · intro satisfies
      have obeys := satisfies _ _ (.here _ _)
      refine exceeds ⟨fun held bound given whole => ?_, fun held bound given whole => ?_⟩
      · simpa using obeys.minItems held bound _ given whole rfl
      · simpa using obeys.maxItems held bound _ given whole rfl
  | @position schema nested schemas size index typed fits declared listed inside violable =>
    obtain ⟨value, violates⟩ := violable
    refine ⟨.array (List.replicate size value), validateNode_replicate typed fits ?_, ?_⟩
    · -- A list is no object, so the elements are not looked at.
      intro _ items same
      cases declared.symm.trans same
      refine PassedOver.validateNode_ok fun held given => ?_
      cases given
    · intro satisfies
      refine violates (satisfies.position declared listed ?_)
      rw [List.getElem?_replicate, if_pos inside]
  | @items schema items size typed fits nonempty declared below ih =>
    obtain ⟨value, passes, violates⟩ := ih (formed.member declared)
    refine ⟨.array (List.replicate size value), validateNode_replicate typed fits ?_, ?_⟩
    · intro _ other same
      cases declared.symm.trans same
      exact passes
    · intro satisfies
      exact violates (satisfies.item declared (List.mem_replicate.mpr ⟨nonempty.ne', rfl⟩))
  | @property schema nested key members typed requirable declared listed filled below ih =>
    have here : (key, nested) ∈ declaredProperties schema := by
      rwa [declaredProperties_object declared]
    obtain ⟨violation, passes, violates⟩ := ih (declaredProperties_formed formed here)
    obtain ⟨held, chosen⟩ := choose_members formed
      (fun value nested => validateNode partialMatch value nested = .ok ()) (requiredKeys schema)
      (fun other sibling also given => by
        by_cases same : other = key
        · subst same
          cases List.inj_on_of_nodup_map (declaredProperties_nodup formed) here also rfl
          exact ⟨violation, passes⟩
        · rw [declaredProperties_object declared] at also
          refine (filled other sibling also (mem_requiredKeys.mp given) same).exists_ok ?_
          exact declaredProperties_formed formed (by rwa [declaredProperties_object declared]))
    refine ⟨.object (Json.holding (Function.update held key violation) (key :: requiredKeys schema)),
      validateNode_holding typed requirable (fun field given => List.mem_cons_of_mem _ given)
        (fun closed other given => ?_) (fun other sibling also given => ?_), fun satisfies => ?_⟩
    · obtain rfl | required := List.mem_cons.mp given
      · exact declares_of_mem declared listed
      · exact requirable.declared closed other (mem_requiredKeys.mp required)
    · by_cases same : other = key
      · subst same
        cases List.inj_on_of_nodup_map (declaredProperties_nodup formed) here also rfl
        rwa [Function.update_self]
      · rw [Function.update_of_ne same]
        exact chosen other sibling also ((List.mem_cons.mp given).resolve_left same)
    · refine violates (satisfies.property declared listed ?_)
      simp [Json.member, Json.find_holding]

-- One level: what passes is violated only where the schema does not enforce itself.
theorem satisfies_or_unenforced (ok : validateNode partialMatch value schema = .ok ()) :
    Satisfies partialMatch value schema ∨ Unenforced partialMatch schema := by
  induction depth : schema.depth using Nat.strong_induction_on generalizing value schema with
  | _ depth ih =>
    subst depth
    by_cases enforced : Unenforced partialMatch schema
    · exact .inr enforced
    left
    obtain ⟨passes, descends⟩ := validateNode_level_iff.mp ok
    obtain passed | ⟨name, supported, typed, holds⟩ := passes.typed
    · by_contra violates
      exact enforced (.passedOver passed ⟨value, violates⟩)
    have array {elements : List Json} (same : value = .array elements) : Typed schema "array" := by
      subst same
      have array : name = "array" := by simpa [Json.hasType] using holds
      exact array ▸ typed
    refine satisfies_of_level (passes.obeys typed holds fun elements same => ?_) ?_ ?_ ?_
    · by_contra exceeds
      refine enforced (.bound (array same) (passes.sizePasses (array same) same)
        (fun nonempty items declared => ?_) exceeds)
      exact fillable_of_ok (descends.items (array same) elements same items declared _
        (List.getElem_mem nonempty))
    · intro elements same items declared element listed
      refine (ih _ (Json.depth_member declared) (descends.items (array same) elements same items
        declared element listed) rfl).resolve_right fun below => enforced ?_
      exact .items (array same) (passes.sizePasses (array same) same)
        (List.length_pos_of_mem listed) declared below
    · intro elements same schemas declared index nested element listed present
      by_contra violates
      exact enforced (.position (array same) (passes.sizePasses (array same) same) declared listed
        (List.getElem?_eq_some_iff.mp present).1 ⟨element, violates⟩)
    · intro properties declared key nested listed held present
      obtain ⟨members, rfl⟩ : ∃ members, value = .object members := by
        cases value <;> simp [Json.member] at present
        exact ⟨_, rfl⟩
      have object : Typed schema "object" := by
        have object : name = "object" := by simpa [Json.hasType] using holds
        exact object ▸ typed
      have checked (other : String) (sibling : Json) (entry : (other, sibling) ∈ properties)
          (found : Json) (given : (Json.object members).member other = some found) :
          validateNode partialMatch found sibling = .ok () :=
        descends.properties object members rfl _ declared other sibling entry found given
      have shallower : nested.depth < schema.depth :=
        (Json.depth_memberValue listed).trans (Json.depth_member declared)
      refine (ih _ shallower (checked key nested listed held present) rfl).resolve_right
        fun below => enforced ?_
      refine .property object (passes.requirable object rfl) declared listed
        (fun other sibling entry required _ => ?_) below
      obtain ⟨_, same, given⟩ := requiredMet_iff.mp (passes.required object members rfl) _ required
      cases same
      obtain ⟨found, given⟩ := Option.isSome_iff_exists.mp given
      exact fillable_of_ok (checked other sibling entry found given)

theorem unenforced_iff (formed : schema.WellFormed) :
    Unenforced partialMatch schema ↔
      ∃ value, validateNode partialMatch value schema = .ok () ∧
        ¬ Satisfies partialMatch value schema := by
  constructor
  · exact fun unenforced => unenforced.exists_violation formed
  · rintro ⟨value, ok, violates⟩
    exact (satisfies_or_unenforced ok).resolve_left violates

theorem Supported.enforced (supported : Supported schema) : ¬ Unenforced partialMatch schema := by
  intro unenforced
  induction unenforced with
  | passedOver passed violable =>
    obtain ⟨name, listed, typed⟩ := (supported _ (.here _)).type
    obtain ⟨_, same, unsupported⟩ := passed _ typed
    cases same
    exact unsupported listed
  | bound typed fits filled exceeds =>
    have here := supported _ (.here _)
    exact exceeds (fits.obeys here.minItems here.maxItems)
  | position typed fits declared listed inside violable =>
    obtain ⟨name, -, typed⟩ := (supported _ (.items declared (.here _))).type
    cases typed
  | items typed fits nonempty declared below ih =>
    exact ih fun node nested => supported node (.items declared nested)
  | property typed requirable declared listed filled below ih =>
    exact ih fun node nested => supported node (.property declared listed nested)

end Enforced

theorem validateNode_decides (partialMatch : PartialMatch) (value schema : Json)
    (supported : Supported schema) :
    validateNode partialMatch value schema = .ok () ↔ Satisfies partialMatch value schema := by
  constructor
  · exact fun ok => (satisfies_or_unenforced ok).resolve_right supported.enforced
  · intro satisfies
    rw [validateNode_ok_iff]
    intro part node walk
    obtain ⟨reached, nested⟩ := walk.reaches supported
    exact (satisfies part node reached).passes (supported node nested)

-- RE2 on a pattern without operators.
def substringMatch : PartialMatch := fun text pattern => decide (pattern.toList <:+: text.toList)

def lettersSchema : Json :=
  .object [("items", .object [("pattern", .string "a"), ("type", .string "string")]),
    ("maxItems", .integer 2), ("type", .string "array")]

theorem lettersSchema_supported : Supported lettersSchema := by
  have letter : SupportedNode (.object [("pattern", .string "a"), ("type", .string "string")]) := by
    constructor
    · exact ⟨"string", by decide, rfl⟩
    all_goals simp [Json.member, OrderedMap.find, BoundFits]
  have array : SupportedNode lettersSchema := by
    constructor
    · exact ⟨"array", by decide, rfl⟩
    all_goals simp [lettersSchema, Json.member, OrderedMap.find, BoundFits, Json.wholeNumber?]
  intro node nested
  cases nested with
  | here => exact array
  | items declared below =>
    simp only [lettersSchema, Json.member, OrderedMap.find, if_true, Option.some.injEq] at declared
    subst declared
    cases below with
    | here => exact letter
    | items declared => simp [Json.member, OrderedMap.find] at declared
    | property declared => simp [Json.member, OrderedMap.find] at declared
  | property declared => simp [lettersSchema, Json.member, OrderedMap.find] at declared

theorem letters_decided :
    Supported lettersSchema ∧ Satisfies substringMatch (.array [.string "ba"]) lettersSchema :=
  ⟨lettersSchema_supported,
    (validateNode_decides substringMatch _ _ lettersSchema_supported).mp (by decide +kernel)⟩

/-- No value violates the schema and passes, exactly when the schema enforces itself. -/
theorem validateNode_fails_closed_iff (partialMatch : PartialMatch) (schema : Json)
    (formed : schema.WellFormed) :
    (∀ value, ¬ Satisfies partialMatch value schema →
        validateNode partialMatch value schema ≠ .ok ()) ↔
      ¬ Unenforced partialMatch schema := by
  rw [unenforced_iff formed]
  constructor
  · rintro closed ⟨value, ok, violates⟩
    exact closed value violates ok
  · intro enforced value violates ok
    exact enforced ⟨value, ok, violates⟩

-- A list of types is not supported, and lets nothing through.
def nullableSchema : Json := .object [("type", .array [.string "object", .string "null"])]

theorem nullable_fails_closed :
    ¬ Unenforced substringMatch nullableSchema ∧
      ∀ value, ¬ Satisfies substringMatch value nullableSchema →
        validateNode substringMatch value nullableSchema ≠ .ok () := by
  have untyped (name : String) : ¬ Typed nullableSchema name := by
    simp [Typed, nullableSchema, Json.member, OrderedMap.find]
  have formed : nullableSchema.WellFormed := by
    refine .object _ (List.pairwise_singleton ..) fun member listed => ?_
    cases List.mem_singleton.mp listed
    refine .array _ fun element listed => ?_
    simp only [List.mem_cons, List.not_mem_nil, or_false] at listed
    obtain rfl | rfl := listed <;> exact .string _
  have enforced : ¬ Unenforced substringMatch nullableSchema := by
    intro unenforced
    cases unenforced with
    | passedOver passed =>
      obtain ⟨name, same, -⟩ := passed _ rfl
      cases same
    | bound typed | position typed | items typed | property typed => exact untyped _ typed
  exact ⟨enforced, (validateNode_fails_closed_iff substringMatch nullableSchema formed).mpr enforced⟩

/-- Without `type` the required field may be missing. -/
theorem untyped_node_unenforced :
    ¬ Satisfies substringMatch (.object []) (.object [("required", .array [.string "a"])]) ∧
      validateNode substringMatch (.object []) (.object [("required", .array [.string "a"])]) =
        .ok () := by
  refine ⟨fun satisfies => ?_, rfl⟩
  have present := (satisfies _ _ (.here _ _)).required [.string "a"] "a" [] rfl (by simp) rfl
  simp [Json.member, OrderedMap.find] at present

end Ztab
