import Ztab.Tee.SchemaSemantics
import Ztab.Tee.Validation

set_option autoImplicit false

/-!
# A schema that was cut off

ValidateJsonSchema parses the schema as it does the text, so what the schema says below the
limit is not asked of any value.
-/

namespace Ztab

/-- The pairs ValidateNode is called with, and how many containers are around the node. -/
inductive WalksAt : Nat → Json → Json → Json → Json → Prop
  | here (value schema : Json) : WalksAt 0 value schema value schema
  | item {depth : Nat} {elements : List Json} {element schema items part node : Json}
      (typed : Typed schema "array") (listed : element ∈ elements)
      (declared : schema.member "items" = some items) (below : WalksAt depth element items part node) :
      WalksAt (depth + 1) (.array elements) schema part node
  | property {depth : Nat} {members : List (String × Json)} {key : String}
      {held schema properties nested part node : Json} (typed : Typed schema "object")
      (declared : schema.member "properties" = some properties)
      (listed : (key, nested) ∈ properties.items)
      (present : (Json.object members).member key = some held)
      (below : WalksAt depth held nested part node) :
      WalksAt (depth + 2) (.object members) schema part node

def BelowCutMet (partialMatch : PartialMatch) (bound : Nat) (value schema : Json) : Prop :=
  ∀ depth part node, WalksAt depth value schema part node → bound ≤ depth + 1 →
    Passes partialMatch part node

section Walks

variable {partialMatch : PartialMatch} {value schema : Json}

theorem walks_iff_walksAt {part node : Json} :
    Walks value schema part node ↔ ∃ depth, WalksAt depth value schema part node := by
  constructor
  · intro walk
    induction walk with
    | here value schema => exact ⟨0, .here value schema⟩
    | item typed listed declared below ih =>
      obtain ⟨depth, walk⟩ := ih
      exact ⟨depth + 1, .item typed listed declared walk⟩
    | property typed declared listed present below ih =>
      obtain ⟨depth, walk⟩ := ih
      exact ⟨depth + 2, .property typed declared listed present walk⟩
  · rintro ⟨depth, walk⟩
    induction walk with
    | here value schema => exact .here value schema
    | item typed listed declared below ih => exact .item typed listed declared ih
    | property typed declared listed present below ih =>
      exact .property typed declared listed present ih

theorem belowCutMet_all : BelowCutMet partialMatch 1 value schema ↔
    validateNode partialMatch value schema = .ok () := by
  rw [validateNode_ok_iff]
  constructor
  · intro met part node walk
    obtain ⟨depth, walk⟩ := walks_iff_walksAt.mp walk
    exact met depth part node walk (Nat.succ_le_succ (Nat.zero_le _))
  · exact fun passes depth part node walk _ => passes part node (walks_iff_walksAt.mpr ⟨depth, walk⟩)

-- A node that keeps its keywords: what is cut off lies below it.
theorem belowCutMet_succ {bound : Nat} :
    BelowCutMet partialMatch (bound + 2) value schema ↔
      (Typed schema "array" → ∀ elements, value = .array elements →
        ∀ items, schema.member "items" = some items → ∀ element ∈ elements,
          BelowCutMet partialMatch (bound + 1) element items) ∧
      (Typed schema "object" → ∀ members, value = .object members →
        ∀ properties, schema.member "properties" = some properties →
          ∀ key nested, (key, nested) ∈ properties.items → ∀ held, value.member key = some held →
            BelowCutMet partialMatch bound held nested) := by
  constructor
  · intro met
    constructor
    · rintro typed elements rfl items declared element listed depth part node walk deep
      exact met _ part node (.item typed listed declared walk) (by omega)
    · rintro typed members rfl properties declared key nested listed held present depth part node walk
        deep
      exact met _ part node (.property typed declared listed present walk) (by omega)
  · rintro ⟨items, properties⟩ depth part node walk deep
    cases walk with
    | here => omega
    | item typed listed declared below =>
      exact items typed _ rfl _ declared _ listed _ part node below (by omega)
    | property typed declared listed present below =>
      exact properties typed _ rfl _ declared _ _ listed _ present _ part node below (by omega)

end Walks

section Clip

variable {schema : Json} {bound : Nat}

theorem member_clip_node (key : String) :
    (schema.clip (bound + 1)).member key = (schema.member key).map (Json.clip bound) := by
  cases schema with
  | object members => exact member_clip bound members key
  | _ => rfl

theorem clip_string_iff {value : Json} {text : String} :
    value.clip bound = .string text ↔ value = .string text := by
  cases bound <;> cases value <;> simp [Json.clip]

theorem clip_boolean_iff {value : Json} {flag : Bool} :
    value.clip bound = .boolean flag ↔ value = .boolean flag := by
  cases bound <;> cases value <;> simp [Json.clip]

theorem getInt_clip (value : Json) : (value.clip bound).getInt = value.getInt := by
  cases bound <;> cases value <;> rfl

theorem typed_clip_iff {name : String} : Typed (schema.clip (bound + 1)) name ↔ Typed schema name := by
  unfold Typed
  rw [member_clip_node, Option.map_eq_some_iff]
  simp [clip_string_iff]

theorem iterate_clip (value : Json) :
    (value.clip (bound + 1)).iterate = value.iterate.map (Json.clip bound) := by
  cases value <;> simp [Json.clip, Json.iterate]

theorem items_clip (value : Json) :
    (value.clip (bound + 1)).items =
      value.items.map fun entry => (entry.1, entry.2.clip bound) := by
  cases value with
  | array elements =>
    simp only [Json.clip, Json.items, List.zipIdx_map, List.map_map]
    exact List.map_congr_left fun entry _ => rfl
  | object members => rfl
  | null => rfl
  | _ => simp [Json.clip, Json.items]

theorem declares_clip (key : String) : declares (schema.clip (bound + 2)) key = declares schema key := by
  unfold declares
  rw [member_clip_node]
  cases schema.member "properties" with
  | none => rfl
  | some properties => simp [member_clip_node]

variable {partialMatch : PartialMatch} {value : Json}

theorem passes_of_clip (passes : Passes partialMatch value (schema.clip (bound + 2))) :
    Passes partialMatch value schema := by
  have kept {keyword : String} {held : Json} (given : schema.member keyword = some held) :
      (schema.clip (bound + 2)).member keyword = some (held.clip (bound + 1)) := by
    rw [member_clip_node, given, Option.map_some]
  constructor
  · intro held given
    obtain ⟨name, same, holds⟩ := passes.type _ (kept given)
    exact ⟨name, clip_string_iff.mp same, holds⟩
  · intro typed text string held given
    obtain ⟨pattern, same, matched⟩ := passes.pattern (typed_clip_iff.mpr typed) text string _ (kept given)
    exact ⟨pattern, clip_string_iff.mp same, matched⟩
  · intro typed elements array held given
    obtain ⟨least, ok, enough⟩ := passes.minItems (typed_clip_iff.mpr typed) elements array _ (kept given)
    exact ⟨least, getInt_clip held ▸ ok, enough⟩
  · intro typed elements array held given
    obtain ⟨most, ok, few⟩ := passes.maxItems (typed_clip_iff.mpr typed) elements array _ (kept given)
    exact ⟨most, getInt_clip held ▸ ok, few⟩
  · intro typed members object held given entry listed
    have there : entry.clip bound ∈ (held.clip (bound + 1)).iterate := by
      rw [iterate_clip]
      exact List.mem_map_of_mem listed
    obtain ⟨field, same, present⟩ :=
      passes.required (typed_clip_iff.mpr typed) members object _ (kept given) _ there
    exact ⟨field, clip_string_iff.mp same, present⟩
  · intro typed members object held given
    obtain ⟨additional, same, declared⟩ :=
      passes.additionalProperties (typed_clip_iff.mpr typed) members object _ (kept given)
    refine ⟨additional, clip_boolean_iff.mp same, fun closed member listed => ?_⟩
    rw [← declares_clip]
    exact declared closed member listed

theorem descends_of_clip {check : Json → Json → Prop}
    (descends : Descends check value (schema.clip (bound + 2))) :
    (Typed schema "array" → ∀ elements, value = .array elements →
      ∀ items, schema.member "items" = some items → ∀ element ∈ elements,
        check element (items.clip (bound + 1))) ∧
    (Typed schema "object" → ∀ members, value = .object members →
      ∀ properties, schema.member "properties" = some properties →
        ∀ key nested, (key, nested) ∈ properties.items → ∀ held, value.member key = some held →
          check held (nested.clip bound)) := by
  constructor
  · intro typed elements array items declared
    refine descends.items (typed_clip_iff.mpr typed) elements array _ ?_
    rw [member_clip_node, declared, Option.map_some]
  · intro typed members object properties declared key nested listed
    refine descends.properties (typed_clip_iff.mpr typed) members object (properties.clip (bound + 1)) ?_
      key _ ?_
    · rw [member_clip_node, declared, Option.map_some]
    · rw [items_clip]
      exact List.mem_map.mpr ⟨(key, nested), listed, rfl⟩

theorem validateNode_ok_iff_belowCut (bound : Nat)
    (cut : validateNode partialMatch value (schema.clip bound) = .ok ()) :
    validateNode partialMatch value schema = .ok () ↔
      BelowCutMet partialMatch bound value schema := by
  induction bound using Nat.strong_induction_on generalizing value schema with
  | _ bound ih =>
    match bound with
    | 0 =>
      rw [← belowCutMet_all]
      exact ⟨fun met depth part node walk _ => met depth part node walk (by omega),
        fun met depth part node walk _ => met depth part node walk (by omega)⟩
    | 1 => exact belowCutMet_all.symm
    | bound + 2 =>
      obtain ⟨passes, descends⟩ := validateNode_level_iff.mp cut
      obtain ⟨items, properties⟩ := descends_of_clip descends
      rw [validateNode_level_iff, belowCutMet_succ]
      constructor
      · rintro ⟨-, whole⟩
        refine ⟨fun typed elements array nested declared element listed => ?_,
          fun typed members object held declared key nested listed found present => ?_⟩
        · exact (ih (bound + 1) (by omega)
            (items typed elements array nested declared element listed)).mp
            (whole.items typed elements array nested declared element listed)
        · exact (ih bound (by omega)
            (properties typed members object held declared key nested listed found present)).mp
            (whole.properties typed members object held declared key nested listed found present)
      · rintro ⟨below, deeper⟩
        refine ⟨passes_of_clip passes,
          fun typed elements array nested declared element listed => ?_,
          fun typed members object held declared key nested listed found present => ?_⟩
        · exact (ih (bound + 1) (by omega)
            (items typed elements array nested declared element listed)).mpr
            (below typed elements array nested declared element listed)
        · exact (ih bound (by omega)
            (properties typed members object held declared key nested listed found present)).mpr
            (deeper typed members object held declared key nested listed found present)

end Clip

end Ztab
