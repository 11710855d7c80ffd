import Ztab.Json.Text

set_option autoImplicit false

/-!
# What a text says

Two questions about one text: what the depth-limiting callback leaves of its
value, and whether the rule for repeated keys matters.
-/

namespace Ztab

namespace JsonText

@[elab_as_elim]
theorem induct {motive : JsonText → Prop} (null : motive .null)
    (boolean : ∀ value, motive (.boolean value)) (number : ∀ literal, motive (.number literal))
    (string : ∀ value, motive (.string value))
    (array : ∀ elements, (∀ element ∈ elements, motive element) → motive (.array elements))
    (object : ∀ members, (∀ key value, (key, value) ∈ members → motive value) →
      motive (.object members)) (text : JsonText) : motive text := by
  match text with
  | .null => exact null
  | .boolean value => exact boolean value
  | .number literal => exact number literal
  | .string value => exact string value
  | .array elements =>
    refine array elements fun element listed => ?_
    have := List.sizeOf_lt_of_mem listed
    exact induct null boolean number string array object element
  | .object members =>
    refine object members fun key value listed => ?_
    have := List.sizeOf_lt_of_mem listed
    exact induct null boolean number string array object value
termination_by sizeOf text
decreasing_by
  · simp only [JsonText.array.sizeOf_spec]
    omega
  · simp only [JsonText.object.sizeOf_spec, Prod.mk.sizeOf_spec] at *
    omega

variable (rule : DuplicateKeys) (keep : Nat → Bool) (depth : Nat)

@[simp] theorem elementsToJson_eq (elements : List JsonText) :
    elementsToJson rule keep depth elements =
      elements.map (fun element => element.toJson rule keep depth) := by
  induction elements with
  | nil => simp [elementsToJson]
  | cons head rest ih => simp [elementsToJson, ih]

@[simp] theorem membersToJson_eq (members : List (String × JsonText)) (built : List (String × Json)) :
    membersToJson rule keep depth built members =
      members.foldl (fun built member =>
        rule.assign member.1 (member.2.toJson rule keep depth) built) built := by
  induction members generalizing built with
  | nil => simp [membersToJson]
  | cons head rest ih =>
    obtain ⟨key, value⟩ := head
    simp [membersToJson, ih]

theorem foldl_congr_members {change change' : JsonText → Json} (members : List (String × JsonText))
    (same : ∀ key value, (key, value) ∈ members → change value = change' value)
    (built : List (String × Json)) :
    members.foldl (fun built member => rule.assign member.1 (change member.2) built) built =
      members.foldl (fun built member => rule.assign member.1 (change' member.2) built) built := by
  induction members generalizing built with
  | nil => rfl
  | cons head rest ih =>
    obtain ⟨key, value⟩ := head
    rw [List.foldl_cons, List.foldl_cons, same key value (List.mem_cons_self ..)]
    exact ih (fun key value listed => same key value (List.mem_cons_of_mem _ listed)) _

theorem toJson_all (text : JsonText) (depth : Nat) :
    text.toJson rule (fun _ => true) depth = text.readAs rule := by
  unfold readAs
  induction text using induct generalizing depth with
  | null => simp [toJson]
  | boolean value => simp [toJson]
  | number literal => simp [toJson]
  | string value => simp [toJson]
  | array elements ih =>
    simp only [toJson, elementsToJson_eq, if_true, Json.array.injEq]
    refine List.map_congr_left fun element listed => ?_
    rw [ih element listed (depth + 1), ih element listed (0 + 1)]
  | object members ih =>
    simp only [toJson, membersToJson_eq, if_true, Json.object.injEq]
    refine foldl_congr_members rule members (fun key value listed => ?_) []
    rw [ih key value listed (depth + 1), ih key value listed (0 + 1)]

@[simp] theorem readAs_array (elements : List JsonText) :
    (JsonText.array elements).readAs rule =
      .array (elements.map (fun element => element.readAs rule)) := by
  simp only [readAs, toJson, elementsToJson_eq, if_true, Json.array.injEq]
  exact List.map_congr_left fun element _ => toJson_all rule element 1

@[simp] theorem readAs_object (members : List (String × JsonText)) :
    (JsonText.object members).readAs rule =
      .object (members.foldl (fun built member =>
        rule.assign member.1 (member.2.readAs rule) built) []) := by
  simp only [readAs, toJson, membersToJson_eq, if_true, Json.object.injEq]
  exact foldl_congr_members rule members (fun _ value _ => toJson_all rule value 1) []

end JsonText

namespace Json

-- The value with every container at the bound emptied.
def clip : Nat → Json → Json
  | 0, .array _ => .array []
  | 0, .object _ => .object []
  | bound + 1, .array elements => .array (elements.map (clip bound))
  | bound + 1, .object members => .object (members.map fun member => (member.1, clip bound member.2))
  | _, scalar => scalar

theorem depth_array_le {elements : List Json} {bound : Nat}
    (each : ∀ element ∈ elements, element.depth ≤ bound) :
    (Json.array elements).depth ≤ bound + 1 := by
  simp only [depth]
  induction elements with
  | nil => simp [elementsDepth]
  | cons head rest ih =>
    have first := each head (List.mem_cons_self ..)
    have others := ih (fun element listed => each element (List.mem_cons_of_mem _ listed))
    simp only [elementsDepth]
    omega

theorem depth_object_le {members : List (String × Json)} {bound : Nat}
    (each : ∀ member ∈ members, member.2.depth ≤ bound) :
    (Json.object members).depth ≤ bound + 1 := by
  simp only [depth]
  induction members with
  | nil => simp [membersDepth]
  | cons head rest ih =>
    obtain ⟨key, value⟩ := head
    have first : value.depth ≤ bound := each (key, value) (List.mem_cons_self ..)
    have others := ih (fun member listed => each member (List.mem_cons_of_mem _ listed))
    simp only [membersDepth]
    omega

theorem depth_clip (bound : Nat) (value : Json) : (value.clip bound).depth ≤ bound := by
  induction bound generalizing value with
  | zero => cases value <;> simp [clip, depth, elementsDepth, membersDepth]
  | succ bound ih =>
    cases value with
    | array elements =>
      refine depth_array_le fun element listed => ?_
      obtain ⟨held, -, rfl⟩ := List.mem_map.mp listed
      exact ih held
    | object members =>
      refine depth_object_le fun member listed => ?_
      obtain ⟨held, -, rfl⟩ := List.mem_map.mp listed
      exact ih held.2
    | _ => simp [clip, depth]

theorem clip_eq_self_iff {value : Json} {bound : Nat} :
    value.clip bound = value ↔ value.depth ≤ bound := by
  refine ⟨fun same => same ▸ depth_clip bound value, fun shallow => ?_⟩
  induction bound generalizing value with
  | zero =>
    cases value with
    | array elements =>
      cases elements with
      | nil => rfl
      | cons head rest =>
        have := depth_element (List.mem_cons_self (a := head) (l := rest))
        omega
    | object members =>
      cases members with
      | nil => rfl
      | cons head rest =>
        have := depth_memberValue (List.mem_cons_self (a := head) (l := rest))
        omega
    | _ => rfl
  | succ bound ih =>
    cases value with
    | array elements =>
      have kept (element : Json) (listed : element ∈ elements) : clip bound element = id element := by
        refine ih ?_
        have := depth_element listed
        omega
      rw [clip, List.map_congr_left kept, List.map_id]
    | object members =>
      have kept (member : String × Json) (listed : member ∈ members) :
          (member.1, clip bound member.2) = id member := by
        refine Prod.ext rfl (ih ?_)
        have := depth_memberValue listed
        omega
      rw [clip, List.map_congr_left kept, List.map_id]
    | _ => rfl

end Json

namespace JsonText

theorem foldl_assign_map (change : Json → Json) (read : JsonText → Json)
    (members : List (String × JsonText)) (built : List (String × Json)) :
    (members.foldl (fun built member => OrderedMap.assign member.1 (read member.2) built)
        built).map (fun member => (member.1, change member.2)) =
      members.foldl (fun built member =>
        OrderedMap.assign member.1 (change (read member.2)) built)
        (built.map fun member => (member.1, change member.2)) := by
  induction members generalizing built with
  | nil => rfl
  | cons head rest ih =>
    rw [List.foldl_cons, List.foldl_cons, ih, OrderedMap.map_assign]

theorem clip_literal (literal : NumberLiteral) (bound : Nat) :
    (literal.toJson?.getD .null).clip bound = literal.toJson?.getD .null := by
  unfold NumberLiteral.toJson?
  split_ifs
  · simp [Json.clip]
  · simp [Json.clip]
  · cases Binary64.ofDecimal literal.negative literal.digits literal.power <;> simp [Json.clip]

-- What a depth-limiting callback leaves is the clipped value of the whole text.
theorem toJson_limited (limit : Nat) (text : JsonText) (depth : Nat) (within : depth ≤ limit) :
    text.toJson .lastWins (fun depth => decide (depth ≤ limit)) depth =
      (text.readAs .lastWins).clip (limit - depth) := by
  induction text using induct generalizing depth with
  | null => simp [toJson, readAs, Json.clip]
  | boolean value => simp [toJson, readAs, Json.clip]
  | number literal =>
    simp only [readAs, toJson]
    exact (clip_literal literal _).symm
  | string value => simp [toJson, readAs, Json.clip]
  | array elements ih =>
    rw [readAs_array]
    by_cases deeper : depth + 1 ≤ limit
    · have bound : limit - depth = (limit - (depth + 1)) + 1 := by omega
      simp only [toJson, elementsToJson_eq, deeper, decide_true, if_true, bound, Json.clip,
        List.map_map, Json.array.injEq]
      exact List.map_congr_left fun element listed => ih element listed (depth + 1) deeper
    · have bound : limit - depth = 0 := by omega
      simp [toJson, deeper, bound, Json.clip]
  | object members ih =>
    rw [readAs_object]
    by_cases deeper : depth + 1 ≤ limit
    · have bound : limit - depth = (limit - (depth + 1)) + 1 := by omega
      simp only [toJson, membersToJson_eq, deeper, decide_true, if_true, bound, Json.clip,
        Json.object.injEq]
      rw [foldl_congr_members .lastWins members
        (fun key value listed => ih key value listed (depth + 1) deeper) []]
      exact (foldl_assign_map (Json.clip (limit - (depth + 1))) (readAs .lastWins) members []).symm
    · have bound : limit - depth = 0 := by omega
      simp [toJson, deeper, bound, Json.clip]

def valuesOf (key : String) (members : List (String × JsonText)) : List JsonText :=
  (members.filter fun member => member.1 = key).map Prod.snd

theorem valuesOf_cons (key other : String) (value : JsonText) (rest : List (String × JsonText)) :
    valuesOf key ((other, value) :: rest) =
      if other = key then value :: valuesOf key rest else valuesOf key rest := by
  unfold valuesOf
  rw [List.filter_cons]
  split_ifs <;> simp_all

theorem mem_of_valuesOf {key : String} {value : JsonText} {members : List (String × JsonText)}
    (listed : value ∈ valuesOf key members) : (key, value) ∈ members := by
  obtain ⟨⟨other, held⟩, member, rfl⟩ := List.mem_map.mp listed
  obtain ⟨member, same⟩ := List.mem_filter.mp member
  have named : other = key := by simpa using same
  exact named ▸ member

theorem find_lastWins (read : JsonText → Json) (key : String) (members : List (String × JsonText))
    (built : List (String × Json)) :
    OrderedMap.find key (members.foldl (fun built member =>
        DuplicateKeys.lastWins.assign member.1 (read member.2) built) built) =
      ((valuesOf key members).getLast?.map read).or (OrderedMap.find key built) := by
  induction members generalizing built with
  | nil => simp [valuesOf]
  | cons head rest ih =>
    obtain ⟨other, value⟩ := head
    rw [List.foldl_cons, ih, valuesOf_cons]
    simp only [DuplicateKeys.assign, OrderedMap.find_assign]
    by_cases same : other = key
    · subst same
      rcases List.eq_nil_or_concat' (valuesOf other rest) with empty | ⟨front, last, ends⟩
      · simp [empty]
      · rw [ends, if_pos rfl, if_pos rfl, ← List.cons_append, List.getLast?_concat,
          List.getLast?_concat]
        rfl
    · rw [if_neg (Ne.symm same), if_neg same]

theorem sorted_foldl (rule : DuplicateKeys) (read : JsonText → Json)
    (members : List (String × JsonText)) (built : List (String × Json))
    (sorted : OrderedMap.Sorted built) :
    OrderedMap.Sorted (members.foldl (fun built member =>
      rule.assign member.1 (read member.2) built) built) := by
  induction members generalizing built with
  | nil => exact sorted
  | cons head rest ih =>
    refine ih _ ?_
    have assigned := OrderedMap.sorted_assign head.1 (read head.2) built sorted
    cases rule with
    | lastWins => exact assigned
    | firstWins =>
      simp only [DuplicateKeys.assign]
      split_ifs
      · exact sorted
      · exact assigned

end JsonText

namespace Json

/-- Every object is a map: its keys are in order, none twice. -/
inductive WellFormed : Json → Prop
  | null : WellFormed .null
  | boolean (value : Bool) : WellFormed (.boolean value)
  | integer (value : Int) : WellFormed (.integer value)
  | float (value : Binary64) : WellFormed (.float value)
  | string (value : String) : WellFormed (.string value)
  | array (elements : List Json) (each : ∀ element ∈ elements, WellFormed element) :
      WellFormed (.array elements)
  | object (members : List (String × Json)) (sorted : OrderedMap.Sorted members)
      (each : ∀ member ∈ members, WellFormed member.2) : WellFormed (.object members)

theorem WellFormed.clip {value : Json} (formed : value.WellFormed) (bound : Nat) :
    (value.clip bound).WellFormed := by
  induction formed generalizing bound with
  | array elements each ih =>
    cases bound with
    | zero => exact .array [] (by simp)
    | succ bound =>
      refine .array _ fun element listed => ?_
      obtain ⟨held, there, rfl⟩ := List.mem_map.mp listed
      exact ih held there bound
  | object members sorted each ih =>
    cases bound with
    | zero => exact .object [] List.Pairwise.nil (by simp)
    | succ bound =>
      refine .object _ (List.pairwise_map.mpr sorted) fun member listed => ?_
      obtain ⟨held, there, rfl⟩ := List.mem_map.mp listed
      exact ih held there bound
  | null => cases bound <;> exact .null
  | boolean value => cases bound <;> exact .boolean value
  | integer value => cases bound <;> exact .integer value
  | float value => cases bound <;> exact .float value
  | string value => cases bound <;> exact .string value

end Json

namespace JsonText

theorem readAs_wellFormed (text : JsonText) : (text.readAs .lastWins).WellFormed := by
  induction text using induct with
  | null => exact .null
  | boolean value => exact .boolean value
  | string value => exact .string value
  | number literal =>
    have converted : (JsonText.number literal).readAs .lastWins = literal.toJson?.getD .null := by
      simp [readAs, toJson]
    rw [converted]
    unfold NumberLiteral.toJson?
    split_ifs
    · exact .integer _
    · exact .integer _
    · cases Binary64.ofDecimal literal.negative literal.digits literal.power with
      | none => exact .null
      | some number => exact .float number
  | array elements ih =>
    rw [readAs_array]
    refine .array _ fun element listed => ?_
    obtain ⟨held, there, rfl⟩ := List.mem_map.mp listed
    exact ih held there
  | object members ih =>
    rw [readAs_object]
    refine .object _ (sorted_foldl _ _ members [] List.Pairwise.nil) fun member listed => ?_
    have found := OrderedMap.find_of_mem (sorted_foldl .lastWins (readAs .lastWins) members []
      List.Pairwise.nil) listed
    rw [find_lastWins (readAs .lastWins)] at found
    simp only [OrderedMap.find, Option.or_none, Option.map_eq_some_iff] at found
    obtain ⟨text, spelled, same⟩ := found
    rw [← same]
    exact ih member.1 text (mem_of_valuesOf (List.mem_of_getLast? spelled))

end JsonText

end Ztab
