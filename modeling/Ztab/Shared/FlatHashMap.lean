import Mathlib.Data.List.AList

set_option autoImplicit false

/-!
# Hash maps

A map is a list of entries with distinct keys, in an iteration order that no
lookup depends on.
-/

abbrev FlatHashMap (K V : Type) := AList (fun _ : K => V)

namespace FlatHashMap

variable {K V : Type} [DecidableEq K]

def size (map : FlatHashMap K V) : Nat := map.keys.length

def values (map : FlatHashMap K V) : List V := map.entries.map Sigma.snd

def eraseAll (keys : List K) (map : FlatHashMap K V) : FlatHashMap K V :=
  keys.foldl (fun current key => current.erase key) map

theorem lookup_insert_ite (map : FlatHashMap K V) (key other : K) (value : V) :
    (map.insert key value).lookup other = if other = key then some value else map.lookup other := by
  by_cases same : other = key
  · subst same
    simp
  · rw [if_neg same, AList.lookup_insert_ne same]

theorem lookup_erase_ite (map : FlatHashMap K V) (key other : K) :
    (map.erase key).lookup other = if other = key then none else map.lookup other := by
  by_cases same : other = key
  · subst same
    simp
  · rw [if_neg same, AList.lookup_erase_ne same]

theorem lookup_eraseAll (keys : List K) (map : FlatHashMap K V) (other : K) :
    (eraseAll keys map).lookup other = if other ∈ keys then none else map.lookup other := by
  induction keys generalizing map with
  | nil => simp [eraseAll]
  | cons key rest ih =>
    have step := ih (map.erase key)
    simp only [eraseAll, List.foldl_cons] at step ⊢
    rw [step, lookup_erase_ite]
    by_cases same : other = key <;> simp [same]

theorem mem_iff_lookup (map : FlatHashMap K V) (key : K) :
    key ∈ map ↔ ∃ value, map.lookup key = some value := by
  rw [← AList.lookup_isSome, Option.isSome_iff_exists]

theorem size_insert_of_mem (map : FlatHashMap K V) (key : K) (value : V) (present : key ∈ map) :
    size (map.insert key value) = size map := by
  have listed : key ∈ map.keys := present
  have positive : 0 < map.keys.length := List.length_pos_of_mem listed
  simp only [size, AList.keys_insert, List.length_cons, List.length_erase_of_mem listed]
  omega

theorem size_insert_of_not_mem (map : FlatHashMap K V) (key : K) (value : V)
    (absent : key ∉ map) : size (map.insert key value) = size map + 1 := by
  have missing : key ∉ map.keys := absent
  simp [size, AList.keys_insert, List.erase_of_not_mem missing]

theorem mem_values (map : FlatHashMap K V) (value : V) :
    value ∈ values map ↔ ∃ key, map.lookup key = some value := by
  constructor
  · intro member
    obtain ⟨⟨key, found⟩, entry, rfl⟩ := List.mem_map.mp member
    exact ⟨key, AList.mem_lookup_iff.mpr entry⟩
  · rintro ⟨key, found⟩
    exact List.mem_map.mpr ⟨⟨key, value⟩, AList.mem_lookup_iff.mp found, rfl⟩

theorem forall_values (map : FlatHashMap K V) (holds : V → Prop) :
    (∀ value ∈ values map, holds value) ↔ ∀ key value, map.lookup key = some value → holds value := by
  constructor
  · intro every key value found
    exact every value ((mem_values map value).mpr ⟨key, found⟩)
  · intro every value member
    obtain ⟨key, found⟩ := (mem_values map value).mp member
    exact every key value found

omit [DecidableEq K] in
@[simp] theorem length_values (map : FlatHashMap K V) : (values map).length = size map := by
  simp [values, size, AList.keys, List.keys]

theorem values_eq_filterMap (map : FlatHashMap K V) : values map = map.keys.filterMap map.lookup := by
  have found : ∀ entry ∈ map.entries, map.lookup entry.1 = some entry.2 := by
    rintro ⟨key, value⟩ entry
    exact AList.mem_lookup_iff.mpr entry
  rw [values, AList.keys, List.keys, List.filterMap_map, ← List.filterMap_eq_map]
  refine List.filterMap_congr fun entry member => ?_
  exact (found entry member).symm

theorem countP_values (map : FlatHashMap K V) (test : V → Bool) :
    (values map).countP test = (map.keys.filter fun key => (map.lookup key).any test).length := by
  rw [values_eq_filterMap, List.countP_filterMap, List.countP_eq_length_filter]
  congr 1
  refine List.filter_congr fun key _ => ?_
  cases map.lookup key <;> rfl

theorem countP_values_le {before after : FlatHashMap K V} {test : V → Bool}
    (grows : ∀ key value, before.lookup key = some value → test value = true →
      ∃ later, after.lookup key = some later ∧ test later = true) :
    (values before).countP test ≤ (values after).countP test := by
  rw [countP_values, countP_values]
  have distinct : (before.keys.filter fun key => (before.lookup key).any test).Nodup :=
    before.keys_nodup.filter _
  apply (List.subperm_of_subset distinct ?_).length_le
  intro key member
  obtain ⟨-, passes⟩ := List.mem_filter.mp member
  obtain ⟨value, found, passed⟩ := (Option.any_eq_true _ _).mp passes
  obtain ⟨later, kept, still⟩ := grows key value found passed
  rw [List.mem_filter]
  exact ⟨(mem_iff_lookup after key).mpr ⟨later, kept⟩, by simp [kept, still]⟩

theorem countP_values_lt {before after : FlatHashMap K V} {test : V → Bool}
    (grows : ∀ key value, before.lookup key = some value → test value = true →
      ∃ later, after.lookup key = some later ∧ test later = true)
    {key : K} {old new : V} (was : before.lookup key = some old) (failed : test old = false)
    (now : after.lookup key = some new) (passes : test new = true) :
    (values before).countP test < (values after).countP test := by
  rw [countP_values, countP_values]
  have distinct : (key :: before.keys.filter fun key => (before.lookup key).any test).Nodup := by
    refine List.nodup_cons.mpr ⟨?_, before.keys_nodup.filter _⟩
    intro member
    simp [List.mem_filter, was, failed] at member
  apply (List.subperm_of_subset distinct ?_).length_le
  intro other member
  rw [List.mem_filter]
  obtain rfl | member := List.mem_cons.mp member
  · exact ⟨(mem_iff_lookup after other).mpr ⟨new, now⟩, by simp [now, passes]⟩
  · obtain ⟨-, passed⟩ := List.mem_filter.mp member
    obtain ⟨value, found, tested⟩ := (Option.any_eq_true _ _).mp passed
    obtain ⟨later, kept, still⟩ := grows other value found tested
    exact ⟨(mem_iff_lookup after other).mpr ⟨later, kept⟩, by simp [kept, still]⟩

omit [DecidableEq K] in
theorem size_le {before after : FlatHashMap K V} (grows : ∀ key, key ∈ before → key ∈ after) :
    size before ≤ size after :=
  (List.subperm_of_subset before.keys_nodup grows).length_le

def mapValues {W : Type} (change : K → V → W) (map : FlatHashMap K V) : FlatHashMap K W where
  entries := map.entries.map fun entry => ⟨entry.1, change entry.1 entry.2⟩
  nodupKeys := by
    have keys : (map.entries.map fun entry => (⟨entry.1, change entry.1 entry.2⟩ :
        Sigma fun _ : K => W)).keys = map.entries.keys := by
      simp [List.keys, Function.comp_def]
    rw [List.NodupKeys, keys]
    exact map.nodupKeys

section MapValues

variable {W : Type} (change : K → V → W)

omit [DecidableEq K] in
@[simp] theorem keys_mapValues (map : FlatHashMap K V) : (mapValues change map).keys = map.keys := by
  simp [AList.keys, mapValues, List.keys, Function.comp_def]

omit [DecidableEq K] in
@[simp] theorem size_mapValues (map : FlatHashMap K V) : size (mapValues change map) = size map := by
  simp [size]

omit [DecidableEq K] in
@[simp] theorem mapValues_empty : mapValues change (∅ : FlatHashMap K V) = ∅ := rfl

@[simp] theorem lookup_mapValues (map : FlatHashMap K V) (key : K) :
    (mapValues change map).lookup key = (map.lookup key).map (change key) := by
  obtain ⟨entries, distinct⟩ := map
  simp only [AList.lookup, mapValues]
  clear distinct
  induction entries with
  | nil => rfl
  | cons head rest ih =>
    obtain ⟨other, value⟩ := head
    by_cases same : key = other
    · subst same
      simp
    · rw [List.map_cons, List.dlookup_cons_ne _ _ same, List.dlookup_cons_ne _ _ same, ih]

theorem erase_mapValues (map : FlatHashMap K V) (key : K) :
    mapValues change (map.erase key) = (mapValues change map).erase key := by
  refine AList.ext ?_
  change (map.entries.kerase key).map _ = (map.entries.map _).kerase key
  rw [List.kerase, List.kerase, List.eraseP_map]
  rfl

theorem insert_mapValues (map : FlatHashMap K V) (key : K) (value : V) :
    mapValues change (map.insert key value) =
      (mapValues change map).insert key (change key value) := by
  refine AList.ext ?_
  simp only [mapValues, AList.insert, List.kinsert, List.kerase, List.eraseP_map, List.map_cons]
  rfl

omit [DecidableEq K] in
theorem countP_mapValues {change : K → V → V} {test : V → Bool}
    (same : ∀ key value, test (change key value) = test value) (map : FlatHashMap K V) :
    (values (mapValues change map)).countP test = (values map).countP test := by
  simp [values, mapValues, List.countP_map, Function.comp_def, same]

omit [DecidableEq K] in
theorem all_mapValues {change : K → V → V} {test : V → Bool}
    (same : ∀ key value, test (change key value) = test value) (map : FlatHashMap K V) :
    (values (mapValues change map)).all test = (values map).all test := by
  simp [values, mapValues, List.all_map, Function.comp_def, same]

end MapValues

end FlatHashMap
