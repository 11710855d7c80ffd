import Mathlib.Algebra.BigOperators.Group.Finset.Basic
import Mathlib.Logic.Function.Basic

set_option autoImplicit false

/-!
# Counted references

Cells with a reference counter, made with one reference and gone when the last is given back. A
call on a cell that is gone corrupts the heap. The counters are exact as long as whoever gives a
reference back has one.
-/

namespace RefCount

structure Heap (Value : Type) where
  -- Every cell ever made, with its counter.
  cells : List (Value × Nat) := []
  corrupted : Bool := false

namespace Heap

variable {Value : Type}

def count (heap : Heap Value) (id : Nat) : Nat :=
  match heap.cells[id]? with
  | some cell => cell.2
  | none => 0

def value (heap : Heap Value) (id : Nat) : Option Value :=
  heap.cells[id]?.map Prod.fst

def adjust (heap : Heap Value) (id : Nat) (next : Nat → Nat) : Heap Value :=
  if 0 < heap.count id then
    { heap with cells := heap.cells.modify id fun cell => (cell.1, next cell.2) }
  else { heap with corrupted := true }

def upRef (heap : Heap Value) (id : Nat) : Heap Value :=
  heap.adjust id (· + 1)

def free (heap : Heap Value) (id : Nat) : Heap Value :=
  heap.adjust id (· - 1)

-- So many references, one after the other.
def upRefs (heap : Heap Value) (id : Nat) : Nat → Heap Value
  | 0 => heap
  | count + 1 => (heap.upRefs id count).upRef id

def frees (heap : Heap Value) (id : Nat) : Nat → Heap Value
  | 0 => heap
  | count + 1 => (heap.frees id count).free id

def new (heap : Heap Value) (value : Value) : Heap Value × Nat :=
  ({ heap with cells := heap.cells ++ [(value, 1)] }, heap.cells.length)

def write (heap : Heap Value) (id : Nat) (value : Value) : Heap Value :=
  if 0 < heap.count id then
    { heap with cells := heap.cells.modify id fun cell => (value, cell.2) }
  else { heap with corrupted := true }

variable {heap : Heap Value} {id : Nat}

theorem count_of_le (beyond : heap.cells.length ≤ id) : heap.count id = 0 := by
  simp [count, List.getElem?_eq_none beyond]

theorem value_isSome (there : 0 < heap.count id) : (heap.value id).isSome = true := by
  unfold count at there
  unfold value
  cases found : heap.cells[id]? with
  | none => simp [found] at there
  | some cell => rfl

section

variable (there : 0 < heap.count id) (next : Nat → Nat) (other : Nat)

include there

theorem count_adjust : (heap.adjust id next).count other =
    if other = id then next (heap.count id) else heap.count other := by
  have inside := there
  unfold adjust
  rw [if_pos there]
  unfold count at inside ⊢
  rw [List.getElem?_modify]
  by_cases same : other = id
  · subst same
    cases found : heap.cells[other]? with
    | none => simp [found] at inside
    | some cell => simp
  · have apart : ¬ id = other := fun equal => same equal.symm
    cases heap.cells[other]? <;> simp [same, apart]

theorem value_adjust : (heap.adjust id next).value other = heap.value other := by
  unfold adjust value
  rw [if_pos there, List.getElem?_modify]
  cases heap.cells[other]? with
  | none => rfl
  | some cell => by_cases same : id = other <;> simp [same]

theorem corrupted_adjust : (heap.adjust id next).corrupted = heap.corrupted := by
  simp [adjust, there]

theorem count_write (value : Value) : (heap.write id value).count other = heap.count other := by
  unfold write
  rw [if_pos there]
  unfold count
  rw [List.getElem?_modify]
  cases heap.cells[other]? with
  | none => rfl
  | some cell => by_cases same : id = other <;> simp [same]

theorem value_write (value : Value) : (heap.write id value).value other =
    if other = id then some value else heap.value other := by
  have inside := heap.value_isSome there
  unfold write
  rw [if_pos there]
  unfold Heap.value at inside ⊢
  rw [List.getElem?_modify]
  by_cases same : other = id
  · subst same
    cases found : heap.cells[other]? with
    | none => simp [found] at inside
    | some cell => simp
  · have apart : ¬ id = other := fun equal => same equal.symm
    cases heap.cells[other]? <;> simp [same, apart]

theorem corrupted_write (value : Value) : (heap.write id value).corrupted = heap.corrupted := by
  simp [write, there]

end

theorem count_new (value : Value) (other : Nat) : (heap.new value).1.count other =
    if other = heap.cells.length then 1 else heap.count other := by
  simp only [new, count, List.getElem?_append]
  by_cases inside : other < heap.cells.length
  · have before : other ≠ heap.cells.length := by omega
    simp [inside, before]
  · by_cases new : other = heap.cells.length
    · simp [new]
    · have beyond : [(value, 1)][other - heap.cells.length]? = none := by
        rw [List.getElem?_eq_none_iff, List.length_singleton]
        omega
      simp [inside, new, beyond]

theorem value_new (value : Value) (other : Nat) (inside : other < heap.cells.length) :
    (heap.new value).1.value other = heap.value other := by
  simp [new, Heap.value, List.getElem?_append_left inside]

/-- The counters are the numbers of references that there are, and nothing has gone wrong. -/
structure Balanced (heap : Heap Value) (references : Nat → Nat) : Prop where
  sound : heap.corrupted = false
  exact : ∀ id, heap.count id = references id

variable {references next : Nat → Nat}

theorem Balanced.inside (balanced : heap.Balanced references) (held : 0 < references id) :
    id < heap.cells.length := by
  by_contra beyond
  rw [← balanced.exact, heap.count_of_le (by omega)] at held
  exact absurd held (by omega)

theorem Balanced.congr (balanced : heap.Balanced references)
    (same : ∀ id, next id = references id) : heap.Balanced next := by
  refine ⟨balanced.sound, ?_⟩
  intro id
  rw [same, balanced.exact]

theorem Balanced.upRef (balanced : heap.Balanced references) (held : 0 < references id)
    (gains : ∀ other, next other = references other + if other = id then 1 else 0) :
    (heap.upRef id).Balanced next := by
  have there : 0 < heap.count id := by rwa [balanced.exact]
  constructor
  · rw [Heap.upRef, corrupted_adjust there, balanced.sound]
  · intro other
    rw [Heap.upRef, count_adjust there, gains, balanced.exact, balanced.exact]
    by_cases same : other = id <;> simp [same]

theorem Balanced.free (balanced : heap.Balanced references) (id : Nat)
    (loses : ∀ other, references other = next other + if other = id then 1 else 0) :
    (heap.free id).Balanced next := by
  have held : 0 < references id := by
    rw [loses, if_pos rfl]
    omega
  have there : 0 < heap.count id := by rwa [balanced.exact]
  constructor
  · rw [Heap.free, corrupted_adjust there, balanced.sound]
  · intro other
    rw [Heap.free, count_adjust there, balanced.exact, balanced.exact]
    have change := loses other
    by_cases same : other = id
    · subst same
      simp only [if_true] at change ⊢
      omega
    · simp only [same, if_false] at change ⊢
      omega

theorem Balanced.upRefs (balanced : heap.Balanced references) (held : 0 < references id)
    (count : Nat) :
    (heap.upRefs id count).Balanced (fun other => references other + if other = id then count else 0) ∧
      ∀ other, (heap.upRefs id count).value other = heap.value other := by
  induction count with
  | zero => exact ⟨balanced.congr fun other => by simp, fun _ => rfl⟩
  | succ count ih =>
    obtain ⟨before, same⟩ := ih
    have enough : 0 < references id + if id = id then count else 0 := by omega
    have there : 0 < (heap.upRefs id count).count id := by
      rw [before.exact]
      exact enough
    constructor
    · apply before.upRef enough
      intro other
      by_cases here : other = id
      · simp only [here, if_true]
        omega
      · simp [here]
    · intro other
      rw [← same]
      exact value_adjust there _ other

theorem Balanced.frees (balanced : heap.Balanced references) {count : Nat}
    (enough : count ≤ references id) :
    (heap.frees id count).Balanced (fun other => references other - if other = id then count else 0) ∧
      ∀ other, (heap.frees id count).value other = heap.value other := by
  induction count with
  | zero => exact ⟨balanced.congr fun other => by simp, fun _ => rfl⟩
  | succ count ih =>
    obtain ⟨before, same⟩ := ih (by omega)
    have there : 0 < (heap.frees id count).count id := by
      rw [before.exact, if_pos rfl]
      omega
    constructor
    · apply before.free id
      intro other
      by_cases here : other = id
      · simp only [here, if_true]
        omega
      · simp [here]
    · intro other
      rw [← same]
      exact value_adjust there _ other

theorem Balanced.new (balanced : heap.Balanced references) (value : Value)
    (gains : ∀ other,
      next other = references other + if other = heap.cells.length then 1 else 0) :
    (heap.new value).1.Balanced next := by
  refine ⟨balanced.sound, ?_⟩
  intro other
  rw [count_new, gains]
  by_cases same : other = heap.cells.length
  · rw [same, ← balanced.exact, heap.count_of_le le_rfl]
    simp
  · simp [same, balanced.exact]

theorem Balanced.write (balanced : heap.Balanced references) (held : 0 < references id)
    (value : Value) : (heap.write id value).Balanced references := by
  have there : 0 < heap.count id := by rwa [balanced.exact]
  constructor
  · rw [corrupted_write there, balanced.sound]
  · intro other
    rw [count_write there, balanced.exact]

-- A new cell that is given back at once.
theorem Balanced.discarded (balanced : heap.Balanced references) (value : Value) :
    ((heap.new value).1.free heap.cells.length).Balanced references ∧
      ∀ other < heap.cells.length,
        ((heap.new value).1.free heap.cells.length).value other = heap.value other := by
  have made := balanced.new value fun _ => rfl
  have there : 0 < (heap.new value).1.count heap.cells.length := by simp [count_new]
  refine ⟨made.free heap.cells.length fun _ => rfl, fun other inside => ?_⟩
  rw [Heap.free, value_adjust there, value_new _ _ inside]

-- A new cell that is filled and gets a second reference.
theorem Balanced.filled (balanced : heap.Balanced references) (value written : Value)
    (gains : ∀ other,
      next other = references other + if other = heap.cells.length then 2 else 0) :
    let made := ((heap.new value).1.write heap.cells.length written).upRef heap.cells.length
    made.Balanced next ∧ made.value heap.cells.length = some written ∧
      ∀ other < heap.cells.length, made.value other = heap.value other := by
  intro made
  have fresh := balanced.new value fun _ => rfl
  have mine : 0 < references heap.cells.length +
      if heap.cells.length = heap.cells.length then 1 else 0 := by simp
  have there : 0 < (heap.new value).1.count heap.cells.length := by simp [count_new]
  have still : 0 < ((heap.new value).1.write heap.cells.length written).count heap.cells.length := by
    rwa [count_write there]
  have same (other : Nat) : made.value other =
      ((heap.new value).1.write heap.cells.length written).value other := value_adjust still _ other
  refine ⟨(fresh.write mine written).upRef mine fun other => ?_, ?_, fun other inside => ?_⟩
  · rw [gains]
    by_cases new : other = heap.cells.length <;> simp [new]
  · rw [same, value_write there, if_pos rfl]
  · have apart : other ≠ heap.cells.length := by omega
    rw [same, value_write there, if_neg apart, value_new _ _ inside]

end Heap

theorem sum_changed {count index : Nat} {before after : Nat → Nat} (inside : index < count)
    (others : ∀ other, other ≠ index → after other = before other) :
    (∑ other ∈ Finset.range count, after other) + before index =
      (∑ other ∈ Finset.range count, before other) + after index := by
  have member : index ∈ Finset.range count := Finset.mem_range.mpr inside
  have rest : ∑ other ∈ (Finset.range count).erase index, after other =
      ∑ other ∈ (Finset.range count).erase index, before other :=
    Finset.sum_congr rfl fun other within => others other (Finset.ne_of_mem_erase within)
  have first := Finset.add_sum_erase _ after member
  have second := Finset.add_sum_erase _ before member
  omega

end RefCount
