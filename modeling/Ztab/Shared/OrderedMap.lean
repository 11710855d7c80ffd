import Mathlib.Data.List.Basic
import Mathlib.Order.Lattice

set_option autoImplicit false

/-!
# Ordered maps

A map is the list of its members in strictly increasing key order, so equal maps
are equal lists.
-/

namespace OrderedMap

variable {K V W : Type} [LinearOrder K]

def assign (key : K) (value : V) : List (K × V) → List (K × V)
  | [] => [(key, value)]
  | (other, held) :: rest =>
    if key < other then (key, value) :: (other, held) :: rest
    else if key = other then (key, value) :: rest
    else (other, held) :: assign key value rest

def find (key : K) : List (K × V) → Option V
  | [] => none
  | (other, held) :: rest => if key = other then some held else find key rest

def Sorted (members : List (K × V)) : Prop :=
  members.Pairwise (fun left right => left.1 < right.1)

@[simp] theorem find_assign (key other : K) (value : V) (members : List (K × V)) :
    find other (assign key value members) =
      if other = key then some value else find other members := by
  induction members with
  | nil => simp [assign, find]
  | cons head rest ih =>
    obtain ⟨held, content⟩ := head
    simp only [assign]
    split_ifs with before same <;> by_cases hit : other = key <;> simp_all [find]

theorem mem_of_find {key : K} {value : V} {members : List (K × V)}
    (found : find key members = some value) : (key, value) ∈ members := by
  induction members with
  | nil => simp [find] at found
  | cons head rest ih =>
    obtain ⟨held, content⟩ := head
    simp only [find] at found
    split_ifs at found with same
    · cases found
      simp [same]
    · exact List.mem_cons_of_mem _ (ih found)

theorem find_isSome_iff (key : K) (members : List (K × V)) :
    (find key members).isSome = true ↔ key ∈ members.map Prod.fst := by
  induction members with
  | nil => simp [find]
  | cons head rest ih =>
    obtain ⟨held, content⟩ := head
    by_cases same : key = held <;> simp [find, same, ih]

theorem mem_assign {key : K} {value : V} {member : K × V} {members : List (K × V)}
    (listed : member ∈ assign key value members) : member = (key, value) ∨ member ∈ members := by
  induction members with
  | nil => simpa [assign] using listed
  | cons head rest ih =>
    obtain ⟨held, content⟩ := head
    simp only [assign] at listed
    split_ifs at listed
    · simpa using listed
    · rcases List.mem_cons.mp listed with rfl | later
      · exact .inl rfl
      · exact .inr (List.mem_cons_of_mem _ later)
    · rcases List.mem_cons.mp listed with rfl | later
      · exact .inr (List.mem_cons_self ..)
      · exact (ih later).imp_right (List.mem_cons_of_mem _)

theorem sorted_assign (key : K) (value : V) (members : List (K × V)) (sorted : Sorted members) :
    Sorted (assign key value members) := by
  induction members with
  | nil => exact List.pairwise_singleton ..
  | cons head rest ih =>
    obtain ⟨held, content⟩ := head
    obtain ⟨above, tail⟩ := List.pairwise_cons.mp sorted
    simp only [assign]
    split_ifs with before same
    · refine List.pairwise_cons.mpr ⟨?_, sorted⟩
      intro member listed
      rcases List.mem_cons.mp listed with rfl | later
      · exact before
      · exact lt_trans before (above member later)
    · subst same
      exact List.pairwise_cons.mpr ⟨above, tail⟩
    · refine List.pairwise_cons.mpr ⟨?_, ih tail⟩
      intro member listed
      rcases mem_assign listed with rfl | later
      · exact lt_of_le_of_ne (not_lt.mp before) (Ne.symm same)
      · exact above member later

theorem find_of_mem {member : K × V} {members : List (K × V)} (sorted : Sorted members)
    (listed : member ∈ members) : find member.1 members = some member.2 := by
  induction members with
  | nil => cases listed
  | cons head rest ih =>
    obtain ⟨above, tail⟩ := List.pairwise_cons.mp sorted
    obtain rfl | later := List.mem_cons.mp listed
    · simp [find]
    · simp [find, (above member later).ne', ih tail later]

theorem map_assign (change : V → W) (key : K) (value : V) (members : List (K × V)) :
    (assign key value members).map (fun member => (member.1, change member.2)) =
      assign key (change value) (members.map fun member => (member.1, change member.2)) := by
  induction members with
  | nil => rfl
  | cons head rest ih =>
    obtain ⟨held, content⟩ := head
    simp only [assign, List.map_cons]
    split_ifs <;> simp [ih]

theorem find_map (change : V → W) (key : K) (members : List (K × V)) :
    find key (members.map fun member => (member.1, change member.2)) =
      (find key members).map change := by
  induction members with
  | nil => rfl
  | cons head rest ih =>
    simp only [List.map_cons, find]
    split_ifs <;> simp [ih]

end OrderedMap
