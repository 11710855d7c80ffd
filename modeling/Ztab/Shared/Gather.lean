import Ztab.Shared.Effect

set_option autoImplicit false

/-!
# Gathering

A loop that visits the elements of a list, may be ended by an exception, and collects what it finds.
-/

namespace Gather

variable {Element Error Found : Type}

def gather (visit : Element → Except Error (List Found)) : List Element → Except Error (List Found)
  | [] => .ok []
  | element :: rest => do
    let here ← visit element
    let later ← gather visit rest
    return here ++ later

variable {visit : Element → Except Error (List Found)} {elements : List Element}

theorem gather_cons_eq_ok {element : Element} {rest : List Element} {all : List Found} :
    gather visit (element :: rest) = .ok all ↔
      ∃ here later, visit element = .ok here ∧ gather visit rest = .ok later ∧ all = here ++ later := by
  simp only [gather, Effect.bind_eq_ok]
  constructor
  · rintro ⟨here, visited, later, gathered, same⟩
    cases same
    exact ⟨here, later, visited, gathered, rfl⟩
  · rintro ⟨here, later, visited, gathered, rfl⟩
    exact ⟨here, visited, later, gathered, rfl⟩

theorem gather_ok (visits : ∀ element ∈ elements, ∃ here, visit element = .ok here) :
    ∃ all, gather visit elements = .ok all := by
  induction elements with
  | nil => exact ⟨[], rfl⟩
  | cons element rest ih =>
    obtain ⟨here, visited⟩ := visits element List.mem_cons_self
    obtain ⟨later, gathered⟩ := ih fun other listed => visits other (List.mem_cons_of_mem _ listed)
    exact ⟨here ++ later, gather_cons_eq_ok.mpr ⟨here, later, visited, gathered, rfl⟩⟩

theorem visits_ok {all : List Found} (gathered : gather visit elements = .ok all) :
    ∀ element ∈ elements, ∃ here, visit element = .ok here := by
  induction elements generalizing all with
  | nil => simp
  | cons element rest ih =>
    obtain ⟨here, later, visited, others, rfl⟩ := gather_cons_eq_ok.mp gathered
    intro other listed
    rcases List.mem_cons.mp listed with rfl | listed
    · exact ⟨here, visited⟩
    · exact ih others other listed

theorem mem_gather {all : List Found} (gathered : gather visit elements = .ok all) {found : Found} :
    found ∈ all ↔ ∃ element ∈ elements, ∃ here, visit element = .ok here ∧ found ∈ here := by
  induction elements generalizing all with
  | nil =>
    cases gathered
    simp
  | cons element rest ih =>
    obtain ⟨here, later, visited, others, rfl⟩ := gather_cons_eq_ok.mp gathered
    rw [List.mem_append, ih others]
    simp [visited]

theorem gather_ok_iff :
    (∃ all, gather visit elements = .ok all) ↔
      ∀ element ∈ elements, ∃ here, visit element = .ok here :=
  ⟨fun ⟨_, gathered⟩ => visits_ok gathered, gather_ok⟩

theorem gather_found_iff :
    (∃ all, gather visit elements = .ok all ∧ all ≠ []) ↔
      (∀ element ∈ elements, ∃ here, visit element = .ok here) ∧
        ∃ element ∈ elements, ∃ here, visit element = .ok here ∧ here ≠ [] := by
  constructor
  · rintro ⟨all, gathered, nonempty⟩
    obtain ⟨found, listed⟩ := List.exists_mem_of_ne_nil all nonempty
    obtain ⟨element, present, here, visited, inside⟩ := (mem_gather gathered).mp listed
    exact ⟨visits_ok gathered, element, present, here, visited, List.ne_nil_of_mem inside⟩
  · rintro ⟨visits, element, present, here, visited, nonempty⟩
    obtain ⟨all, gathered⟩ := gather_ok visits
    obtain ⟨found, inside⟩ := List.exists_mem_of_ne_nil here nonempty
    have listed := (mem_gather gathered).mpr ⟨element, present, here, visited, inside⟩
    exact ⟨all, gathered, List.ne_nil_of_mem listed⟩

end Gather
