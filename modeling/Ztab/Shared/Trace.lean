import Mathlib.Data.List.Basic

set_option autoImplicit false

/-! # Traces whose events have reasons -/

namespace Trace

variable {Event : Type} (reason : List Event → Event → Prop)

def Explained (trace : List Event) : Prop :=
  ∀ earlier event later, trace = earlier ++ event :: later → reason earlier event

theorem explained_nil : Explained reason [] := by
  intro earlier event later split
  exact absurd split.symm (List.append_ne_nil_of_right_ne_nil _ (List.cons_ne_nil _ _))

theorem explained_concat {trace : List Event} {event : Event} (explained : Explained reason trace)
    (because : reason trace event) : Explained reason (trace ++ [event]) := by
  intro earlier other later split
  rcases List.eq_nil_or_concat later with rfl | ⟨front, last, rfl⟩
  · obtain ⟨rfl, same⟩ := List.append_inj' split rfl
    cases same
    exact because
  · have shifted : trace ++ [event] = (earlier ++ other :: front) ++ [last] := by
      rw [split]
      simp
    exact explained earlier other front (List.append_inj' shifted rfl).1

end Trace
