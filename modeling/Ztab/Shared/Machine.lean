import Mathlib.Data.List.Forall2

set_option autoImplicit false

/-!
# Reactive machines

A machine answers every action with a reply. A run is a list of actions, so a
theorem about every list is a theorem about every interleaving of the parties
that issue them.
-/

structure Machine (State Action Reply : Type) where
  initial : State
  step : State → Action → State × Reply

namespace Machine

variable {State Action Reply : Type} (machine : Machine State Action Reply)

def after (state : State) : List Action → State
  | [] => state
  | action :: rest => after (machine.step state action).1 rest

def log (state : State) : List Action → List (Action × Reply)
  | [] => []
  | action :: rest => (action, (machine.step state action).2) :: log (machine.step state action).1 rest

def Reachable (state : State) : Prop :=
  ∃ actions, machine.after machine.initial actions = state

/-- Every step of the run is taken from a state that allows its action. -/
def Allowed (allowed : State → Action → Prop) (state : State) : List Action → Prop
  | [] => True
  | action :: rest => allowed state action ∧ Allowed allowed (machine.step state action).1 rest

instance decidableAllowed {allowed : State → Action → Prop}
    [∀ state action, Decidable (allowed state action)] (state : State) :
    ∀ actions, Decidable (machine.Allowed allowed state actions)
  | [] => isTrue trivial
  | action :: rest =>
    have : Decidable (machine.Allowed allowed (machine.step state action).1 rest) :=
      decidableAllowed _ rest
    inferInstanceAs (Decidable (allowed state action ∧ _))

@[simp] theorem after_nil (state : State) : machine.after state [] = state := rfl

@[simp] theorem after_cons (state : State) (action : Action) (rest : List Action) :
    machine.after state (action :: rest) = machine.after (machine.step state action).1 rest := rfl

theorem after_append (state : State) (first second : List Action) :
    machine.after state (first ++ second) = machine.after (machine.after state first) second := by
  induction first generalizing state with
  | nil => rfl
  | cons action rest ih => exact ih _

theorem Reachable.after {machine : Machine State Action Reply} {state : State}
    (reachable : machine.Reachable state) (actions : List Action) :
    machine.Reachable (machine.after state actions) := by
  obtain ⟨earlier, rfl⟩ := reachable
  exact ⟨earlier ++ actions, machine.after_append _ _ _⟩

theorem Reachable.step {machine : Machine State Action Reply} {state : State}
    (reachable : machine.Reachable state) (action : Action) :
    machine.Reachable (machine.step state action).1 :=
  reachable.after [action]

theorem after_preserves (invariant : State → Prop)
    (preserved : ∀ state action, invariant state → invariant (machine.step state action).1)
    (state : State) (holds : invariant state) (actions : List Action) :
    invariant (machine.after state actions) := by
  induction actions generalizing state with
  | nil => exact holds
  | cons action rest ih => exact ih _ (preserved state action holds)

theorem reachable_invariant (invariant : State → Prop) (start : invariant machine.initial)
    (preserved : ∀ state action, invariant state → invariant (machine.step state action).1)
    (state : State) (reachable : machine.Reachable state) : invariant state := by
  obtain ⟨actions, rfl⟩ := reachable
  exact machine.after_preserves invariant preserved _ start actions

theorem logged_invariant (invariant : List (Action × Reply) → State → Prop)
    (start : invariant [] machine.initial)
    (preserved : ∀ earlier state action, invariant earlier state →
      invariant (earlier ++ [(action, (machine.step state action).2)]) (machine.step state action).1)
    (actions : List Action) :
    invariant (machine.log machine.initial actions) (machine.after machine.initial actions) := by
  have extended : ∀ earlier state, invariant earlier state →
      invariant (earlier ++ machine.log state actions) (machine.after state actions) := by
    induction actions with
    | nil =>
      intro earlier state holds
      simpa [log] using holds
    | cons action rest ih =>
      intro earlier state holds
      have next := ih _ _ (preserved earlier state action holds)
      simpa [log, List.append_assoc] using next
  simpa using extended [] machine.initial start

theorem allowed_preserves (allowed : State → Action → Prop) (invariant : State → Prop)
    (preserved : ∀ state action, allowed state action → invariant state →
      invariant (machine.step state action).1)
    (state : State) (holds : invariant state) (actions : List Action)
    (within : machine.Allowed allowed state actions) :
    invariant (machine.after state actions) := by
  induction actions generalizing state with
  | nil => exact holds
  | cons action rest ih => exact ih _ (preserved state action within.1 holds) within.2

/-- Actions that leave every state alone can be left out of a run: nobody else notices. -/
theorem without_idle (acts : Action → Bool)
    (idle : ∀ state action, acts action = false → (machine.step state action).1 = state)
    (state : State) (actions : List Action) :
    machine.after state actions = machine.after state (actions.filter acts) ∧
      (machine.log state actions).filter (fun entry => acts entry.1) =
        machine.log state (actions.filter acts) := by
  induction actions generalizing state with
  | nil => exact ⟨rfl, rfl⟩
  | cons action rest ih =>
    cases active : acts action with
    | true =>
      obtain ⟨same, logged⟩ := ih (machine.step state action).1
      rw [List.filter_cons_of_pos active]
      refine ⟨same, ?_⟩
      rw [log, log, List.filter_cons_of_pos (by exact active), logged]
    | false =>
      obtain ⟨same, logged⟩ := ih state
      have inactive : ¬ acts action = true := by simp [active]
      rw [List.filter_cons_of_neg inactive]
      refine ⟨?_, ?_⟩
      · rw [after_cons, idle state action active]
        exact same
      · rw [log, List.filter_cons_of_neg (by exact inactive), idle state action active]
        exact logged

theorem allowed_of_forall {allowed : State → Action → Prop}
    (always : ∀ state action, allowed state action) (state : State) (actions : List Action) :
    machine.Allowed allowed state actions := by
  induction actions generalizing state with
  | nil => trivial
  | cons action rest ih => exact ⟨always state action, ih _⟩

theorem allowed_append {allowed : State → Action → Prop} (state : State)
    (first second : List Action) :
    machine.Allowed allowed state (first ++ second) ↔
      machine.Allowed allowed state first ∧
        machine.Allowed allowed (machine.after state first) second := by
  induction first generalizing state with
  | nil => simp [Allowed]
  | cons action rest ih => simp [Allowed, ih, and_assoc]

theorem allowed_iff_splits {allowed : State → Action → Prop} (state : State)
    (actions : List Action) :
    machine.Allowed allowed state actions ↔
      ∀ earlier action later, actions = earlier ++ action :: later →
        allowed (machine.after state earlier) action := by
  induction actions generalizing state with
  | nil => simp [Allowed]
  | cons first rest ih =>
    rw [Allowed, ih]
    constructor
    · rintro ⟨here, there⟩ earlier action later split
      cases earlier with
      | nil =>
        cases split
        exact here
      | cons head tail =>
        rw [List.cons_append] at split
        obtain ⟨rfl, remaining⟩ := List.cons.inj split
        exact there tail action later remaining
    · intro always
      refine ⟨always [] first rest rfl, ?_⟩
      intro earlier action later split
      exact always (first :: earlier) action later (by rw [split, List.cons_append])

/--
When allowed steps keep an invariant that implies what is wanted, and every other step taken
under the invariant breaks it, a run always has what is wanted exactly when all its steps are
allowed.
-/
theorem allowed_iff_always {allowed : State → Action → Prop} (invariant wanted : State → Prop)
    (preserved : ∀ state action, allowed state action → invariant state →
      invariant (machine.step state action).1)
    (sound : ∀ state, invariant state → wanted state)
    (broken : ∀ state action, invariant state → ¬ allowed state action →
      ¬ wanted (machine.step state action).1)
    (state : State) (holds : invariant state) (actions : List Action) :
    (∀ earlier later, actions = earlier ++ later → wanted (machine.after state earlier)) ↔
      machine.Allowed allowed state actions := by
  induction actions generalizing state with
  | nil =>
    constructor
    · intro always
      trivial
    · intro within earlier later split
      obtain ⟨rfl, rfl⟩ := List.append_eq_nil_iff.mp split.symm
      exact sound state holds
  | cons action rest ih =>
    constructor
    · intro always
      have fits : allowed state action := by
        by_contra refused
        exact broken state action holds refused (always [action] rest rfl)
      refine ⟨fits, (ih _ (preserved state action fits holds)).mp ?_⟩
      intro earlier later split
      exact always (action :: earlier) later (by rw [split, List.cons_append])
    · intro within earlier later split
      cases earlier with
      | nil => exact sound state holds
      | cons head tail =>
        obtain ⟨rfl, remaining⟩ := List.cons.inj split
        exact (ih _ (preserved state action within.1 holds)).mpr within.2 tail later remaining

/-- A goal is within reach of every state from which some run always comes closer to it. -/
theorem reaches_of_progress (holds goal : State → Prop) (distance : State → Nat)
    (progress : ∀ state, holds state → goal state ∨
      ∃ actions, holds (machine.after state actions) ∧
        distance (machine.after state actions) < distance state)
    (state : State) (here : holds state) : ∃ actions, goal (machine.after state actions) := by
  induction remaining_eq : distance state using Nat.strongRecOn generalizing state with
  | ind remaining ih =>
    obtain reached | ⟨first, still, closer⟩ := progress state here
    · exact ⟨[], reached⟩
    · rw [remaining_eq] at closer
      obtain ⟨second, reached⟩ := ih _ closer _ still rfl
      exact ⟨first ++ second, by rwa [machine.after_append]⟩

theorem length_le_of_lowers {allowed : State → Action → Prop} (invariant : State → Prop)
    (measure : State → Nat)
    (preserved : ∀ state action, invariant state → invariant (machine.step state action).1)
    (lowers : ∀ state action, invariant state → allowed state action →
      measure (machine.step state action).1 < measure state)
    (state : State) (holds : invariant state) (actions : List Action)
    (within : machine.Allowed allowed state actions) : actions.length ≤ measure state := by
  induction actions generalizing state with
  | nil => exact Nat.zero_le _
  | cons action rest ih =>
    have closer := lowers state action holds within.1
    have later := ih _ (preserved state action holds) within.2
    rw [List.length_cons]
    omega

/--
Two runs side by side: if related states stay related under matching steps, and
matching steps from related states give related replies, then matching logs are
related from start to end.
-/
theorem paired_logs (related : State → State → Prop)
    (matching view : Action × Reply → Action × Reply → Prop)
    (paired : ∀ left right a b, related left right →
      matching (a, (machine.step left a).2) (b, (machine.step right b).2) →
      related (machine.step left a).1 (machine.step right b).1 ∧
        view (a, (machine.step left a).2) (b, (machine.step right b).2))
    (left right : State) (start : related left right) (leftActions rightActions : List Action)
    (matched : List.Forall₂ matching (machine.log left leftActions)
      (machine.log right rightActions)) :
    List.Forall₂ view (machine.log left leftActions) (machine.log right rightActions) := by
  induction leftActions generalizing left right rightActions with
  | nil =>
    cases rightActions with
    | nil => exact .nil
    | cons b rest => cases matched
  | cons a rest ih =>
    cases rightActions with
    | nil => cases matched
    | cons b others =>
      cases matched with
      | cons head tail =>
        obtain ⟨next, seen⟩ := paired left right a b start head
        exact .cons seen (ih _ _ next _ tail)

end Machine
