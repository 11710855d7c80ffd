import Mathlib.Init

set_option autoImplicit false

/-!
# Programs with state and exceptions

An exception leaves the state as it is where it was raised. A contract says what
holds of the state in both endings.
-/

abbrev Effect (State Error Value : Type) := ExceptT Error (StateM State) Value

namespace Effect

variable {State Error Value Result : Type}

def exec (program : Effect State Error Value) (state : State) : Except Error Value × State :=
  StateT.run (ExceptT.run program) state

def ofExcept (outcome : Except Error Value) : Effect State Error Value := ExceptT.mk (pure outcome)

@[simp] theorem exec_ofExcept (outcome : Except Error Value) (state : State) :
    exec (ofExcept outcome : Effect State Error Value) state = (outcome, state) := rfl

@[simp] theorem exec_get (state : State) :
    exec (get : Effect State Error State) state = (.ok state, state) := rfl

@[simp] theorem exec_modify (change : State → State) (state : State) :
    exec (modify change : Effect State Error Unit) state = (.ok (), change state) := rfl

theorem exec_bind (first : Effect State Error Value) (next : Value → Effect State Error Result)
    (state : State) :
    exec (first >>= next) state =
      match exec first state with
      | (.ok value, after) => exec (next value) after
      | (.error error, after) => (.error error, after) := by
  change exec (ExceptT.bind first next) state = _
  unfold exec ExceptT.bind ExceptT.run ExceptT.mk ExceptT.bindCont
  simp only [StateT.run_bind]
  generalize StateT.run first state = outcome
  obtain ⟨_ | _, _⟩ := outcome <;> rfl

theorem exec_tryCatch (body : Effect State Error Value) (handler : Error → Effect State Error Value)
    (state : State) :
    exec (tryCatch body handler) state =
      match exec body state with
      | (.ok value, after) => (.ok value, after)
      | (.error error, after) => exec (handler error) after := by
  change exec (ExceptT.tryCatch body handler) state = _
  unfold exec ExceptT.tryCatch ExceptT.run ExceptT.mk
  simp only [StateT.run_bind]
  generalize StateT.run body state = outcome
  obtain ⟨_ | _, _⟩ := outcome <;> rfl

theorem bind_eq_ok {first : Except Error Value} {next : Value → Except Error Result}
    {result : Result} :
    first >>= next = .ok result ↔ ∃ value, first = .ok value ∧ next value = .ok result := by
  cases first <;> simp [bind, Except.bind]

theorem ok_of_toOption {outcome : Except Error Value} {value : Value}
    (held : outcome.toOption = some value) : outcome = .ok value := by
  cases outcome with
  | ok found =>
    cases held
    rfl
  | error failure => cases held

/-- From every state with `before`, a value ends in `after` and an exception in `raised`. -/
def Ensures (before : State → Prop) (program : Effect State Error Value)
    (after : Value → State → Prop) (raised : State → Prop) : Prop :=
  ∀ state, before state →
    match exec program state with
    | (.ok value, next) => after value next
    | (.error _, next) => raised next

section Rules

variable {before raised : State → Prop} {after : Value → State → Prop}
  {program : Effect State Error Value}

theorem Ensures.mono {first : State → Prop} {last : Value → State → Prop} {failed : State → Prop}
    (ensures : Ensures before program after raised) (stronger : ∀ state, first state → before state)
    (weaker : ∀ value state, after value state → last value state)
    (escapes : ∀ state, raised state → failed state) : Ensures first program last failed := by
  intro state holds
  have both := ensures state (stronger state holds)
  split at both
  · exact weaker _ _ both
  · exact escapes _ both

theorem Ensures.leaves {holds : State → Prop} (ensures : Ensures before program (fun _ => holds) holds)
    {state : State} (start : before state) : holds (exec program state).2 := by
  have both := ensures state start
  split at both
  next ended => exact ended ▸ both
  next ended => exact ended ▸ both

theorem ensures_from
    (each : ∀ start, Ensures (fun state => state = start ∧ before state) program after raised) :
    Ensures before program after raised := by
  intro state holds
  exact each state state ⟨rfl, holds⟩

theorem ensures_pure {value : Value} (holds : ∀ state, before state → after value state) :
    Ensures before (pure value : Effect State Error Value) after raised := holds

theorem ensures_throw {error : Error} (holds : ∀ state, before state → raised state) :
    Ensures before (throw error : Effect State Error Value) after raised := holds

theorem ensures_ofExcept {outcome : Except Error Value}
    (ok : ∀ value, outcome = .ok value → ∀ state, before state → after value state)
    (failed : ∀ state, before state → raised state) :
    Ensures before (ofExcept outcome) after raised := by
  intro state holds
  rw [exec_ofExcept]
  cases outcome with
  | error error => exact failed state holds
  | ok value => exact ok value rfl state holds

theorem ensures_bind {next : Value → Effect State Error Result} {last : Result → State → Prop}
    (first : Ensures before program after raised)
    (rest : ∀ value, Ensures (after value) (next value) last raised) :
    Ensures before (program >>= next) last raised := by
  intro state holds
  have both := first state holds
  rw [exec_bind]
  generalize exec program state = outcome at both
  obtain ⟨error | value, middle⟩ := outcome
  · exact both
  · exact rest value middle both

theorem ensures_bind_ofExcept {outcome : Except Error Value}
    {next : Value → Effect State Error Result} {last : Result → State → Prop}
    (failed : ∀ state, before state → raised state)
    (rest : ∀ value, outcome = .ok value → Ensures before (next value) last raised) :
    Ensures before (ofExcept outcome >>= next) last raised := by
  intro state holds
  rw [exec_bind, exec_ofExcept]
  cases outcome with
  | error error => exact failed state holds
  | ok value => exact rest value rfl state holds

theorem ensures_bind_get {next : State → Effect State Error Result} {last : Result → State → Prop}
    (rest : ∀ state, Ensures (fun current => before current ∧ current = state) (next state) last
      raised) :
    Ensures before (get >>= next) last raised := by
  intro state holds
  rw [exec_bind, exec_get]
  exact rest state state ⟨holds, rfl⟩

theorem ensures_bind_modify (middle : State → Prop) {change : State → State}
    {next : Unit → Effect State Error Result} {last : Result → State → Prop}
    (holds : ∀ state, before state → middle (change state))
    (rest : Ensures middle (next ()) last raised) :
    Ensures before (modify change >>= next) last raised := by
  intro state held
  rw [exec_bind, exec_modify]
  exact rest (change state) (holds state held)

theorem ensures_tryCatch (caught : State → Prop) {handler : Error → Effect State Error Value}
    (body : Ensures before program after caught)
    (handled : ∀ error, Ensures caught (handler error) after raised) :
    Ensures before (tryCatch program handler) after raised := by
  intro state holds
  have both := body state holds
  rw [exec_tryCatch]
  generalize exec program state = outcome at both
  obtain ⟨error | value, middle⟩ := outcome
  · exact handled error middle both
  · exact both

end Rules

end Effect
