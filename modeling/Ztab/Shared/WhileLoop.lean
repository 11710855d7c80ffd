set_option autoImplicit false

/-!
# While loops

A loop that may fail, leave or go on. It is run for a number of passes, so a loop that never ends is
one that no number of passes is enough for.
-/

namespace WhileLoop

inductive Pass (State Result : Type) where
  | again (state : State)
  | leave (result : Result)
  deriving DecidableEq, Repr

variable {State Error Result : Type}

def runFor (body : State → Except Error (Pass State Result)) :
    Nat → State → Option (Except Error Result)
  | 0, _ => none
  | passes + 1, state =>
    match body state with
    | .error error => some (.error error)
    | .ok (.leave result) => some (.ok result)
    | .ok (.again next) => runFor body passes next

theorem runFor_more {body : State → Except Error (Pass State Result)} {passes more : Nat}
    {state : State} {outcome : Except Error Result} (ended : runFor body passes state = some outcome)
    (least : passes ≤ more) : runFor body more state = some outcome := by
  induction passes generalizing more state with
  | zero => cases ended
  | succ passes ih =>
    cases more with
    | zero => omega
    | succ more =>
      unfold runFor at ended ⊢
      split at ended
      next => exact ended
      next => exact ended
      next => exact ih ended (by omega)

/-- The pass leaves with a result that satisfies `post`, or keeps the invariant and comes nearer to
the end. -/
def Advances (invariant : State → Prop) (variant : State → Nat) (post : Result → Prop)
    (state : State) (pass : Except Error (Pass State Result)) : Prop :=
  (∃ result, pass = .ok (.leave result) ∧ post result) ∨
    ∃ next, pass = .ok (.again next) ∧ invariant next ∧ variant next < variant state

/-- Total correctness: a loop whose passes all advance fails nowhere and returns, within as many
passes as the variant allows. -/
theorem runFor_returns {body : State → Except Error (Pass State Result)} {invariant : State → Prop}
    {variant : State → Nat} {post : Result → Prop}
    (advances : ∀ state, invariant state → Advances invariant variant post state (body state))
    {state : State} (holds : invariant state) {passes : Nat} (enough : variant state < passes) :
    ∃ result, runFor body passes state = some (.ok result) ∧ post result := by
  induction passes generalizing state with
  | zero => omega
  | succ passes ih =>
    obtain ⟨result, left, holdsAfter⟩ | ⟨next, goesOn, holdsAgain, nearer⟩ := advances state holds
    · exact ⟨result, by simp only [runFor, left], holdsAfter⟩
    · have returned := ih holdsAgain (by omega)
      simpa only [runFor, goesOn] using returned

end WhileLoop
