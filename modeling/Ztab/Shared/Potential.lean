import Mathlib.Init

set_option autoImplicit false

/-!
# Programs that pay for their results

A measure says how much is left in a state. A program pays for its result when the cost of the
result is covered by a credit and by what the program has used up.
-/

namespace Potential

variable {Error State Value Result : Type}

/-- From every state with `before`, what the result costs and what is left are covered. -/
def Pays (measure : State → Nat) (before : State → Prop) (credit : Nat)
    (program : EStateM Error State Value) (cost : Value → Nat) : Prop :=
  ∀ state value after, before state → program state = .ok value after →
    cost value + measure after ≤ credit + measure state

variable {measure : State → Nat} {before : State → Prop} {credit : Nat}
  {program : EStateM Error State Value} {cost : Value → Nat}

theorem Pays.mono {first : State → Prop} {funds : Nat} {price : Value → Nat}
    (pays : Pays measure before credit program cost) (stronger : ∀ state, first state → before state)
    (richer : credit ≤ funds) (cheaper : ∀ value, price value ≤ cost value) :
    Pays measure first funds program price := by
  intro state value after holds ended
  have covered := pays state value after (stronger state holds) ended
  have := cheaper value
  omega

theorem Pays.anywhere (pays : Pays measure (fun _ => True) credit program cost) :
    Pays measure before credit program cost :=
  pays.mono (fun _ _ => trivial) (Nat.le_refl _) (fun _ => Nat.le_refl _)

theorem Pays.keep (pays : Pays measure before credit program cost) (more : Nat) :
    Pays measure before (credit + more) program (fun value => cost value + more) := by
  intro state value after holds ended
  have := pays state value after holds ended
  dsimp only
  omega

theorem pays_pure {value : Value} (covered : cost value ≤ credit) :
    Pays measure before credit (pure value : EStateM Error State Value) cost := by
  intro state other after holds ended
  cases ended
  omega

theorem pays_throw {error : Error} :
    Pays measure before credit (throw error : EStateM Error State Value) cost := by
  intro state value after holds ended
  cases ended

theorem pays_bind {next : Value → EStateM Error State Result} {price : Result → Nat}
    (first : Pays measure before credit program cost)
    (rest : ∀ value, Pays measure (fun _ => True) (cost value) (next value) price) :
    Pays measure before credit (program >>= next) price := by
  intro state result after holds ended
  change EStateM.bind program next state = _ at ended
  unfold EStateM.bind at ended
  split at ended
  next value middle reached =>
    have paid := first state value middle holds reached
    have last := rest value middle result after trivial ended
    omega
  next => cases ended

theorem pays_bind_keep {next : Value → EStateM Error State Result} {price : Result → Nat}
    (first : Pays measure before 0 program cost)
    (rest : ∀ value, Pays measure (fun _ => True) (cost value + credit) (next value) price) :
    Pays measure before credit (program >>= next) price := by
  have kept := first.keep credit
  rw [Nat.zero_add] at kept
  exact pays_bind kept rest

theorem pays_bind_get {next : State → EStateM Error State Result} {price : Result → Nat}
    (rest : ∀ state, before state → Pays measure (· = state) credit (next state) price) :
    Pays measure before credit (get >>= next) price := by
  intro state result after holds ended
  exact rest state holds state result after rfl ended

theorem pays_bind_modify (gain : Nat) {change : State → State}
    {next : Unit → EStateM Error State Result} {price : Result → Nat}
    (gains : ∀ state, before state → measure (change state) + gain ≤ measure state)
    (rest : Pays measure (fun _ => True) (credit + gain) (next ()) price) :
    Pays measure before credit (modify change >>= next) price := by
  intro state result after holds ended
  have gained := gains state holds
  have last := rest (change state) result after trivial ended
  omega

end Potential
