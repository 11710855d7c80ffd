import Mathlib.Logic.Function.Basic

set_option autoImplicit false

/-!
# Ledgers

A table that gives each key at most one owner, kept in agreement with what the owners say that
they hold. A key is acquired when it is free and released by the owner that holds it.
-/

namespace Ledger

variable {Key Owner : Type} [DecidableEq Key]

def Agrees (table : Key → Option Owner) (holds : Owner → Key → Prop) : Prop :=
  ∀ key owner, table key = some owner ↔ holds owner key

variable {table : Key → Option Owner} {holds next : Owner → Key → Prop} {key : Key} {owner : Owner}

omit [DecidableEq Key] in
theorem Agrees.exclusive (agrees : Agrees table holds) {other : Owner} (first : holds owner key)
    (second : holds other key) : owner = other := by
  have here := (agrees key owner).mpr first
  rw [(agrees key other).mpr second] at here
  exact (Option.some.inj here).symm

omit [DecidableEq Key] in
theorem Agrees.unheld (agrees : Agrees table holds) (free : table key = none) :
    ¬ holds owner key := by
  intro held
  have taken := (agrees key owner).mpr held
  rw [free] at taken
  cases taken

omit [DecidableEq Key] in
theorem Agrees.congr (agrees : Agrees table holds) (same : ∀ owner key, next owner key ↔ holds owner key) :
    Agrees table next := by
  intro key owner
  rw [same, agrees key owner]

theorem Agrees.acquire (agrees : Agrees table holds) (free : table key = none)
    (gains : ∀ holder other,
      next holder other ↔ holder = owner ∧ other = key ∨ holds holder other) :
    Agrees (Function.update table key (some owner)) next := by
  intro other holder
  rw [gains]
  by_cases same : other = key
  next =>
    subst same
    rw [Function.update_self]
    constructor
    · intro mine
      exact .inl ⟨(Option.some.inj mine).symm, rfl⟩
    · rintro (⟨rfl, -⟩ | held)
      · rfl
      · exact absurd held (agrees.unheld free)
  next =>
    rw [Function.update_of_ne same, agrees other holder]
    simp [same]

theorem Agrees.release (agrees : Agrees table holds) (held : holds owner key)
    (loses : ∀ holder other,
      next holder other ↔ holds holder other ∧ ¬ (holder = owner ∧ other = key)) :
    Agrees (Function.update table key none) next := by
  intro other holder
  rw [loses]
  by_cases same : other = key
  next =>
    subst same
    rw [Function.update_self]
    constructor
    · intro none
      cases none
    · rintro ⟨again, apart⟩
      exact absurd ⟨agrees.exclusive again held, rfl⟩ apart
  next =>
    rw [Function.update_of_ne same, agrees other holder]
    simp [same]

theorem Agrees.transfer (agrees : Agrees table holds) {heir : Owner} (held : holds owner key)
    (passes : ∀ holder other, next holder other ↔
      holder = heir ∧ other = key ∨ holds holder other ∧ ¬ (holder = owner ∧ other = key)) :
    Agrees (Function.update table key (some heir)) next := by
  have released := agrees.release held (fun _ _ => Iff.rfl)
  have acquired := released.acquire (Function.update_self key none table) passes
  rwa [Function.update_idem] at acquired

end Ledger
