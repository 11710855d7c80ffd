import Mathlib.Init

set_option autoImplicit false

/-!
# What a program reads

A state holds the symbols that are still to be read. A program spells a property when whatever it
uses up, from the front of these, has the property.
-/

namespace Spelling

variable {Error State Symbol Value Result : Type}

/-- From every state with `before`, the chunk that the program uses up is `spelled`. -/
def Spells (remaining : State → List Symbol) (before : State → Prop)
    (program : EStateM Error State Value) (spelled : List Symbol → Prop) : Prop :=
  ∀ state value after, before state → program state = .ok value after →
    ∃ chunk, remaining state = chunk ++ remaining after ∧ spelled chunk

structure Composable (spelled : List Symbol → Prop) : Prop where
  nil : spelled []
  append : ∀ first second, spelled first → spelled second → spelled (first ++ second)

variable {remaining : State → List Symbol} {before : State → Prop}
  {program : EStateM Error State Value} {spelled : List Symbol → Prop}

theorem Spells.mono {first : State → Prop} {other : List Symbol → Prop}
    (spells : Spells remaining before program spelled) (stronger : ∀ state, first state → before state)
    (weaker : ∀ chunk, spelled chunk → other chunk) : Spells remaining first program other := by
  intro state value after holds ended
  obtain ⟨chunk, same, property⟩ := spells state value after (stronger state holds) ended
  exact ⟨chunk, same, weaker chunk property⟩

theorem Spells.anywhere (spells : Spells remaining (fun _ => True) program spelled) :
    Spells remaining before program spelled :=
  spells.mono (fun _ _ => trivial) (fun _ property => property)

theorem spells_pure {value : Value} (nothing : spelled []) :
    Spells remaining before (pure value : EStateM Error State Value) spelled := by
  intro state other after holds ended
  cases ended
  exact ⟨[], rfl, nothing⟩

theorem spells_throw {error : Error} :
    Spells remaining before (throw error : EStateM Error State Value) spelled := by
  intro state value after holds ended
  cases ended

theorem spells_bind {next : Value → EStateM Error State Result} {later whole : List Symbol → Prop}
    (first : Spells remaining before program spelled)
    (rest : ∀ value, Spells remaining (fun _ => True) (next value) later)
    (join : ∀ chunk other, spelled chunk → later other → whole (chunk ++ other)) :
    Spells remaining before (program >>= next) whole := by
  intro state result after holds ended
  change EStateM.bind program next state = _ at ended
  unfold EStateM.bind at ended
  split at ended
  next value middle reached =>
    obtain ⟨chunk, same, property⟩ := first state value middle holds reached
    obtain ⟨other, onward, second⟩ := rest value middle result after trivial ended
    exact ⟨chunk ++ other, by rw [same, onward, List.append_assoc], join _ _ property second⟩
  next => cases ended

theorem Spells.returning (spells : Spells remaining before program spelled) (f : Value → Result) :
    Spells remaining before (program >>= fun value => pure (f value)) spelled := by
  refine spells_bind spells (fun _ => spells_pure rfl) ?_
  rintro chunk _ property rfl
  rw [List.append_nil]
  exact property

theorem Composable.bind (composable : Composable spelled)
    {next : Value → EStateM Error State Result} (first : Spells remaining before program spelled)
    (rest : ∀ value, Spells remaining (fun _ => True) (next value) spelled) :
    Spells remaining before (program >>= next) spelled :=
  spells_bind first rest composable.append

theorem spells_bind_get {next : State → EStateM Error State Result}
    (rest : ∀ state, before state → Spells remaining (· = state) (next state) spelled) :
    Spells remaining before (get >>= next) spelled := by
  intro state result after holds ended
  exact rest state holds state result after rfl ended

theorem spells_modify {change : State → State}
    (uses : ∀ state, before state → ∃ chunk, remaining state = chunk ++ remaining (change state) ∧
      spelled chunk) :
    Spells remaining before (modify change : EStateM Error State PUnit) spelled := by
  intro state value after holds ended
  cases ended
  exact uses state holds

end Spelling
