import Mathlib.Data.List.Infix

set_option autoImplicit false

/-!
# Occurrences of a pattern in a text

A text is put together from pieces. Where no occurrence can cross the border of two pieces, the
occurrences in the whole are those in the pieces.
-/

namespace Occurrences

variable {α : Type} {pattern left right text : List α}

def Cut (pattern left right : List α) : Prop :=
  ∀ first second, first ≠ [] → second ≠ [] → pattern = first ++ second →
    ¬ (first <:+ left ∧ second <+: right)

theorem Cut.suffix (cut : Cut pattern left right) {piece : List α} (ending : piece <:+ left) :
    Cut pattern piece right := by
  intro first second started remaining same inside
  exact cut first second started remaining same ⟨inside.1.trans ending, inside.2⟩

-- The first letter of the right piece would stand inside the pattern.
theorem cut_of_head {first : α} (rest : List α) (apart : first ∉ pattern.tail) :
    Cut pattern left (first :: rest) := by
  intro before after started remaining same inside
  obtain ⟨head, tail, rfl⟩ := List.exists_cons_of_ne_nil remaining
  obtain ⟨start, begun, rfl⟩ := List.exists_cons_of_ne_nil started
  obtain ⟨rfl, -⟩ := List.cons_prefix_cons.mp inside.2
  apply apart
  simp [same]

-- The last letter of the left piece would stand inside the pattern.
theorem cut_of_last {last : α} (start : List α) (apart : last ∉ pattern) :
    Cut pattern (start ++ [last]) right := by
  intro before after started remaining same inside
  obtain ⟨begun, final, rfl⟩ := (List.eq_nil_or_concat' before).resolve_left started
  obtain ⟨earlier, ending⟩ := inside.1
  rw [← List.append_assoc] at ending
  obtain ⟨-, one⟩ := List.append_inj' ending rfl
  cases one
  apply apart
  simp [same]

theorem Cut.prefix_iff (cut : Cut pattern left right) (present : left ≠ []) :
    pattern <+: left ++ right ↔ pattern <+: left := by
  constructor
  next =>
    intro begins
    obtain short | long := List.prefix_or_prefix_of_prefix begins (List.prefix_append left right)
    · exact short
    · obtain ⟨second, rfl⟩ := long
      by_cases remaining : second = []
      next => simp [remaining]
      next =>
        have inside : second <+: right := (List.prefix_append_right_inj left).mp begins
        exact absurd ⟨List.suffix_refl left, inside⟩ (cut left second present remaining rfl)
  next => exact fun begins => begins.trans (List.prefix_append left right)

theorem Cut.infix_iff (cut : Cut pattern left right) (proper : pattern ≠ []) :
    pattern <:+: left ++ right ↔ pattern <:+: left ∨ pattern <:+: right := by
  induction left with
  | nil => simp [proper]
  | cons head rest ih =>
    rw [List.cons_append, List.infix_cons_iff, ← List.cons_append, cut.prefix_iff (by simp),
      ih (cut.suffix (List.suffix_cons head rest)), List.infix_cons_iff, or_assoc]

/-- Whatever stands around the text, no occurrence crosses its borders. -/
def Sealed (pattern text : List α) : Prop :=
  ∀ before after, pattern <:+: before ++ (text ++ after) ↔
    pattern <:+: before ∨ pattern <:+: text ∨ pattern <:+: after

theorem sealed_of_ends (proper : pattern ≠ []) {first last : α}
    (opening : text.head? = some first) (closing : text.getLast? = some last)
    (apart : first ∉ pattern.tail) (apart' : last ∉ pattern) : Sealed pattern text := by
  intro before after
  obtain ⟨start, rfl⟩ := List.getLast?_eq_some_iff.mp closing
  have inner : Cut pattern (start ++ [last]) after := cut_of_last start apart'
  have outer : Cut pattern before (start ++ [last] ++ after) := by
    cases start with
    | nil =>
      cases opening
      exact cut_of_head _ apart
    | cons head rest =>
      cases opening
      exact cut_of_head _ apart
  rw [outer.infix_iff proper, inner.infix_iff proper]

theorem not_infix_of_head {first : α} {rest : List α} (apart : first ∉ text) :
    ¬ first :: rest <:+: text := by
  intro inside
  exact apart (inside.subset List.mem_cons_self)

-- An occurrence cannot begin in a piece without the pattern's first letter.
theorem infix_of_append {first : α} {rest : List α} (apart : first ∉ left)
    (inside : first :: rest <:+: left ++ right) : first :: rest <:+: right := by
  induction left with
  | nil => exact inside
  | cons head others ih =>
    rw [List.cons_append, List.infix_cons_iff] at inside
    obtain begins | later := inside
    · have same := (List.cons_prefix_cons.mp begins).1
      exact absurd same (fun equal => apart (equal ▸ List.mem_cons_self))
    · exact ih (fun member => apart (List.mem_cons_of_mem _ member)) later

theorem takeWhile_stop {holds : α → Bool} {run : List α} {stop : α}
    (inside : ∀ letter ∈ run, holds letter = true) (stops : holds stop = false) (rest : List α) :
    (run ++ stop :: rest).takeWhile holds = run := by
  rw [List.takeWhile_append_of_pos inside, List.takeWhile_cons, stops]
  exact List.append_nil run

theorem dropWhile_stop {holds : α → Bool} {run : List α} {stop : α}
    (inside : ∀ letter ∈ run, holds letter = true) (stops : holds stop = false) (rest : List α) :
    (run ++ stop :: rest).dropWhile holds = stop :: rest := by
  rw [List.dropWhile_append_of_pos inside, List.dropWhile_cons, stops]
  rfl

theorem split_after {mark : α} {front back : List α} (apart : mark ∉ left)
    (same : left ++ right = front ++ mark :: back) :
    ∃ inner, front = left ++ inner ∧ right = inner ++ mark :: back := by
  obtain ⟨inner, rfl, rest⟩ | ⟨inner, rfl, rest⟩ := List.append_eq_append_iff.mp same
  · exact ⟨inner, rfl, rest⟩
  · cases inner with
    | nil => exact ⟨[], by simp, rest.symm⟩
    | cons head others =>
      obtain ⟨rfl, -⟩ := List.cons.inj rest
      exact absurd (List.mem_append_right _ List.mem_cons_self) apart

theorem split_before {mark : α} {front back : List α} (apart : mark ∉ right)
    (same : left ++ right = front ++ mark :: back) :
    ∃ inner, left = front ++ mark :: inner ∧ back = inner ++ right := by
  obtain ⟨inner, rfl, rest⟩ | ⟨inner, rfl, rest⟩ := List.append_eq_append_iff.mp same
  · rw [rest] at apart
    exact absurd (List.mem_append_right _ List.mem_cons_self) apart
  · cases inner with
    | nil =>
      rw [List.nil_append] at rest
      rw [← rest] at apart
      exact absurd List.mem_cons_self apart
    | cons head others =>
      obtain ⟨rfl, rfl⟩ := List.cons.inj rest
      exact ⟨others, rfl, rfl⟩

variable [DecidableEq α]

def occurrences (pattern : List α) (index : Nat) : List α → List Nat
  | [] => []
  | head :: rest =>
    if pattern <+: head :: rest then index :: occurrences pattern (index + 1) rest
    else occurrences pattern (index + 1) rest

theorem occurrences_eq_nil_iff (proper : pattern ≠ []) (index : Nat) :
    occurrences pattern index text = [] ↔ ¬ pattern <:+: text := by
  induction text generalizing index with
  | nil => simp [occurrences, proper]
  | cons head rest ih =>
    rw [occurrences, List.infix_cons_iff]
    split_ifs with begins
    · simp [begins]
    · simp [begins, ih]

theorem occurrences_shift (pattern text : List α) (index : Nat) :
    occurrences pattern index text = (occurrences pattern 0 text).map (index + ·) := by
  induction text generalizing index with
  | nil => rfl
  | cons head rest ih =>
    have shifted : (fun position => index + 1 + position) = (index + ·) ∘ (1 + ·) := by
      funext position
      simp only [Function.comp_apply]
      omega
    simp only [occurrences, ih (index + 1), ih (0 + 1), Nat.zero_add]
    split_ifs <;> simp [shifted]

theorem Cut.occurrences (cut : Cut pattern left right) (index : Nat) :
    occurrences pattern index (left ++ right) =
      occurrences pattern index left ++ occurrences pattern (index + left.length) right := by
  induction left generalizing index with
  | nil => simp [Occurrences.occurrences]
  | cons head rest ih =>
    have next := ih (cut.suffix (List.suffix_cons head rest)) (index + 1)
    have shifted : index + (head :: rest).length = index + 1 + rest.length := by
      simp only [List.length_cons]
      omega
    have begins := cut.prefix_iff (List.cons_ne_nil head rest)
    rw [List.cons_append] at begins
    simp only [List.cons_append, Occurrences.occurrences, begins, next, shifted]
    split_ifs <;> simp

-- The text in front of the first occurrence and the text behind it.
def splitFirst (pattern : List α) : List α → Option (List α × List α)
  | [] => if pattern = [] then some ([], []) else none
  | head :: rest =>
    if pattern <+: head :: rest then some ([], (head :: rest).drop pattern.length)
    else (splitFirst pattern rest).map fun parts => (head :: parts.1, parts.2)

theorem Cut.splitFirst_eq (cut : Cut pattern left (pattern ++ right)) (proper : pattern ≠ [])
    (absent : ¬ pattern <:+: left) :
    splitFirst pattern (left ++ (pattern ++ right)) = some (left, right) := by
  induction left with
  | nil =>
    obtain ⟨first, rest, rfl⟩ := List.exists_cons_of_ne_nil proper
    rw [List.nil_append, List.cons_append, splitFirst, ← List.cons_append,
      if_pos (List.prefix_append _ _), List.drop_left]
  | cons head others ih =>
    have starts : ¬ pattern <+: head :: (others ++ (pattern ++ right)) := by
      rw [← List.cons_append, cut.prefix_iff (List.cons_ne_nil head others)]
      exact fun begins => absent begins.isInfix
    rw [List.cons_append, splitFirst, if_neg starts, ih (cut.suffix (List.suffix_cons head others))
      fun inside => absent (inside.trans (List.suffix_cons head others).isInfix)]
    rfl

end Occurrences
