import Mathlib.Data.List.Basic

set_option autoImplicit false

/-!
# Length-prefixed entries

A text of entries, each a header that announces how many symbols follow it. Every text has exactly
one reading from its start up to the first entry that would run past the end.
-/

namespace LengthPrefixed

variable {Symbol : Type} {size : Symbol → Nat}

structure Entry (size : Symbol → Nat) where
  header : Symbol
  body : List Symbol
  sized : body.length = size header

def Entry.spelled (entry : Entry size) : List Symbol := entry.header :: entry.body

@[simp] theorem Entry.length_spelled (entry : Entry size) :
    entry.spelled.length = entry.body.length + 1 := rfl

def spell (entries : List (Entry size)) : List Symbol := entries.flatMap Entry.spelled

@[simp] theorem spell_nil : spell ([] : List (Entry size)) = [] := rfl

@[simp] theorem spell_cons (entry : Entry size) (later : List (Entry size)) :
    spell (entry :: later) = entry.spelled ++ spell later := rfl

@[simp] theorem spell_append (earlier later : List (Entry size)) :
    spell (earlier ++ later) = spell earlier ++ spell later := List.flatMap_append

def Overruns (size : Symbol → Nat) : List Symbol → Prop
  | [] => True
  | header :: body => body.length < size header

instance : DecidablePred (Overruns size)
  | [] => inferInstanceAs (Decidable True)
  | _ :: _ => inferInstanceAs (Decidable (_ < _))

structure Reading (size : Symbol → Nat) (text : List Symbol) where
  entries : List (Entry size)
  rest : List Symbol
  spelled : spell entries ++ rest = text
  overruns : Overruns size rest

def Reading.cons (entry : Entry size) {behind text : List Symbol} (later : Reading size behind)
    (starts : entry.spelled ++ behind = text) : Reading size text where
  entries := entry :: later.entries
  rest := later.rest
  spelled := by rw [spell_cons, List.append_assoc, later.spelled, starts]
  overruns := later.overruns

def read (size : Symbol → Nat) : (text : List Symbol) → Reading size text
  | [] => ⟨[], [], rfl, trivial⟩
  | header :: following =>
    if fits : size header ≤ following.length then
      Reading.cons ⟨header, following.take (size header), List.length_take_of_le fits⟩
        (read size (following.drop (size header)))
        (congrArg (List.cons header) (List.take_append_drop _ _))
    else ⟨[], header :: following, rfl, Nat.lt_of_not_le fits⟩
termination_by text => text.length
decreasing_by
  simp only [List.length_drop, List.length_cons]
  omega

theorem spelled_ne_overrun {entry : Entry size} {behind rest : List Symbol}
    (overruns : Overruns size rest) : entry.spelled ++ behind ≠ rest := by
  rintro rfl
  simp only [Entry.spelled, List.cons_append, Overruns, List.length_append, entry.sized] at overruns
  omega

theorem spelled_append_inj {entry other : Entry size} {behind others : List Symbol}
    (same : entry.spelled ++ behind = other.spelled ++ others) : entry = other ∧ behind = others := by
  obtain ⟨header, body, sized⟩ := entry
  obtain ⟨header', body', sized'⟩ := other
  simp only [Entry.spelled, List.cons_append, List.cons.injEq] at same
  obtain ⟨rfl, bodies⟩ := same
  obtain ⟨rfl, rfl⟩ := List.append_inj bodies (sized.trans sized'.symm)
  exact ⟨rfl, rfl⟩

theorem spell_append_inj {entries others : List (Entry size)} {rest rest' : List Symbol}
    (overruns : Overruns size rest) (overruns' : Overruns size rest')
    (same : spell entries ++ rest = spell others ++ rest') : entries = others ∧ rest = rest' := by
  induction entries generalizing others with
  | nil =>
    cases others with
    | nil => exact ⟨rfl, same⟩
    | cons other later =>
      simp only [spell_nil, List.nil_append, spell_cons, List.append_assoc] at same
      exact absurd same.symm (spelled_ne_overrun overruns)
  | cons entry later ih =>
    cases others with
    | nil =>
      simp only [spell_nil, List.nil_append, spell_cons, List.append_assoc] at same
      exact absurd same (spelled_ne_overrun overruns')
    | cons other others =>
      simp only [spell_cons, List.append_assoc] at same
      obtain ⟨rfl, behind⟩ := spelled_append_inj same
      obtain ⟨rfl, rests⟩ := ih behind
      exact ⟨rfl, rests⟩

instance (text : List Symbol) : Subsingleton (Reading size text) where
  allEq := by
    rintro ⟨entries, rest, spelled, overruns⟩ ⟨others, rest', spelled', overruns'⟩
    obtain ⟨rfl, rfl⟩ := spell_append_inj overruns overruns' (spelled.trans spelled'.symm)
    rfl

end LengthPrefixed
