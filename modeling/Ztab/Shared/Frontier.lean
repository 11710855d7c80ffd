import Mathlib.Data.List.TakeWhile

set_option autoImplicit false

/-!
# The front of a growing list

A list that grows at its end, and whose pending entries may still be replaced. Its front are the
ready entries in front of the first that is not. What stands behind a front that is blocked, by an
entry neither ready nor pending, never gets into it.
-/

namespace Frontier

variable {Entry : Type} (ready pending : Entry → Bool)

def front (entries : List Entry) : List Entry := entries.takeWhile ready

def blocked (entries : List Entry) : Bool :=
  match entries.dropWhile ready with
  | [] => false
  | entry :: _ => !pending entry

inductive Grows (entries : List Entry) : List Entry → Prop where
  | append (more : List Entry) : Grows entries (entries ++ more)
  | replace (index : Nat) (entry : Entry)
      (unsettled : ∀ old, entries[index]? = some old → pending old = true) :
      Grows entries (entries.set index entry)

variable {entries : List Entry}

theorem ready_of_mem_front {ready : Entry → Bool} {entry : Entry}
    (listed : entry ∈ front ready entries) :
    ready entry = true :=
  List.mem_takeWhile_imp listed

theorem drop_front {count : Nat} (within : count ≤ (front ready entries).length) :
    front ready (entries.drop count) = (front ready entries).drop count ∧
      blocked ready pending (entries.drop count) = blocked ready pending entries := by
  induction entries generalizing count with
  | nil => simp [front]
  | cons entry rest ih =>
    cases count with
    | zero => exact ⟨rfl, rfl⟩
    | succ count =>
      cases prepared : ready entry with
      | false => simp [front, prepared] at within
      | true =>
        have shorter : count ≤ (front ready rest).length := by
          simpa [front, prepared] using within
        obtain ⟨same, kept⟩ := ih shorter
        constructor
        · simpa [front, prepared] using same
        · simpa [blocked, prepared] using kept

theorem append_front (entries more : List Entry) :
    front ready entries <+: front ready (entries ++ more) ∧
      (blocked ready pending entries = true →
        front ready (entries ++ more) = front ready entries ∧
          blocked ready pending (entries ++ more) = true) := by
  induction entries with
  | nil => simp [front, blocked]
  | cons entry rest ih =>
    cases prepared : ready entry with
    | false => simp [front, blocked, prepared]
    | true => simpa [front, blocked, prepared] using ih

theorem replace_front (settled : ∀ entry, ready entry = true → pending entry = false) (index : Nat)
    (entry : Entry) (unsettled : ∀ old, entries[index]? = some old → pending old = true) :
    front ready entries <+: front ready (entries.set index entry) ∧
      (blocked ready pending entries = true →
        front ready (entries.set index entry) = front ready entries ∧
          blocked ready pending (entries.set index entry) = true) := by
  induction entries generalizing index with
  | nil => simp [front, blocked]
  | cons first rest ih =>
    cases index with
    | zero =>
      have awaited : pending first = true := unsettled first rfl
      have unprepared : ready first = false := by
        by_contra prepared
        simp [settled first (by simpa using prepared)] at awaited
      simp [front, blocked, unprepared, awaited]
    | succ index =>
      have later := ih index fun old found => unsettled old (by simpa using found)
      cases prepared : ready first with
      | false => simp [front, blocked, prepared]
      | true => simpa [front, blocked, prepared] using later

variable {ready pending}

theorem Grows.front {next : List Entry}
    (settled : ∀ entry, ready entry = true → pending entry = false)
    (grows : Grows pending entries next) :
    Frontier.front ready entries <+: Frontier.front ready next ∧
      (blocked ready pending entries = true →
        Frontier.front ready next = Frontier.front ready entries ∧
          blocked ready pending next = true) := by
  cases grows with
  | append more => exact append_front ready pending entries more
  | replace index entry unsettled => exact replace_front ready pending settled index entry unsettled

theorem page_front (pending : Entry → Bool) {page : List Entry} {count : Nat}
    (within : count ≤ (front ready entries).length) (part : page <+: entries.drop count) :
    front ready page <+: (front ready entries).drop count ∧
      (blocked ready pending page = true →
        front ready page = (front ready entries).drop count ∧
          blocked ready pending entries = true) := by
  obtain ⟨more, whole⟩ := part
  obtain ⟨same, kept⟩ := drop_front ready pending within
  obtain ⟨grown, stays⟩ := append_front ready pending page more
  rw [whole, same] at grown
  rw [whole, same, kept] at stays
  refine ⟨grown, fun stopped => ?_⟩
  obtain ⟨unchanged, here⟩ := stays stopped
  exact ⟨unchanged.symm, here⟩

end Frontier
