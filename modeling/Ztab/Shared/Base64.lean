import Mathlib.Data.List.DropRight

set_option autoImplicit false

/-!
# Base 64

The sextets of a list of octets, and the padding that fills up the last group of four. What a sextet
is written as is left open.
-/

namespace Base64

-- A group that is cut short ends in zero bits.
def sextets : List UInt8 → List Nat
  | [] => []
  | [a] => [a.toNat / 4, a.toNat % 4 * 16]
  | [a, b] => [a.toNat / 4, a.toNat % 4 * 16 + b.toNat / 16, b.toNat % 16 * 4]
  | a :: b :: c :: rest =>
    [a.toNat / 4, a.toNat % 4 * 16 + b.toNat / 16, b.toNat % 16 * 4 + c.toNat / 64, c.toNat % 64] ++
      sextets rest

@[elab_as_elim]
theorem groups {motive : List UInt8 → Prop} (empty : motive []) (one : ∀ a, motive [a])
    (two : ∀ a b, motive [a, b])
    (group : ∀ a b c rest, motive rest → motive (a :: b :: c :: rest)) (octets : List UInt8) :
    motive octets :=
  match octets with
  | [] => empty
  | [a] => one a
  | [a, b] => two a b
  | a :: b :: c :: rest => group a b c rest (groups empty one two group rest)

def pads (octets : Nat) : Nat := (3 - octets % 3) % 3

theorem pads_cons (a b c : UInt8) (rest : List UInt8) :
    pads (a :: b :: c :: rest).length = pads rest.length := by
  change (3 - (rest.length + 3) % 3) % 3 = _
  rw [pads, Nat.add_mod_right]

theorem sextets_lt (octets : List UInt8) : ∀ sextet ∈ sextets octets, sextet < 64 := by
  induction octets using groups with
  | empty => simp [sextets]
  | one a =>
    have first := a.toNat_lt
    simp only [sextets, List.forall_mem_cons, List.not_mem_nil, IsEmpty.forall_iff, implies_true,
      and_true]
    omega
  | two a b =>
    have first := a.toNat_lt
    have second := b.toNat_lt
    simp only [sextets, List.forall_mem_cons, List.not_mem_nil, IsEmpty.forall_iff, implies_true,
      and_true]
    omega
  | group a b c rest ih =>
    have first := a.toNat_lt
    have second := b.toNat_lt
    have third := c.toNat_lt
    simp only [sextets, List.cons_append, List.nil_append, List.forall_mem_cons]
    exact ⟨by omega, by omega, by omega, by omega, ih⟩

theorem pads_eq (octets : List UInt8) :
    (4 - (sextets octets).length % 4) % 4 = pads octets.length := by
  induction octets using groups with
  | empty => rfl
  | one a => rfl
  | two a b => rfl
  | group a b c rest ih =>
    have four : (sextets (a :: b :: c :: rest)).length % 4 = (sextets rest).length % 4 := by
      simp only [sextets, List.length_append, List.length_cons, List.length_nil]
      omega
    rw [four, ih, pads_cons]

section Writing

variable {Symbol : Type} [DecidableEq Symbol] {letter : Nat → Symbol} {pad : Symbol}

theorem rdropWhile_pads (proper : ∀ sextet < 64, letter sextet ≠ pad) (octets : List UInt8)
    (count : Nat) :
    ((sextets octets).map letter ++ List.replicate count pad).rdropWhile (fun symbol => symbol = pad) =
      (sextets octets).map letter := by
  induction count with
  | zero =>
    simp only [List.replicate_zero, List.append_nil, List.rdropWhile_eq_self_iff]
    intro written
    have last := List.getLast_mem written
    obtain ⟨sextet, listed, same⟩ := List.mem_map.mp last
    rw [← same]
    simpa using proper sextet (sextets_lt octets sextet listed)
  | succ count ih =>
    rw [List.replicate_succ', ← List.append_assoc, List.rdropWhile_concat_pos]
    · exact ih
    · simp

end Writing

end Base64
