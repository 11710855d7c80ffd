import Mathlib.Algebra.Group.Nat.Even
import Mathlib.Data.List.TakeWhile
import Ztab.Shared.Occurrences

set_option autoImplicit false

/-!
# Segments of a path

A scan for a mark, a word, a mark, some digits and a mark, which goes on behind what it has found.
Two segments can share a mark, and then the second of them is not found.
-/

namespace Segments

open Occurrences

structure Shape (Point : Type) where
  mark : Point
  word : List Point
  isDigit : Point → Bool
  mark_not_word : mark ∉ word
  mark_not_digit : isDigit mark = false
  word_begins : ∃ first rest, word = first :: rest ∧ isDigit first = false

variable {Point : Type}

namespace Shape

variable (shape : Shape Point)

def opening : List Point := shape.mark :: (shape.word ++ [shape.mark])

def Digits (digits : List Point) : Prop := digits ≠ [] ∧ ∀ point ∈ digits, shape.isDigit point = true

def SegmentAt (text before digits : List Point) : Prop :=
  shape.Digits digits ∧ ∃ after, text = before ++ (shape.opening ++ (digits ++ shape.mark :: after))

-- `count` segments stand directly in front, each of which shares its last mark with the next one.
inductive Chained : Nat → List Point → Prop
  | first {before : List Point}
      (alone : ∀ earlier digits, shape.Digits digits → before ≠ earlier ++ (shape.opening ++ digits)) :
      Chained 0 before
  | next {count : Nat} {earlier digits : List Point} (number : shape.Digits digits)
      (chained : Chained count earlier) : Chained (count + 1) (earlier ++ (shape.opening ++ digits))

variable [DecidableEq Point]

-- The digits of the segment that the text starts with.
def matchAt (text : List Point) : Option (List Point) :=
  if shape.opening.isPrefixOf text then
    let rest := text.drop shape.opening.length
    let digits := rest.takeWhile shape.isDigit
    if digits ≠ [] ∧ (rest.dropWhile shape.isDigit).head? = some shape.mark then some digits else none
  else none

def scanFrom : Nat → List Point → List (List Point)
  | _, [] => []
  | skip + 1, _ :: rest => scanFrom skip rest
  | 0, point :: rest =>
    match shape.matchAt (point :: rest) with
    | some digits => digits :: scanFrom (shape.opening.length + digits.length) rest
    | none => scanFrom 0 rest

def scan (text : List Point) : List (List Point) := shape.scanFrom 0 text

end Shape

variable {shape : Shape Point} {text before digits : List Point}

theorem Shape.Digits.mark_not_mem (number : shape.Digits digits) : shape.mark ∉ digits := by
  intro listed
  have digit := number.2 _ listed
  rw [shape.mark_not_digit] at digit
  cases digit

section Matching

variable [DecidableEq Point]

theorem matchAt_eq_some :
    shape.matchAt text = some digits ↔ shape.SegmentAt text [] digits := by
  constructor
  · intro found
    unfold Shape.matchAt at found
    split at found
    next opens =>
      obtain ⟨rest, rfl⟩ := List.isPrefixOf_iff_prefix.mp opens
      rw [List.drop_left] at found
      simp only at found
      split at found
      next closes =>
        cases found
        obtain ⟨after, behind⟩ := List.head?_eq_some_iff.mp closes.2
        refine ⟨⟨closes.1, fun point listed => List.mem_takeWhile_imp listed⟩, after, ?_⟩
        rw [List.nil_append, ← behind, List.takeWhile_append_dropWhile]
      next => cases found
    next => cases found
  · rintro ⟨number, after, rfl⟩
    have opens : shape.opening.isPrefixOf
        ([] ++ (shape.opening ++ (digits ++ shape.mark :: after))) = true :=
      List.isPrefixOf_iff_prefix.mpr ⟨_, rfl⟩
    rw [Shape.matchAt, if_pos opens, List.nil_append, List.drop_left]
    simp only [takeWhile_stop number.2 shape.mark_not_digit, dropWhile_stop number.2 shape.mark_not_digit]
    rw [List.head?_cons, if_pos ⟨number.1, rfl⟩]

theorem scanFrom_eq (skip : Nat) (text : List Point) :
    shape.scanFrom skip text = shape.scan (text.drop skip) := by
  induction text generalizing skip with
  | nil => cases skip <;> rfl
  | cons point rest ih =>
    cases skip with
    | zero => rfl
    | succ skip => rw [Shape.scanFrom, ih, List.drop_succ_cons]

-- The scan goes on behind the last mark of what it has found.
theorem scan_found (number : shape.Digits digits) (after : List Point) :
    shape.scan (shape.opening ++ (digits ++ shape.mark :: after)) = digits :: shape.scan after := by
  have found : shape.matchAt (shape.opening ++ (digits ++ shape.mark :: after)) = some digits :=
    matchAt_eq_some.mpr ⟨number, after, rfl⟩
  rw [Shape.opening, List.cons_append] at found ⊢
  have behind : (shape.word ++ [shape.mark] ++ (digits ++ shape.mark :: after)).drop
      (shape.opening.length + digits.length) = after := by
    have whole : shape.word ++ [shape.mark] ++ (digits ++ shape.mark :: after) =
        (shape.word ++ [shape.mark] ++ digits ++ [shape.mark]) ++ after := by simp
    rw [whole]
    refine List.drop_left' ?_
    simp [Shape.opening]
    omega
  rw [Shape.scan, Shape.scanFrom, found]
  simp only [scanFrom_eq, behind]

theorem scan_not_found {point : Point} {rest : List Point}
    (missing : shape.matchAt (point :: rest) = none) :
    shape.scan (point :: rest) = shape.scan rest := by
  rw [Shape.scan, Shape.scanFrom, missing]
  rfl

end Matching

-- The digits that a list ends with are all its last digits.
theorem opening_digits_inj {earlier earlier' digits' : List Point} (number : shape.Digits digits)
    (number' : shape.Digits digits')
    (same : earlier ++ (shape.opening ++ digits) = earlier' ++ (shape.opening ++ digits')) :
    earlier = earlier' ∧ digits = digits' := by
  have split : ∀ front back : List Point, front ++ (shape.opening ++ back) =
      (front ++ shape.mark :: shape.word) ++ shape.mark :: back := by simp [Shape.opening]
  have left := same
  have right := same.symm
  rw [← List.append_assoc, split] at left right
  obtain ⟨inner, -, longer⟩ := split_before number.mark_not_mem left
  obtain ⟨inner', -, longer'⟩ := split_before number'.mark_not_mem right
  have lengths := congrArg List.length longer
  have lengths' := congrArg List.length longer'
  simp only [List.length_append] at lengths lengths'
  obtain rfl : inner = [] := List.length_eq_zero_iff.mp (by omega)
  rw [List.nil_append] at longer
  subst longer
  exact ⟨List.append_cancel_right same, rfl⟩

theorem chained_next_inv {count : Nat} {earlier : List Point} (number : shape.Digits digits)
    (chained : shape.Chained count (earlier ++ (shape.opening ++ digits))) :
    ∃ fewer, count = fewer + 1 ∧ shape.Chained fewer earlier := by
  generalize same : earlier ++ (shape.opening ++ digits) = before at chained
  cases chained with
  | first alone => exact (alone earlier digits number same.symm).elim
  | next number' chained =>
    obtain ⟨rfl, -⟩ := opening_digits_inj number number' same
    exact ⟨_, rfl, chained⟩

theorem chained_unique {count count' : Nat} (chained : shape.Chained count before)
    (chained' : shape.Chained count' before) : count = count' := by
  induction chained generalizing count' with
  | first alone =>
    cases chained' with
    | first => rfl
    | next number _ => exact (alone _ _ number rfl).elim
  | next number _ ih =>
    obtain ⟨fewer, rfl, chained⟩ := chained_next_inv number chained'
    rw [ih chained]

theorem chained_exists (shape : Shape Point) (before : List Point) : ∃ count, shape.Chained count before := by
  induction length : before.length using Nat.strong_induction_on generalizing before with
  | _ length ih =>
    by_cases ends : ∃ earlier digits, shape.Digits digits ∧ before = earlier ++ (shape.opening ++ digits)
    next =>
      obtain ⟨earlier, digits, number, rfl⟩ := ends
      obtain ⟨count, chained⟩ := ih earlier.length (by simp [← length, Shape.opening]) earlier rfl
      exact ⟨count + 1, .next number chained⟩
    next => exact ⟨0, .first fun earlier digits number same => ends ⟨earlier, digits, number, same⟩⟩

theorem digits_ne_word {first rest after : List Point} (number : shape.Digits first)
    (same : first ++ after = shape.word ++ rest) : False := by
  obtain ⟨letter, letters, word, notDigit⟩ := shape.word_begins
  obtain ⟨digit, digits, rfl⟩ := List.exists_cons_of_ne_nil number.1
  rw [word, List.cons_append, List.cons_append] at same
  obtain ⟨rfl, -⟩ := List.cons.inj same
  rw [number.2 digit List.mem_cons_self] at notDigit
  cases notDigit

-- A segment that begins inside another one begins at its last mark.
theorem segment_overlaps {rest after first : List Point} (number : shape.Digits first)
    (same : shape.opening ++ (first ++ shape.mark :: after) = before ++ (shape.opening ++ rest)) :
    before = [] ∨ before = shape.opening ++ first ∨
      ∃ inner, before = shape.opening ++ (first ++ shape.mark :: inner) ∧
        after = inner ++ (shape.opening ++ rest) := by
  have opened : ∀ back : List Point,
      shape.opening ++ back = shape.mark :: (shape.word ++ shape.mark :: back) := by
    simp [Shape.opening]
  rw [opened, opened rest] at same
  cases before with
  | nil => exact .inl rfl
  | cons point before =>
    right
    obtain ⟨rfl, behind⟩ := List.cons.inj same
    obtain ⟨inner, rfl, behindWord⟩ := split_after shape.mark_not_word behind
    cases inner with
    | nil => exact (digits_ne_word number (List.cons.inj behindWord).2).elim
    | cons point inner =>
      obtain ⟨rfl, behindMark⟩ := List.cons.inj behindWord
      obtain ⟨inner, rfl, behindDigits⟩ := split_after number.mark_not_mem behindMark
      cases inner with
      | nil =>
        left
        rw [List.append_nil, opened]
      | cons point inner =>
        right
        obtain ⟨rfl, inside⟩ := List.cons.inj behindDigits
        refine ⟨inner, ?_, ?_⟩
        · rw [opened]
        · rw [opened]
          exact inside

theorem chained_nil : shape.Chained 0 [] := by
  refine .first fun earlier digits _ same => ?_
  simp [Shape.opening] at same

-- Whether a chain has an even number of segments does not change when a segment and its last mark
-- are put in front: either the chain ends before them, or it goes on with the segment that shares
-- that mark and with the segment itself.
theorem chained_behind {first : List Point} {count : Nat} (number : shape.Digits first)
    (chained : shape.Chained count before) :
    ∃ longer, shape.Chained longer (shape.opening ++ (first ++ shape.mark :: before)) ∧
      (Even longer ↔ Even count) := by
  induction chained with
  | @first before alone =>
    by_cases ends : ∃ earlier digits, shape.Digits digits ∧
        shape.opening ++ (first ++ shape.mark :: before) = earlier ++ (shape.opening ++ digits)
    next =>
      obtain ⟨earlier, digits, number', same⟩ := ends
      rcases segment_overlaps number same with rfl | rfl | ⟨inner, -, inside⟩
      · rw [List.nil_append] at same
        have listed : shape.mark ∈ digits := by
          rw [← List.append_cancel_left same]
          simp
        exact (number'.mark_not_mem listed).elim
      · refine ⟨0 + 1 + 1, ?_, by decide⟩
        rw [same]
        exact .next number' (.next number chained_nil)
      · exact (alone inner digits number' inside).elim
    next => exact ⟨0, .first fun earlier digits number' same => ends ⟨_, _, number', same⟩, Iff.rfl⟩
  | @next count earlier digits number' _ ih =>
    obtain ⟨longer, chained, parity⟩ := ih
    refine ⟨longer + 1, ?_, ?_⟩
    · have joined : shape.opening ++ (first ++ shape.mark :: (earlier ++ (shape.opening ++ digits))) =
          (shape.opening ++ (first ++ shape.mark :: earlier)) ++ (shape.opening ++ digits) := by simp
      rw [joined]
      exact .next number' chained
    · rw [Nat.even_add_one, Nat.even_add_one, parity]

-- The same for a letter in front that does not begin a segment.
theorem chained_cons [DecidableEq Point] {point : Point} {after : List Point} {count : Nat}
    (missing : shape.matchAt (point :: (before ++ shape.mark :: after)) = none)
    (chained : shape.Chained count before) : shape.Chained count (point :: before) := by
  induction chained generalizing after with
  | @first before alone =>
    refine .first fun earlier digits number same => ?_
    cases earlier with
    | nil =>
      have found : shape.matchAt (point :: (before ++ shape.mark :: after)) = some digits := by
        refine matchAt_eq_some.mpr ⟨number, after, ?_⟩
        rw [← List.cons_append, same]
        simp
      rw [missing] at found
      cases found
    | cons head earlier => exact alone earlier digits number (List.cons.inj same).2
  | @next count earlier digits number _ ih =>
    have joined : earlier ++ (shape.opening ++ digits) ++ shape.mark :: after =
        earlier ++ shape.mark :: (shape.word ++ shape.mark :: (digits ++ shape.mark :: after)) := by
      simp [Shape.opening]
    rw [joined] at missing
    exact .next number (ih missing)

variable [DecidableEq Point]

theorem mem_scan_not_found {point : Point} {rest : List Point}
    (missing : shape.matchAt (point :: rest) = none) :
    (∃ before count, shape.SegmentAt (point :: rest) before digits ∧ shape.Chained count before ∧
        Even count) ↔
      ∃ before count, shape.SegmentAt rest before digits ∧ shape.Chained count before ∧ Even count := by
  have longer : ∀ {before count}, shape.SegmentAt rest before digits → shape.Chained count before →
      shape.Chained count (point :: before) := by
    rintro before count ⟨number, after, rfl⟩ chained
    have marked : shape.opening ++ (digits ++ shape.mark :: after) =
        shape.mark :: (shape.word ++ [shape.mark] ++ (digits ++ shape.mark :: after)) := rfl
    rw [marked] at missing
    exact chained_cons missing chained
  constructor
  · rintro ⟨before, count, ⟨number, after, same⟩, chained, even⟩
    cases before with
    | nil =>
      rw [matchAt_eq_some.mpr ⟨number, after, same⟩] at missing
      cases missing
    | cons head before =>
      obtain ⟨rfl, same'⟩ := List.cons.inj same
      obtain ⟨count', chained'⟩ := chained_exists shape before
      obtain rfl := chained_unique (longer ⟨number, after, same'⟩ chained') chained
      exact ⟨before, count', ⟨number, after, same'⟩, chained', even⟩
  · rintro ⟨before, count, segment, chained, even⟩
    obtain ⟨number, after, same⟩ := segment
    refine ⟨point :: before, count, ⟨number, after, ?_⟩, longer ⟨number, after, same⟩ chained, even⟩
    rw [same, List.cons_append]

theorem mem_scan_found {first after : List Point} (number : shape.Digits first) :
    (∃ before count, shape.SegmentAt (shape.opening ++ (first ++ shape.mark :: after)) before digits ∧
        shape.Chained count before ∧ Even count) ↔
      digits = first ∨
        ∃ before count, shape.SegmentAt after before digits ∧ shape.Chained count before ∧ Even count := by
  constructor
  · rintro ⟨before, count, ⟨number', after', same⟩, chained, even⟩
    rcases segment_overlaps number same with rfl | rfl | ⟨inner, rfl, inside⟩
    · left
      have found := matchAt_eq_some.mpr ⟨number, after, rfl⟩
      rw [List.nil_append, same, matchAt_eq_some.mpr ⟨number', after', rfl⟩] at found
      exact Option.some.inj found
    · -- This one shares its first mark with the segment that was found.
      have alone : shape.Chained count ([] ++ (shape.opening ++ first)) := chained
      obtain ⟨fewer, rfl, none⟩ := chained_next_inv number alone
      obtain rfl := chained_unique none chained_nil
      exact absurd even (by decide)
    · right
      obtain ⟨count', chained'⟩ := chained_exists shape inner
      obtain ⟨longer, chainedLonger, parity⟩ := chained_behind number chained'
      obtain rfl := chained_unique chainedLonger chained
      exact ⟨inner, count', ⟨number', after', inside⟩, chained', parity.mp even⟩
  · rintro (rfl | ⟨before, count, ⟨number', after', rfl⟩, chained, even⟩)
    · exact ⟨[], 0, ⟨number, after, rfl⟩, chained_nil, by decide⟩
    · obtain ⟨longer, chainedLonger, parity⟩ := chained_behind number chained
      refine ⟨_, longer, ⟨number', after', ?_⟩, chainedLonger, parity.mpr even⟩
      simp

/-- The scan finds a segment exactly when an even number of segments is chained in front of it. -/
theorem mem_scan :
    digits ∈ shape.scan text ↔
      ∃ before count, shape.SegmentAt text before digits ∧ shape.Chained count before ∧ Even count := by
  induction length : text.length using Nat.strong_induction_on generalizing text with
  | _ length ih =>
    cases text with
    | nil => simp [Shape.scan, Shape.scanFrom, Shape.SegmentAt, Shape.opening]
    | cons point rest =>
      cases found : shape.matchAt (point :: rest) with
      | none =>
        rw [scan_not_found found, mem_scan_not_found found]
        exact ih rest.length (by simp [← length]) rfl
      | some first =>
        obtain ⟨number, after, same⟩ := matchAt_eq_some.mp found
        rw [List.nil_append] at same
        rw [same] at length ⊢
        rw [scan_found number, mem_scan_found number, List.mem_cons]
        refine or_congr_right (ih after.length ?_ rfl)
        simp only [List.length_append, List.length_cons] at length
        omega

end Segments
