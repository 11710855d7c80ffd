import Ztab.Session.Worker
import Ztab.Shared.Occurrences

set_option autoImplicit false

/-!
# The framing of inputs

The BEGIN and END lines of an inputs block are enough to get the inputs back. An input that is one
line cannot end its block early, and neither can an input of several lines that does not contain the
suffix.
-/

namespace Ztab

open Occurrences

-- A delimiter without its newline.
def tag (number : Nat) (side suffix : String) : List Char :=
  ("<<<PARTICIPANT_" ++ toString number ++ "_INPUT_" ++ side ++ "_" ++ suffix ++ ">>>").toList

-- What stands between an input and the next block.
def closing (number : Nat) (suffix : String) : List Char :=
  '\n' :: (tag number "END" suffix ++ ['\n', '\n'])

def readInputs (suffix : String) : Nat → Nat → List Char → Option (List String)
  | 0, _, text => if text = [] then some [] else none
  | fuel + 1, number, text =>
    if text = [] then some []
    else if tag number "BEGIN" suffix ++ ['\n'] <+: text then
      match splitFirst (closing number suffix)
          (text.drop (tag number "BEGIN" suffix ++ ['\n']).length) with
      | none => none
      | some (input, rest) =>
        (readInputs suffix fuel (number + 1) rest).map (String.ofList input :: ·)
    else none

def recoverInputs (suffix block : String) : Option (List String) :=
  readInputs suffix block.toList.length 1 block.toList

theorem delimiter_toList (number : Nat) (side suffix : String) :
    (delimiter number side suffix).toList = tag number side suffix ++ ['\n'] := by
  have split : ">>>\n" = ">>>" ++ "\n" := by decide
  have newline : "\n".toList = ['\n'] := by decide
  unfold delimiter tag
  simp only [split, newline, String.toList_append, List.append_assoc]

theorem inputsBlock_toList (suffix : String) (number : Nat) (input : String) (rest : List String) :
    (inputsBlock suffix number (input :: rest)).toList =
      (tag number "BEGIN" suffix ++ ['\n']) ++
        (input.toList ++ (closing number suffix ++ (inputsBlock suffix (number + 1) rest).toList)) := by
  have newline : "\n".toList = ['\n'] := by decide
  rw [inputsBlock]
  simp only [String.toList_append, delimiter_toList, closing, newline, List.append_assoc,
    List.cons_append, List.nil_append]

theorem suffix_infix_tag (number : Nat) (side suffix : String) :
    suffix.toList <:+: tag number side suffix := by
  simp only [tag, String.toList_append]
  exact ((List.suffix_append _ _).isInfix).trans (List.prefix_append _ _).isInfix

theorem newline_not_mem_tag {suffix : String} (plain : '\n' ∉ suffix.toList) (number : Nat) :
    '\n' ∉ tag number "END" suffix := by
  have digits : '\n' ∉ (toString number).toList := by
    intro listed
    rw [Nat.toString_eq_repr, Nat.toList_repr] at listed
    have digit := Nat.isDigit_of_mem_toDigits (by decide) (by decide) listed
    revert digit
    decide
  simp only [tag, String.toList_append, List.mem_append, plain, digits]
  decide

-- One line, or several of which the suffix is no part.
def Framed (suffix input : String) : Prop :=
  '\n' ∉ input.toList ∨ ('\n' ∉ suffix.toList ∧ ¬ suffix.toList <:+: input.toList)

variable {suffix input : String}

theorem Framed.closing_cut (framed : Framed suffix input) (number : Nat) (rest : List Char) :
    Cut (closing number suffix) input.toList (closing number suffix ++ rest) := by
  intro first second started remaining same inside
  obtain ⟨head, others, rfl⟩ := List.exists_cons_of_ne_nil started
  obtain ⟨rfl, behind⟩ := List.cons.inj same
  rcases framed with line | ⟨plain, free⟩
  · exact line (inside.1.subset List.mem_cons_self)
  · -- The part in the text behind begins with a newline, so the part in the input has the whole tag.
    obtain ⟨next, later, rfl⟩ := List.exists_cons_of_ne_nil remaining
    obtain ⟨rfl, -⟩ := List.cons_prefix_cons.mp inside.2
    obtain ⟨inner, rfl, -⟩ := split_after (newline_not_mem_tag plain number) behind
    refine free ((suffix_infix_tag number "END" suffix).trans (List.IsInfix.trans ?_ inside.1.isInfix))
    exact (List.prefix_append _ inner).isInfix.trans (List.suffix_cons _ _).isInfix

theorem Framed.closing_absent (framed : Framed suffix input) (number : Nat) :
    ¬ closing number suffix <:+: input.toList := by
  intro inside
  rcases framed with line | ⟨-, free⟩
  · exact line (inside.subset List.mem_cons_self)
  · refine free ((suffix_infix_tag number "END" suffix).trans (List.IsInfix.trans ?_ inside))
    exact (List.prefix_append _ _).isInfix.trans (List.suffix_cons _ _).isInfix

theorem readInputs_block {inputs : List String} (framed : ∀ input ∈ inputs, Framed suffix input)
    (number fuel : Nat) (enough : inputs.length ≤ fuel) :
    readInputs suffix fuel number (inputsBlock suffix number inputs).toList = some inputs := by
  induction inputs generalizing number fuel with
  | nil => cases fuel <;> rfl
  | cons input rest ih =>
    cases fuel with
    | zero => simp at enough
    | succ fuel =>
      have here := framed input List.mem_cons_self
      have later := ih (fun other listed => framed other (List.mem_cons_of_mem _ listed)) (number + 1)
        fuel (Nat.le_of_succ_le_succ enough)
      rw [inputsBlock_toList, readInputs, if_neg (by simp), if_pos (List.prefix_append _ _),
        List.drop_left, (here.closing_cut number _).splitFirst_eq (by simp [closing])
          (here.closing_absent number)]
      simp only [later]
      simp

theorem length_le_inputsBlock (suffix : String) (number : Nat) (inputs : List String) :
    inputs.length ≤ (inputsBlock suffix number inputs).toList.length := by
  induction inputs generalizing number with
  | nil => exact Nat.zero_le _
  | cons input rest ih =>
    have later := ih (number + 1)
    rw [inputsBlock_toList]
    simp only [closing, List.length_append, List.length_cons]
    omega

/-- The BEGIN and END lines let the inputs be recovered, also inputs of several lines. -/
theorem recoverInputs_inputsBlock {inputs : List String}
    (framed : ∀ input ∈ inputs, Framed suffix input) :
    recoverInputs suffix (inputsBlock suffix 1 inputs) = some inputs :=
  readInputs_block framed 1 _ (length_le_inputsBlock suffix 1 inputs)

-- One line without the suffix.
def PlainLine (suffix input : String) : Prop :=
  '\n' ∉ input.toList ∧ ¬ suffix.toList <:+: input.toList

instance (suffix input : String) : Decidable (PlainLine suffix input) :=
  inferInstanceAs (Decidable (_ ∧ _))

/-- Blocks of one-line inputs without the suffix are equal only if the inputs are, the inputs can be
read out of their block, and no delimiter stands in an input. -/
theorem input_framing_unambiguous (suffix : String) {inputs others : List String}
    (plain : ∀ input ∈ inputs, PlainLine suffix input)
    (plain' : ∀ input ∈ others, PlainLine suffix input) :
    (inputsBlock suffix 1 inputs = inputsBlock suffix 1 others → inputs = others) ∧
      recoverInputs suffix (inputsBlock suffix 1 inputs) = some inputs ∧
        ∀ input ∈ inputs, ∀ number side, ¬ tag number side suffix <:+: input.toList := by
  have recovered : recoverInputs suffix (inputsBlock suffix 1 inputs) = some inputs :=
    recoverInputs_inputsBlock fun input listed => .inl (plain input listed).1
  have recovered' : recoverInputs suffix (inputsBlock suffix 1 others) = some others :=
    recoverInputs_inputsBlock fun input listed => .inl (plain' input listed).1
  refine ⟨?_, recovered, ?_⟩
  · intro same
    rw [same, recovered'] at recovered
    exact (Option.some.inj recovered).symm
  · intro input listed number side inside
    exact (plain input listed).2 ((suffix_infix_tag number side suffix).trans inside)

-- The second input has everything of a delimiter but the suffix.
theorem imitated_delimiter_recovered :
    recoverInputs "a3" (inputsBlock "a3" 1 ["1", "\"<<<PARTICIPANT_1_INPUT_END_>>>\""]) =
      some ["1", "\"<<<PARTICIPANT_1_INPUT_END_>>>\""] := by
  have plain : ∀ input ∈ ["1", "\"<<<PARTICIPANT_1_INPUT_END_>>>\""], PlainLine "a3" input := by
    decide
  exact (input_framing_unambiguous "a3" plain plain).2.1

end Ztab
