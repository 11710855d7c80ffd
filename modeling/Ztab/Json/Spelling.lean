import Mathlib.Data.List.TakeWhile
import Ztab.Json.Reader
import Ztab.Shared.Occurrences
import Ztab.Shared.Spelling

set_option autoImplicit false

/-!
# Back-ticks and newlines in JSON texts

A back-tick stands inside a string, and a string holds no raw newline. So the quotation mark that
ends the string comes before the next newline, and no newline has a back-tick right behind it.
-/

namespace Ztab.Reader

open Spelling

def backtick : UInt8 := 0x60

/-- How the bytes of a value, or of a part of one, stand to each other. -/
structure Enclosed (chunk : Bytes) : Prop where
  closed : ∀ before after, chunk = before ++ backtick :: after →
    ∃ inner rest, after = inner ++ 0x22 :: rest ∧ 0x0A ∉ inner
  apart : ¬ [0x0A, backtick] <:+: chunk
  start : chunk.head? ≠ some backtick

theorem enclosed_of_notMem {chunk : Bytes} (none : backtick ∉ chunk) : Enclosed chunk := by
  refine ⟨?_, ?_, ?_⟩
  · rintro before after rfl
    exact absurd (List.mem_append_right _ List.mem_cons_self) none
  · intro inside
    exact none (inside.subset (by simp))
  · intro first
    exact none (List.mem_of_mem_head? first)

theorem Enclosed.append {first second : Bytes} (one : Enclosed first) (two : Enclosed second) :
    Enclosed (first ++ second) := by
  refine ⟨?_, ?_, ?_⟩
  · intro before after same
    obtain ⟨middle, rfl, rest⟩ | ⟨middle, rfl, rest⟩ := List.append_eq_append_iff.mp same
    · obtain ⟨inner, others, rfl, inline⟩ := two.closed middle after rest
      exact ⟨inner, others, rfl, inline⟩
    · cases middle with
      | nil => exact two.closed [] after rest.symm
      | cons head tail =>
        obtain ⟨rfl, rfl⟩ := List.cons.inj rest
        obtain ⟨inner, others, rfl, inline⟩ := one.closed before tail rfl
        exact ⟨inner, others ++ second, by simp, inline⟩
  · intro inside
    have cut : Occurrences.Cut [0x0A, backtick] first second := by
      intro front back begun remaining same both
      obtain ⟨head, tail, rfl⟩ := List.exists_cons_of_ne_nil begun
      cases tail with
      | nil =>
        cases same
        apply two.start
        obtain ⟨others, rfl⟩ := both.2
        rfl
      | cons next others =>
        simp only [List.cons_append, List.cons.injEq, List.nil_eq_append_iff] at same
        exact remaining same.2.2.2
    rcases (cut.infix_iff (by simp)).mp inside with left | right
    · exact one.apart left
    · exact two.apart right
  · cases first with
    | nil => exact two.start
    | cons head tail => exact one.start

theorem enclosed_composable : Composable Enclosed :=
  ⟨enclosed_of_notMem (by simp), fun _ _ => Enclosed.append⟩

theorem enclosed_string {inner : Bytes} (inline : 0x0A ∉ inner) :
    Enclosed (0x22 :: (inner ++ [0x22])) := by
  refine ⟨?_, ?_, by simp [backtick]⟩
  · intro before after same
    obtain ⟨head, others, rfl⟩ : ∃ head others, before = head :: others := by
      cases before with
      | nil => cases same
      | cons head others => exact ⟨head, others, rfl⟩
    obtain ⟨-, same⟩ := List.cons.inj same
    obtain ⟨middle, rfl, rest⟩ | ⟨middle, rfl, rest⟩ := List.append_eq_append_iff.mp same
    · obtain ⟨rfl, first⟩ | ⟨_, rfl, impossible⟩ := List.cons_eq_append_iff.mp rest
      · cases first
      · simp at impossible
    · cases middle with
      | nil => cases rest
      | cons mark inside =>
        obtain ⟨-, rfl⟩ := List.cons.inj rest
        refine ⟨inside, [], rfl, fun held => inline ?_⟩
        exact List.mem_append_right _ (List.mem_cons_of_mem _ held)
  · intro inside
    have held : (0x0A : UInt8) ∈ 0x22 :: (inner ++ [0x22]) := inside.subset (by simp)
    simp [inline] at held

section Rules

variable {α : Type} {before : Input → Prop} {spelled : Bytes → Prop}

theorem spells_bind_peek {next : Option UInt8 → Read α}
    (rest : ∀ head, Spells Input.rest (fun input => before input ∧ input.rest.head? = head)
      (next head) spelled) :
    Spells Input.rest before (peek >>= next) spelled := by
  intro input result after holds ended
  exact rest input.rest.head? input result after ⟨holds, rfl⟩ ended

theorem spells_advance {count : Nat}
    (taken : ∀ input, before input → spelled (input.rest.take count)) :
    Spells Input.rest before (advance count) spelled :=
  spells_modify fun input holds => ⟨_, (List.take_append_drop count input.rest).symm, taken input holds⟩

theorem spells_advance_one {byte : UInt8} (one : spelled [byte]) :
    Spells Input.rest (fun input => before input ∧ input.rest.head? = some byte) (advance 1)
      spelled := by
  refine spells_advance fun input holds => ?_
  obtain ⟨rest, same⟩ := List.head?_eq_some_iff.mp holds.2
  rw [same]
  exact one

theorem spells_blanks (blank : ∀ chunk : Bytes, chunk.all isBlank = true → spelled chunk) :
    Spells Input.rest before blanks spelled :=
  spells_modify fun input _ =>
    ⟨_, (List.takeWhile_append_dropWhile (p := isBlank) (l := input.rest)).symm,
      blank _ (List.all_takeWhile)⟩

theorem spells_bind_accept {byte : UInt8} {next : Bool → Read α} {later : Bytes → Prop}
    (hit : Spells Input.rest (fun _ => True) (next true) later)
    (join : ∀ chunk, later chunk → spelled (byte :: chunk))
    (miss : Spells Input.rest (fun _ => True) (next false) spelled) :
    Spells Input.rest before (accept byte >>= next) spelled := by
  unfold accept
  simp only [bind_assoc]
  refine spells_bind_peek fun head => ?_
  by_cases here : head = some byte
  · subst here
    simp only [if_true, bind_assoc, pure_bind]
    refine spells_bind (spells_advance_one rfl) (fun _ => hit) ?_
    rintro _ chunk rfl property
    exact join chunk property
  · simp only [if_neg here, pure_bind]
    exact miss.anywhere

theorem spells_accept {byte : UInt8} (one : spelled [byte]) (nothing : spelled []) :
    Spells Input.rest before (accept byte) spelled := by
  rw [← bind_pure (accept byte)]
  refine spells_bind_accept (spells_pure rfl) ?_ (spells_pure nothing)
  rintro _ rfl
  exact one

theorem spells_expect {byte : UInt8} (one : spelled [byte]) :
    Spells Input.rest before (expect byte) spelled := by
  unfold expect
  have nothing : Spells Input.rest (fun _ => True) (pure () : Read Unit) (· = []) := spells_pure rfl
  refine spells_bind_accept nothing ?_ spells_throw
  rintro _ rfl
  exact one

end Rules

theorem tickless_composable : Composable fun chunk : Bytes => backtick ∉ chunk :=
  ⟨by simp, fun first second one two held => (List.mem_append.mp held).elim one two⟩

section Tickless

variable {before : Input → Prop}

theorem spells_someDigits : Spells Input.rest before someDigits (backtick ∉ ·) := by
  unfold someDigits takeDigits
  simp only [bind_assoc, pure_bind]
  refine spells_bind_get fun input _ => ?_
  refine tickless_composable.bind (spells_advance ?_) fun _ => ?_
  · rintro other rfl held
    rw [← List.prefix_iff_eq_take.mp (List.takeWhile_prefix isDigit)] at held
    exact absurd (List.mem_takeWhile_imp held) (by decide)
  · split
    · exact spells_throw
    · exact spells_pure (by simp)

theorem spells_wholePart : Spells Input.rest before wholePart (backtick ∉ ·) := by
  unfold wholePart
  refine tickless_composable.bind (spells_accept (by decide) (by simp)) fun zero => ?_
  split
  · exact spells_pure (by simp)
  · exact spells_someDigits

theorem spells_fraction : Spells Input.rest before fraction (backtick ∉ ·) := by
  unfold fraction
  refine tickless_composable.bind (spells_accept (by decide) (by simp)) fun point => ?_
  split
  · exact spells_someDigits
  · exact spells_pure (by simp)

theorem spells_exponent : Spells Input.rest before exponent (backtick ∉ ·) := by
  -- Both spellings of the mark are followed by the sign and the digits.
  have power {first : Input → Prop} : Spells Input.rest first (do
      let negative ← accept 0x2D
      unless negative do let _ ← accept 0x2B
      let digits ← someDigits
      return some (if negative then -(decimal digits : Int) else decimal digits))
      (backtick ∉ ·) := by
    have digits (negative : Bool) : Spells Input.rest (fun _ => True) (do
        let digits ← someDigits
        return some (if negative then -(decimal digits : Int) else decimal digits))
        (backtick ∉ ·) :=
      tickless_composable.bind spells_someDigits fun _ => spells_pure (by simp)
    refine tickless_composable.bind (spells_accept (by decide) (by simp)) fun negative => ?_
    cases negative with
    | false =>
      exact tickless_composable.bind (spells_accept (by decide) (by simp)) fun _ => digits false
    | true => exact digits true
  unfold exponent
  refine tickless_composable.bind (spells_accept (by decide) (by simp)) fun small => ?_
  cases small with
  | true => simpa using power
  | false =>
    refine tickless_composable.bind (spells_accept (by decide) (by simp)) fun large => ?_
    cases large with
    | true => simpa using power
    | false => exact spells_pure (by simp)

theorem spells_number : Spells Input.rest before number (backtick ∉ ·) := by
  unfold number
  refine tickless_composable.bind (spells_accept (by decide) (by simp)) fun negative => ?_
  refine tickless_composable.bind spells_wholePart fun whole => ?_
  refine tickless_composable.bind spells_fraction fun decimals => ?_
  refine tickless_composable.bind spells_exponent fun power => ?_
  refine tickless_composable.bind (spells_modify fun input _ => ⟨[], rfl, by simp⟩) fun _ => ?_
  exact spells_pure (by simp)

theorem spells_word {text : String} {value : JsonText} (plain : backtick ∉ utf8 text) :
    Spells Input.rest before (word text value) (backtick ∉ ·) := by
  unfold word
  refine spells_bind_get fun input _ => ?_
  split
  next begins =>
    refine tickless_composable.bind (spells_advance ?_) fun _ => spells_pure (by simp)
    rintro other rfl
    obtain ⟨rest, same⟩ := List.isPrefixOf_iff_prefix.mp begins
    rw [← same, List.take_left]
    exact plain
  next => exact spells_throw

end Tickless

theorem inline_composable : Composable fun chunk : Bytes => 0x0A ∉ chunk :=
  ⟨by simp, fun first second one two held => (List.mem_append.mp held).elim one two⟩

def ClosedInline (chunk : Bytes) : Prop := ∃ inner, chunk = inner ++ [0x22] ∧ 0x0A ∉ inner

theorem ClosedInline.after {first chunk : Bytes} (closed : ClosedInline chunk) (inline : 0x0A ∉ first) :
    ClosedInline (first ++ chunk) := by
  obtain ⟨inner, rfl, rest⟩ := closed
  exact ⟨first ++ inner, by simp, inline_composable.append _ _ inline rest⟩

theorem isSome_of_mapM {α β : Type} {convert : α → Option β} {inputs : List α} {outputs : List β}
    (converted : inputs.mapM convert = some outputs) : ∀ input ∈ inputs, (convert input).isSome := by
  induction inputs generalizing outputs with
  | nil => simp
  | cons head rest ih =>
    rw [List.mapM_cons] at converted
    obtain ⟨first, found, converted⟩ := Option.bind_eq_some_iff.mp converted
    obtain ⟨others, listed, -⟩ := Option.bind_eq_some_iff.mp converted
    rw [List.forall_mem_cons]
    exact ⟨by rw [found]; rfl, ih listed⟩

section Inline

variable {before : Input → Prop}

theorem spells_codeUnit : Spells Input.rest before codeUnit (0x0A ∉ ·) := by
  unfold codeUnit
  refine spells_bind_get fun input _ => ?_
  split
  next converted =>
    refine inline_composable.bind (spells_advance ?_) fun _ => spells_pure (by simp)
    rintro other rfl held
    exact absurd (isSome_of_mapM converted _ held) (by decide)
  next => exact spells_throw

theorem spells_unicodeEscape : Spells Input.rest before unicodeEscape (0x0A ∉ ·) := by
  unfold unicodeEscape
  refine inline_composable.bind spells_codeUnit fun unit => ?_
  split_ifs
  · refine inline_composable.bind (spells_expect (by decide)) fun _ => ?_
    refine inline_composable.bind (spells_expect (by decide)) fun _ => ?_
    refine inline_composable.bind spells_codeUnit fun low => ?_
    split_ifs
    · exact spells_pure (by simp)
    · exact spells_throw
  · exact spells_throw
  · exact spells_pure (by simp)

theorem spells_escape : Spells Input.rest before escape (0x0A ∉ ·) := by
  unfold escape
  refine spells_bind_peek fun head => ?_
  have one {byte : UInt8} (other : 0x0A ≠ byte) {char : Char} :
      Spells Input.rest (fun input => before input ∧ input.rest.head? = some byte)
        (do advance 1; return char) (0x0A ∉ ·) :=
    inline_composable.bind (spells_advance_one (by simpa using other)) fun _ => spells_pure (by simp)
  split
  all_goals try exact one (by decide)
  · exact inline_composable.bind (spells_advance_one (by decide)) fun _ => spells_unicodeEscape
  · exact spells_throw

theorem spells_multibyte {lead length least : Nat} {byte : UInt8} (other : 0x0A ≠ byte) :
    Spells Input.rest (fun input => before input ∧ input.rest.head? = some byte)
      (multibyte lead length least) (0x0A ∉ ·) := by
  unfold multibyte
  refine spells_bind_get fun input holds => ?_
  split
  next following converted =>
    dsimp only
    split
    next =>
      refine inline_composable.bind (spells_advance ?_) fun _ => spells_pure (by simp)
      rintro _ rfl held
      obtain ⟨rest, same⟩ := List.head?_eq_some_iff.mp holds.2
      rw [same, List.drop_succ_cons, List.drop_zero] at converted
      rw [same, List.take_succ_cons] at held
      obtain first | later := List.mem_cons.mp held
      · exact other first
      · exact absurd (isSome_of_mapM converted _ later) (by decide)
    next => exact spells_throw
  next => exact spells_throw

theorem spells_character : Spells Input.rest before character (0x0A ∉ ·) := by
  unfold character
  refine spells_bind_peek fun head => ?_
  split
  · exact spells_throw
  next byte =>
    split
    · exact spells_throw
    next printable =>
      have other : 0x0A ≠ byte := by
        rintro rfl
        exact printable (by decide)
      split
      · exact inline_composable.bind (spells_advance_one (by simpa using other)) fun _ =>
          spells_pure (by simp)
      split
      · exact spells_multibyte other
      split
      · exact spells_multibyte other
      split
      · exact spells_multibyte other
      · exact spells_throw

theorem spells_characters (fuel : Nat) : Spells Input.rest before (characters fuel) ClosedInline := by
  induction fuel generalizing before with
  | zero => exact spells_throw
  | succ fuel ih =>
    have following {program : Read Char} (inline : Spells Input.rest (fun _ => True) program (0x0A ∉ ·)) :
        Spells Input.rest (fun _ => True) (do return (← program) :: (← characters fuel))
          ClosedInline :=
      spells_bind inline (fun char => ih.returning _) fun _ _ plain closed => closed.after plain
    unfold characters
    refine spells_bind_accept (spells_pure rfl) ?_ ?_
    · rintro _ rfl
      exact ⟨[], rfl, by simp⟩
    · refine spells_bind_accept (following spells_escape) ?_ (following spells_character)
      have slash : (0x0A : UInt8) ∉ [(0x5C : UInt8)] := by decide
      exact fun chunk closed => closed.after slash

theorem spells_string : Spells Input.rest before string Enclosed := by
  unfold string
  refine spells_bind (spells_expect rfl) (fun _ => spells_bind_get fun input _ =>
    (spells_characters _).returning _) ?_
  rintro _ _ rfl ⟨inner, rfl, inline⟩
  exact enclosed_string inline

end Inline

theorem enclosed_byte {byte : UInt8} (other : backtick ≠ byte) : Enclosed [byte] :=
  enclosed_of_notMem (by simpa using other)

theorem enclosed_blanks {before : Input → Prop} : Spells Input.rest before blanks Enclosed := by
  refine spells_blanks fun chunk blank => enclosed_of_notMem fun held => ?_
  exact absurd (List.all_eq_true.mp blank _ held) (by decide)

theorem spells_values (fuel : Nat) :
    Spells Input.rest (fun _ => True) (value fuel) Enclosed ∧
      Spells Input.rest (fun _ => True) (elements fuel) Enclosed ∧
      Spells Input.rest (fun _ => True) (members fuel) Enclosed := by
  have tickless {α : Type} {before : Input → Prop} {program : Read α}
      (spells : Spells Input.rest before program (backtick ∉ ·)) :
      Spells Input.rest before program Enclosed :=
    spells.mono (fun _ holds => holds) (fun _ => enclosed_of_notMem)
  have accepts {before : Input → Prop} {byte : UInt8} (other : backtick ≠ byte) :
      Spells Input.rest before (accept byte) Enclosed :=
    spells_accept (enclosed_byte other) enclosed_composable.nil
  have expects {before : Input → Prop} {byte : UInt8} (other : backtick ≠ byte) :
      Spells Input.rest before (expect byte) Enclosed := spells_expect (enclosed_byte other)
  have returns {α : Type} {value : α} : Spells Input.rest (fun _ => True) (pure value : Read α) Enclosed :=
    spells_pure enclosed_composable.nil
  induction fuel with
  | zero => exact ⟨spells_throw, spells_throw, spells_throw⟩
  | succ fuel ih =>
    obtain ⟨values, elements, members⟩ := ih
    refine ⟨?_, ?_, ?_⟩
    · unfold value
      refine spells_bind_peek fun head => ?_
      split
      · refine enclosed_composable.bind (spells_advance_one (enclosed_byte (by decide))) fun _ => ?_
        refine enclosed_composable.bind enclosed_blanks fun _ => ?_
        refine enclosed_composable.bind (accepts (by decide)) fun empty => ?_
        split
        · exact returns
        · exact enclosed_composable.bind members fun _ => returns
      · refine enclosed_composable.bind (spells_advance_one (enclosed_byte (by decide))) fun _ => ?_
        refine enclosed_composable.bind enclosed_blanks fun _ => ?_
        refine enclosed_composable.bind (accepts (by decide)) fun empty => ?_
        split
        · exact returns
        · exact enclosed_composable.bind elements fun _ => returns
      · exact enclosed_composable.bind spells_string fun _ => returns
      · exact tickless (spells_word (by decide))
      · exact tickless (spells_word (by decide))
      · exact tickless (spells_word (by decide))
      · exact tickless spells_number
    · unfold Reader.elements
      refine enclosed_composable.bind enclosed_blanks fun _ => ?_
      refine enclosed_composable.bind values fun held => ?_
      refine enclosed_composable.bind enclosed_blanks fun _ => ?_
      refine enclosed_composable.bind (accepts (by decide)) fun more => ?_
      split
      · exact enclosed_composable.bind elements fun _ => returns
      · exact enclosed_composable.bind (expects (by decide)) fun _ => returns
    · unfold Reader.members
      refine enclosed_composable.bind enclosed_blanks fun _ => ?_
      refine enclosed_composable.bind spells_string fun key => ?_
      refine enclosed_composable.bind enclosed_blanks fun _ => ?_
      refine enclosed_composable.bind (expects (by decide)) fun _ => ?_
      refine enclosed_composable.bind enclosed_blanks fun _ => ?_
      refine enclosed_composable.bind values fun held => ?_
      refine enclosed_composable.bind enclosed_blanks fun _ => ?_
      refine enclosed_composable.bind (accepts (by decide)) fun more => ?_
      split
      · exact enclosed_composable.bind members fun _ => returns
      · exact enclosed_composable.bind (expects (by decide)) fun _ => returns

def jsonText (fuel : Nat) : Read JsonText := do
  blanks
  let tree ← value fuel
  blanks
  return tree

def Reads (text : Bytes) : Prop :=
  ∃ fuel tree met, jsonText fuel ⟨[], text⟩ = .ok tree ⟨met, []⟩

theorem Reads.enclosed {text : Bytes} (reads : Reads text) : Enclosed text := by
  obtain ⟨fuel, tree, met, parsed⟩ := reads
  have spells : Spells Input.rest (fun _ => True) (jsonText fuel) Enclosed := by
    unfold jsonText
    refine enclosed_composable.bind enclosed_blanks fun _ => ?_
    refine enclosed_composable.bind (spells_values fuel).1 fun tree => ?_
    refine enclosed_composable.bind enclosed_blanks fun _ => ?_
    exact spells_pure enclosed_composable.nil
  obtain ⟨chunk, same, enclosed⟩ := spells _ _ _ trivial parsed
  simp only [List.append_nil] at same
  rw [same]
  exact enclosed

theorem Reads.ne_nil {text : Bytes} (reads : Reads text) : text ≠ [] := by
  rintro rfl
  obtain ⟨fuel, tree, met, parsed⟩ := reads
  cases fuel with
  | zero => cases parsed
  | succ fuel => cases parsed

def isHex (byte : UInt8) : Bool := (hexValue byte).isSome

/-- The same text, but for the code units in its `\u` escapes. -/
inductive Respelled : Bytes → Bytes → Prop
  | nil : Respelled [] []
  | byte (byte : UInt8) {text spelled : Bytes} (rest : Respelled text spelled) :
      Respelled (byte :: text) (byte :: spelled)
  | unit {unit other text spelled : Bytes} (four : unit.length = 4) (fours : other.length = 4)
      (hex : ∀ byte ∈ unit, isHex byte = true) (hexes : ∀ byte ∈ other, isHex byte = true)
      (rest : Respelled text spelled) :
      Respelled (0x5C :: 0x75 :: (unit ++ text)) (0x5C :: 0x75 :: (other ++ spelled))

/-- The text is one of the JSON grammar: it is one that the library takes, up to surrogates that
stand in it without their other half. -/
def ValidJson (text : Bytes) : Prop := ∃ spelled, Respelled text spelled ∧ Reads spelled

theorem Respelled.refl (text : Bytes) : Respelled text text := by
  induction text with
  | nil => exact .nil
  | cons byte text ih => exact .byte byte ih

theorem Reads.valid {text : Bytes} (reads : Reads text) : ValidJson text := ⟨text, .refl text, reads⟩

-- What Enclosed can tell apart.
def mark (byte : UInt8) : Option UInt8 :=
  if byte = backtick ∨ byte = 0x22 ∨ byte = 0x0A then some byte else none

theorem mark_eq {byte other : UInt8} (marked : other = backtick ∨ other = 0x22 ∨ other = 0x0A)
    (same : mark byte = mark other) : byte = other := by
  simp only [mark, marked, if_true] at same
  split at same
  · exact Option.some.inj same
  · cases same

theorem mark_hex {byte : UInt8} (hex : isHex byte = true) : mark byte = none := by
  have other : byte ≠ backtick ∧ byte ≠ 0x22 ∧ byte ≠ 0x0A := by
    refine ⟨?_, ?_, ?_⟩ <;>
      · rintro rfl
        exact absurd hex (by decide)
  simp [mark, other]

theorem Respelled.marks {text spelled : Bytes} (respelled : Respelled text spelled) :
    text.map mark = spelled.map mark := by
  have plain {unit : Bytes} (four : unit.length = 4) (hex : ∀ byte ∈ unit, isHex byte = true) :
      unit.map mark = List.replicate 4 none := by
    rw [List.eq_replicate_iff]
    refine ⟨by simpa using four, ?_⟩
    simpa using fun byte listed => mark_hex (hex byte listed)
  induction respelled with
  | nil => rfl
  | byte byte rest ih => simp [ih]
  | unit four fours hex hexes rest ih => simp [ih, plain four hex, plain fours hexes]

theorem Enclosed.of_marks {text spelled : Bytes} (marks : text.map mark = spelled.map mark)
    (enclosed : Enclosed spelled) : Enclosed text := by
  -- A split of one text at a mark is a split of the other.
  have split {first second after : Bytes} {byte : UInt8}
      (marked : byte = backtick ∨ byte = 0x22 ∨ byte = 0x0A)
      (marks : first.map mark = second.map mark) {before : Bytes}
      (same : first = before ++ byte :: after) :
      ∃ front back, second = front ++ byte :: back ∧ front.map mark = before.map mark ∧
        back.map mark = after.map mark := by
    rw [same, List.map_append, List.map_cons] at marks
    obtain ⟨front, rest, rfl, fronts, rests⟩ := List.map_eq_append_iff.mp marks.symm
    obtain ⟨head, back, rfl, heads, backs⟩ := List.map_eq_cons_iff.mp rests
    cases mark_eq marked heads
    exact ⟨front, back, rfl, fronts, backs⟩
  refine ⟨fun before after same => ?_, ?_, ?_⟩
  · obtain ⟨front, back, spelt, -, backs⟩ := split (.inl rfl) marks same
    obtain ⟨inner, rest, same, inline⟩ := enclosed.closed front back spelt
    obtain ⟨inside, others, follows, insides, -⟩ := split (.inr (.inl rfl)) backs same
    refine ⟨inside, others, follows, fun broken => inline ?_⟩
    have marked := List.mem_map_of_mem (f := mark) broken
    rw [insides, List.mem_map] at marked
    obtain ⟨byte, listed, same⟩ := marked
    exact mark_eq (.inr (.inr rfl)) same ▸ listed
  · rintro ⟨before, after, same⟩
    have same : text = before ++ 0x0A :: (backtick :: after) := by simp [← same]
    obtain ⟨front, back, rfl, -, backs⟩ := split (.inr (.inr rfl)) marks same
    obtain ⟨front', back', rfl, fronts, -⟩ :=
      split (.inl rfl) backs.symm (show backtick :: after = [] ++ backtick :: after from rfl)
    rw [List.map_nil, List.map_eq_nil_iff] at fronts
    subst fronts
    exact enclosed.apart ⟨front, back', by simp⟩
  · intro first
    obtain ⟨after, same⟩ := List.head?_eq_some_iff.mp first
    obtain ⟨front, back, rfl, fronts, -⟩ :=
      split (.inl rfl) marks (show text = [] ++ backtick :: after from same)
    rw [List.map_nil, List.map_eq_nil_iff] at fronts
    subst fronts
    exact enclosed.start rfl

theorem ValidJson.enclosed {text : Bytes} (valid : ValidJson text) : Enclosed text := by
  obtain ⟨spelled, respelled, reads⟩ := valid
  exact reads.enclosed.of_marks respelled.marks

theorem ValidJson.ne_nil {text : Bytes} (valid : ValidJson text) : text ≠ [] := by
  rintro rfl
  obtain ⟨spelled, respelled, reads⟩ := valid
  cases respelled
  exact reads.ne_nil rfl

end Ztab.Reader
