import Mathlib.Data.List.Induction
import Mathlib.Data.List.TakeWhile
import Ztab.Json.CanonicalSize
import Ztab.Shared.Potential

set_option autoImplicit false

/-!
# What the reader consumes

Every value of a text is read from at least as many bytes as its canonical form has, a number
kept as a double apart: the reader pays for its results with the bytes it uses up.
-/

namespace Ztab.Reader

open Potential

def left (input : Input) : Nat := input.rest.length

theorem head_of_some {byte : UInt8} {rest : Bytes} (first : rest.head? = some byte) :
    1 ≤ rest.length := by
  cases rest with
  | nil => cases first
  | cons _ _ => simp

section Rules

variable {α : Type} {before : Input → Prop} {credit : Nat} {price : α → Nat}

theorem pays_bind_peek {next : Option UInt8 → Read α}
    (rest : ∀ head, Pays left (fun input => before input ∧ input.rest.head? = head) credit
      (next head) price) :
    Pays left before credit (peek >>= next) price := by
  intro input result after holds ended
  exact rest input.rest.head? input result after ⟨holds, rfl⟩ ended

theorem pays_bind_advance (count : Nat) {next : Unit → Read α}
    (enough : ∀ input, before input → count ≤ input.rest.length)
    (rest : Pays left (fun _ => True) (credit + count) (next ()) price) :
    Pays left before credit (advance count >>= next) price := by
  refine pays_bind_modify count (fun input holds => ?_) rest
  have := enough input holds
  simp only [left, List.length_drop]
  omega

theorem pays_bind_blanks {next : Unit → Read α}
    (rest : Pays left (fun _ => True) credit (next ()) price) :
    Pays left before credit (blanks >>= next) price := by
  refine pays_bind_modify 0 (fun input _ => ?_) rest
  exact (List.dropWhile_sublist isBlank).length_le

-- A byte accepted is a byte gained; otherwise the next byte is another one.
theorem pays_bind_accept (byte : UInt8) {next : Bool → Read α}
    (hit : Pays left (fun _ => True) (credit + 1) (next true) price)
    (miss : Pays left (fun input => before input ∧ input.rest.head? ≠ some byte) credit
      (next false) price) :
    Pays left before credit (accept byte >>= next) price := by
  unfold accept
  simp only [bind_assoc]
  refine pays_bind_peek fun head => ?_
  by_cases here : head = some byte
  · simp only [if_pos here, bind_assoc, pure_bind]
    exact pays_bind_advance 1 (fun input holds => head_of_some (holds.2.trans here)) hit
  · simp only [if_neg here, pure_bind]
    refine miss.mono (fun input holds => ⟨holds.1, ?_⟩) (le_refl _) (fun _ => le_refl _)
    rw [holds.2]
    exact here

theorem pays_accept {byte : UInt8} : Pays left before 0 (accept byte) Bool.toNat := by
  rw [← bind_pure (accept byte)]
  exact pays_bind_accept byte (pays_pure (by decide)) (pays_pure (by decide))

theorem pays_bind_expect (byte : UInt8) {next : Unit → Read α}
    (rest : Pays left (fun _ => True) (credit + 1) (next ()) price) :
    Pays left before credit (expect byte >>= next) price := by
  unfold expect
  simp only [bind_assoc]
  refine pays_bind_accept byte ?_ ?_
  · simpa using rest
  · exact pays_throw

end Rules

theorem utf8ByteSize_toString (number : Nat) :
    (toString number).utf8ByteSize = (Nat.toDigits 10 number).length := by
  have single : ∀ char ∈ Nat.toDigits 10 number, char.utf8Size = 1 := by
    intro char listed
    have digit := Nat.isDigit_of_mem_toDigits (by decide) (by decide) listed
    rw [Char.isDigit, Bool.and_eq_true, decide_eq_true_iff, decide_eq_true_iff] at digit
    refine Char.utf8Size_eq_one_iff.mpr ?_
    exact UInt32.le_trans digit.2 (by decide)
  rw [Nat.toString_eq_ofList_toDigits, utf8ByteSize_ofList, List.map_congr_left single]
  simp

theorem decimal_lt {digits : Bytes} (all : ∀ digit ∈ digits, isDigit digit = true) :
    decimal digits < 10 ^ digits.length := by
  unfold decimal
  induction digits using List.reverseRecOn with
  | nil => simp
  | append_singleton front last ih =>
    have lower := ih fun digit listed => all digit (List.mem_append_left _ listed)
    have digit := all last (by simp)
    have small : last.toNat ≤ 0x39 := by
      rw [isDigit, Bool.and_eq_true, decide_eq_true_iff, decide_eq_true_iff] at digit
      exact UInt8.le_iff_toNat_le.mp digit.2
    rw [List.foldl_append, List.length_append, List.foldl_cons, List.foldl_nil, List.length_singleton,
      Nat.pow_succ]
    omega

theorem decimal_size {digits : Bytes} (some : digits ≠ [])
    (all : ∀ digit ∈ digits, isDigit digit = true) :
    (toString (decimal digits)).utf8ByteSize ≤ digits.length := by
  rw [utf8ByteSize_toString]
  refine (Nat.length_toDigits_le_iff (by decide) (List.length_pos_iff.mpr some)).mpr ?_
  exact decimal_lt all

theorem pays_someDigits {before : Input → Prop} :
    Pays left before 0 someDigits (fun digits => (toString (decimal digits)).utf8ByteSize) := by
  intro input digits after _ ended
  have taken : digits = input.rest.takeWhile isDigit ∧ digits ≠ [] ∧
      after.rest = input.rest.drop digits.length := by
    change (if input.rest.takeWhile isDigit = [] then fail else pure (input.rest.takeWhile isDigit) :
      Read Bytes) _ = _ at ended
    split at ended
    · cases ended
    next some =>
      cases ended
      exact ⟨rfl, some, rfl⟩
  obtain ⟨same, some, rest⟩ := taken
  have size := decimal_size some fun digit listed => List.mem_takeWhile_imp (same ▸ listed)
  have within : digits.length ≤ input.rest.length := same ▸ (List.takeWhile_sublist isDigit).length_le
  simp only [left, rest, List.length_drop]
  omega

theorem pays_wholePart {before : Input → Prop} :
    Pays left before 0 wholePart (fun digits => (toString (decimal digits)).utf8ByteSize) := by
  unfold wholePart
  refine pays_bind_accept 0x30 (pays_pure (by decide)) ?_
  exact pays_someDigits

theorem pays_fraction {before : Input → Prop} {credit : Nat} :
    Pays left before credit fraction (fun _ => credit) := by
  unfold fraction
  refine pays_bind_accept 0x2E ?_ (pays_pure (le_refl _))
  exact (pays_someDigits.keep credit).mono (fun _ _ => trivial) (by omega) (fun _ => by omega)

theorem pays_exponent {before : Input → Prop} {credit : Nat} :
    Pays left before credit exponent (fun _ => credit) := by
  have digits (negative : Bool) {first : Input → Prop} {funds : Nat} (enough : credit ≤ funds) :
      Pays left first funds (do
        let digits ← someDigits
        return some (if negative then -(decimal digits : Int) else decimal digits))
        (fun _ => credit) := by
    exact pays_bind_keep pays_someDigits fun _ => pays_pure (by omega)
  -- Both spellings of the mark are followed by the sign and the digits.
  have power {first : Input → Prop} {funds : Nat} (enough : credit ≤ funds) :
      Pays left first funds (do
        let negative ← accept 0x2D
        unless negative do let _ ← accept 0x2B
        let digits ← someDigits
        return some (if negative then -(decimal digits : Int) else decimal digits))
        (fun _ => credit) := by
    refine pays_bind_accept 0x2D (digits true (by omega)) ?_
    exact pays_bind_accept 0x2B (digits false (by omega)) (digits false enough)
  unfold exponent
  refine pays_bind_accept 0x65 ?_ (pays_bind_accept 0x45 ?_ ?_)
  · simpa using power (Nat.le_succ _)
  · simpa using power (Nat.le_succ _)
  · simpa using pays_pure (le_refl _)

theorem pays_number {before : Input → Prop} :
    Pays left before 0 number JsonText.spelledSize := by
  unfold number
  refine pays_bind pays_accept fun negative => ?_
  refine pays_bind_keep pays_wholePart fun whole => ?_
  refine pays_bind pays_fraction fun decimals => ?_
  refine pays_bind pays_exponent fun power => ?_
  refine pays_bind_modify 0 (fun _ _ => le_refl _) (pays_pure ?_)
  by_cases integral : decimals = [] ∧ power = none
  · simp [JsonText.spelledSize, NumberLiteral.spelledSize, integral]
  · simp [JsonText.spelledSize, NumberLiteral.spelledSize, integral]

section Decoding

variable {α β : Type} {convert : α → Option β}

theorem mapM_some {inputs : List α} {outputs : List β}
    (converted : inputs.mapM convert = some outputs) :
    outputs.length = inputs.length ∧
      ∀ output ∈ outputs, ∃ input ∈ inputs, convert input = some output := by
  induction inputs generalizing outputs with
  | nil =>
    rw [List.mapM_nil] at converted
    cases converted
    simp
  | cons head rest ih =>
    rw [List.mapM_cons] at converted
    obtain ⟨first, found, converted⟩ := Option.bind_eq_some_iff.mp converted
    obtain ⟨others, listed, same⟩ := Option.bind_eq_some_iff.mp converted
    cases same
    obtain ⟨length, each⟩ := ih listed
    refine ⟨by rw [List.length_cons, List.length_cons, length], fun output member => ?_⟩
    rcases List.mem_cons.mp member with rfl | later
    · exact ⟨head, List.mem_cons_self .., found⟩
    · obtain ⟨input, held, reached⟩ := each output later
      exact ⟨input, List.mem_cons_of_mem _ held, reached⟩

end Decoding

theorem pays_codeUnit {before : Input → Prop} {credit : Nat} :
    Pays left before credit codeUnit (fun _ => credit + 4) := by
  unfold codeUnit
  refine pays_bind_get fun input holds => ?_
  split
  next a b c d converted =>
    refine pays_bind_advance 4 (fun other same => ?_) (pays_pure (le_refl _))
    have length := (mapM_some converted).1
    subst same
    rw [List.length_take] at length
    simp only [List.length_cons, List.length_nil] at length
    omega
  next => exact pays_throw

theorem pays_unicodeEscape : Pays left (fun _ => True) 2 unicodeEscape escapedSize := by
  unfold unicodeEscape
  refine pays_bind pays_codeUnit fun unit => ?_
  split_ifs
  · refine pays_bind_expect 0x5C (pays_bind_expect 0x75 ?_)
    refine pays_bind pays_codeUnit fun low => ?_
    split_ifs
    · refine pays_pure (le_trans (escapedSize_le _) (by omega))
    · exact pays_throw
  · exact pays_throw
  · exact pays_pure (escapedSize_le _)

theorem pays_escape : Pays left (fun _ => True) 1 escape escapedSize := by
  unfold escape
  refine pays_bind_peek fun head => ?_
  have one {char : Char} (size : escapedSize char ≤ 2) {byte : UInt8} :
      Pays left (fun input => True ∧ input.rest.head? = some byte) 1 (do advance 1; return char)
        escapedSize :=
    pays_bind_advance 1 (fun input holds => head_of_some holds.2) (pays_pure size)
  split
  all_goals try exact one (by decide)
  · exact pays_bind_advance 1 (fun input holds => head_of_some holds.2) pays_unicodeEscape
  · exact pays_throw

theorem escapedSize_printable {char : Char} (printable : 0x20 ≤ char.toNat)
    (mark : char.toNat ≠ 0x22) (slash : char.toNat ≠ 0x5C) : escapedSize char = char.utf8Size := by
  unfold escapedSize
  split
  next => exact absurd rfl mark
  next => exact absurd rfl slash
  all_goals first | exact absurd printable (by decide) | exact if_neg (by omega)

theorem toNat_ofNat_valid {code : Nat} (valid : code.isValidChar) : (Char.ofNat code).toNat = code := by
  rw [Char.ofNat, dif_pos valid]
  rfl

theorem continuation_lt {byte : UInt8} {value : Nat} (continues : continuation byte = some value) :
    value < 64 := by
  unfold continuation at continues
  split at continues
  next between =>
    obtain rfl := Option.some.inj continues
    simp only [Bool.and_eq_true, decide_eq_true_iff, UInt8.lt_iff_toNat_lt] at between
    have below : byte.toNat < 0xC0 := between.2
    omega
  next => cases continues

theorem foldl_continuation_lt {following : List Nat} (low : ∀ value ∈ following, value < 64)
    (lead : Nat) :
    following.foldl (fun value low => value * 64 + low) lead < (lead + 1) * 64 ^ following.length := by
  induction following generalizing lead with
  | nil => simp
  | cons head rest ih =>
    have first := low head (by simp)
    have later := ih (fun value listed => low value (List.mem_cons_of_mem _ listed)) (lead * 64 + head)
    rw [List.foldl_cons, List.length_cons, Nat.pow_succ']
    calc
      _ < (lead * 64 + head + 1) * 64 ^ rest.length := later
      _ ≤ ((lead + 1) * 64) * 64 ^ rest.length := Nat.mul_le_mul_right _ (by omega)
      _ = (lead + 1) * (64 * 64 ^ rest.length) := Nat.mul_assoc ..

-- A character outside ASCII is spelled with the bytes it is dumped with.
theorem pays_multibyte {before : Input → Prop} {lead length least : Nat} (wide : 0x80 ≤ least)
    (some : 1 ≤ length) (fits : ∀ char : Char, char.toNat < (lead + 1) * 64 ^ length →
      char.utf8Size ≤ length + 1) :
    Pays left before 0 (multibyte lead length least) escapedSize := by
  unfold multibyte
  refine pays_bind_get fun input _ => ?_
  split
  next following converted =>
    dsimp only
    split
    next accepted =>
      simp only [Bool.and_eq_true, decide_eq_true_iff] at accepted
      obtain ⟨⟨count, above⟩, valid⟩ := accepted
      obtain ⟨taken, each⟩ := mapM_some converted
      refine pays_bind_advance (length + 1) (fun other same => ?_) (pays_pure ?_)
      · subst same
        rw [List.length_take, List.length_drop] at taken
        omega
      · have low : ∀ value ∈ following, value < 64 := by
          intro value listed
          obtain ⟨byte, -, found⟩ := each value listed
          exact continuation_lt found
        have bounded := foldl_continuation_lt low lead
        rw [count, ← toNat_ofNat_valid valid] at bounded
        rw [← toNat_ofNat_valid valid] at above
        rw [escapedSize_printable (by omega) (by omega) (by omega)]
        exact le_trans (fits _ bounded) (by omega)
    next => exact pays_throw
  next => exact pays_throw

theorem utf8Size_le_two {char : Char} (small : char.toNat < 0x800) : char.utf8Size ≤ 2 := by
  have val : char.val.toNat < 0x800 := small
  rcases char.utf8Size_eq with one | two | three | four
  · omega
  · omega
  · have high := UInt32.lt_iff_toNat_lt.mp (Char.utf8Size_eq_three_iff.mp three).1
    exact absurd (lt_of_lt_of_le high (Nat.le_of_lt_succ val)) (by decide)
  · have high := UInt32.lt_iff_toNat_lt.mp (Char.utf8Size_eq_four_iff.mp four)
    exact absurd (lt_of_lt_of_le high (Nat.le_of_lt_succ val)) (by decide)

theorem utf8Size_le_three {char : Char} (small : char.toNat < 0x10000) : char.utf8Size ≤ 3 := by
  have val : char.val.toNat < 0x10000 := small
  have := char.utf8Size_le_four
  by_contra more
  have high := UInt32.lt_iff_toNat_lt.mp (Char.utf8Size_eq_four_iff.mp (by omega : char.utf8Size = 4))
  exact absurd (lt_of_lt_of_le high (Nat.le_of_lt_succ val)) (by decide)

theorem utf8Size_ascii {byte : UInt8} (ascii : byte < 0x80) :
    (Char.ofNat byte.toNat).toNat = byte.toNat ∧ (Char.ofNat byte.toNat).utf8Size = 1 := by
  have small : byte.toNat < 0x80 := UInt8.lt_iff_toNat_lt.mp ascii
  have same : (Char.ofNat byte.toNat).toNat = byte.toNat := toNat_ofNat_valid (.inl (by omega))
  refine ⟨same, Char.utf8Size_eq_one_iff.mpr (UInt32.le_iff_toNat_le.mpr ?_)⟩
  change (Char.ofNat byte.toNat).toNat ≤ 127
  omega

-- Neither a quotation mark nor a backslash is read as itself.
theorem pays_character : Pays left (fun input => input.rest.head? ≠ some 0x22 ∧
    input.rest.head? ≠ some 0x5C) 0 character escapedSize := by
  unfold character
  refine pays_bind_peek fun head => ?_
  split
  · exact pays_throw
  next byte =>
    split
    · exact pays_throw
    split
    next control ascii =>
      by_cases marked : byte = 0x22 ∨ byte = 0x5C
      · intro input _ _ holds
        rcases marked with mark | slash
        · exact absurd (holds.2.trans (congrArg some mark)) holds.1.1
        · exact absurd (holds.2.trans (congrArg some slash)) holds.1.2
      · refine pays_bind_advance 1 (fun input holds => head_of_some holds.2) (pays_pure ?_)
        obtain ⟨same, single⟩ := utf8Size_ascii ascii
        have printable : 0x20 ≤ byte.toNat := by
          exact Nat.le_of_not_lt fun below => control (UInt8.lt_iff_toNat_lt.mpr below)
        rw [escapedSize_printable (by omega), single]
        · exact fun mark => marked (.inl (UInt8.toNat_inj.mp (same.symm.trans mark)))
        · exact fun slash => marked (.inr (UInt8.toNat_inj.mp (same.symm.trans slash)))
    split
    next lead =>
      rw [Bool.and_eq_true, decide_eq_true_iff, decide_eq_true_iff, UInt8.lt_iff_toNat_lt] at lead
      have below : byte.toNat < 0xE0 := lead.2
      refine pays_multibyte (by decide) (by decide) fun char small => utf8Size_le_two ?_
      omega
    split
    next lead =>
      rw [Bool.and_eq_true, decide_eq_true_iff, decide_eq_true_iff, UInt8.lt_iff_toNat_lt] at lead
      have below : byte.toNat < 0xF0 := lead.2
      refine pays_multibyte (by decide) (by decide) fun char small => utf8Size_le_three ?_
      omega
    split
    next lead => exact pays_multibyte (by decide) (by decide) fun char _ => char.utf8Size_le_four
    · exact pays_throw

theorem pays_characters (fuel : Nat) : Pays left (fun _ => True) 0 (characters fuel)
    (fun chars => (chars.map escapedSize).sum + 1) := by
  induction fuel with
  | zero => exact pays_throw
  | succ fuel ih =>
    unfold characters
    have following (char : Char) : Pays left (fun _ => True) (escapedSize char)
        (do return char :: (← characters fuel)) (fun chars => (chars.map escapedSize).sum + 1) := by
      refine pays_bind_keep ih fun rest => pays_pure ?_
      rw [List.map_cons, List.sum_cons]
      omega
    refine pays_bind_accept 0x22 (pays_pure (by simp)) (pays_bind_accept 0x5C ?_ ?_)
    · exact pays_bind pays_escape following
    · refine pays_bind (pays_character.mono ?_ (le_refl _) (fun _ => le_refl _)) following
      exact fun input holds => ⟨holds.1.2, holds.2⟩

theorem pays_string {before : Input → Prop} : Pays left before 0 string quotedSize := by
  unfold string
  refine pays_bind_expect 0x22 (pays_bind_get fun input _ => ?_)
  refine pays_bind_keep (pays_characters _).anywhere fun chars => pays_pure ?_
  simp [quotedSize]

theorem pays_word {before : Input → Prop} {text : String} {value : JsonText}
    (size : value.spelledSize = (utf8 text).length) :
    Pays left before 0 (word text value) JsonText.spelledSize := by
  unfold word
  refine pays_bind_get fun input _ => ?_
  split
  next begins =>
    refine pays_bind_advance _ (fun other same => ?_) (pays_pure (by omega))
    subst same
    exact (List.isPrefixOf_iff_prefix.mp begins).length_le
  next => exact pays_throw

theorem pays_elements {fuel : Nat} (held : Pays left (fun _ => True) 0 (value fuel) JsonText.spelledSize)
    (others : Pays left (fun _ => True) 0 (elements fuel)
      (fun listed => max 1 (JsonText.elementsSize listed))) :
    Pays left (fun _ => True) 0 (elements (fuel + 1))
      (fun listed => max 1 (JsonText.elementsSize listed)) := by
  unfold elements
  refine pays_bind_blanks (pays_bind held fun head => pays_bind_blanks ?_)
  refine pays_bind_accept 0x2C ?_ (pays_bind_expect 0x5D (pays_pure ?_))
  · refine pays_bind_keep others fun rest => pays_pure ?_
    simp only [JsonText.elementsSize]
    omega
  · simp only [JsonText.elementsSize]
    omega

theorem pays_members {fuel : Nat} (held : Pays left (fun _ => True) 0 (value fuel) JsonText.spelledSize)
    (others : Pays left (fun _ => True) 0 (members fuel)
      (fun listed => max 1 (JsonText.membersSize listed))) :
    Pays left (fun _ => True) 0 (members (fuel + 1))
      (fun listed => max 1 (JsonText.membersSize listed)) := by
  unfold members
  refine pays_bind_blanks (pays_bind pays_string fun key => pays_bind_blanks ?_)
  refine pays_bind_expect 0x3A (pays_bind_blanks ?_)
  refine pays_bind_keep held fun value => pays_bind_blanks ?_
  refine pays_bind_accept 0x2C ?_ (pays_bind_expect 0x7D (pays_pure ?_))
  · refine pays_bind_keep others fun rest => pays_pure ?_
    simp only [JsonText.membersSize]
    omega
  · simp only [JsonText.membersSize]
    omega

theorem pays_value (fuel : Nat) :
    Pays left (fun _ => True) 0 (value fuel) JsonText.spelledSize ∧
      Pays left (fun _ => True) 0 (elements fuel)
        (fun listed => max 1 (JsonText.elementsSize listed)) ∧
      Pays left (fun _ => True) 0 (members fuel)
        (fun listed => max 1 (JsonText.membersSize listed)) := by
  induction fuel with
  | zero => exact ⟨pays_throw, pays_throw, pays_throw⟩
  | succ fuel ih =>
    obtain ⟨held, listed, keyed⟩ := ih
    refine ⟨?_, pays_elements held listed, pays_members held keyed⟩
    unfold value
    refine pays_bind_peek fun head => ?_
    split
    · refine pays_bind_advance 1 (fun input holds => head_of_some holds.2) (pays_bind_blanks ?_)
      refine pays_bind_accept 0x7D (pays_pure ?_) ?_
      · simp [JsonText.spelledSize, JsonText.membersSize]
      · refine pays_bind_keep keyed.anywhere fun members => pays_pure ?_
        simp only [JsonText.spelledSize]
        omega
    · refine pays_bind_advance 1 (fun input holds => head_of_some holds.2) (pays_bind_blanks ?_)
      refine pays_bind_accept 0x5D (pays_pure ?_) ?_
      · simp [JsonText.spelledSize, JsonText.elementsSize]
      · refine pays_bind_keep listed.anywhere fun elements => pays_pure ?_
        simp only [JsonText.spelledSize]
        omega
    · exact pays_bind pays_string fun text => pays_pure (by simp [JsonText.spelledSize])
    · exact pays_word (by decide)
    · exact pays_word (by decide)
    · exact pays_word (by decide)
    · exact pays_number

theorem pays_document (fuel : Nat) :
    Pays left (fun _ => True) 0 (document fuel) JsonText.spelledSize := by
  have body : Pays left (fun _ => True) 0 (do
      blanks
      let tree ← value fuel
      blanks
      if ((← peek).getD 0) = 0 then return tree else fail) JsonText.spelledSize := by
    refine pays_bind_blanks (pays_bind (pays_value fuel).1 fun tree => pays_bind_blanks ?_)
    refine pays_bind_peek fun head => ?_
    split
    · exact pays_pure (le_refl _)
    · exact pays_throw
  unfold document
  refine pays_bind_get fun input _ => ?_
  split
  next mark =>
    refine pays_bind_advance 3 (fun other same => ?_)
      (body.mono (fun _ _ => trivial) (by omega) (fun _ => le_refl _))
    have taken := congrArg List.length mark
    subst same
    rw [List.length_take] at taken
    simp only [List.length_cons, List.length_nil] at taken
    omega
  next => exact body.anywhere

theorem spelledSize_of_read {text : Bytes} {tree : JsonText} (complete : read text = .complete tree) :
    tree.spelledSize ≤ text.length := by
  unfold read at complete
  split at complete
  next value after ended =>
    cases complete
    have paid := pays_document _ _ _ _ trivial ended
    simp only [left] at paid
    omega
  next => cases complete

end Ztab.Reader

namespace Ztab

/-- Neither fraction nor exponent, and within the 64 bits of an integer: not kept as a double. -/
def NumberLiteral.Whole (literal : NumberLiteral) : Prop :=
  literal.integral = true ∧ if literal.negative then literal.digits ≤ 2 ^ 63 else literal.digits < 2 ^ 64

instance (literal : NumberLiteral) : Decidable literal.Whole :=
  inferInstanceAs (Decidable (literal.integral = true ∧
    if literal.negative then literal.digits ≤ 2 ^ 63 else literal.digits < 2 ^ 64))

variable (formatFloat : Binary64 → String)

theorem utf8ByteSize_neg (number : Nat) :
    (toString (-(number : Int))).utf8ByteSize ≤ (toString number).utf8ByteSize + 1 := by
  cases number with
  | zero => decide
  | succ number =>
    change ("-" ++ toString (number + 1)).utf8ByteSize ≤ _
    have sign : "-".utf8ByteSize = 1 := by decide
    rw [String.utf8ByteSize_append, sign]
    omega

theorem NumberLiteral.Whole.canonicalSize_le {literal : NumberLiteral} (whole : literal.Whole) :
    (literal.toJson?.getD .null).canonicalSize formatFloat ≤ literal.spelledSize := by
  obtain ⟨integral, within⟩ := whole
  rw [NumberLiteral.spelledSize, if_pos integral]
  cases negative : literal.negative with
  | true =>
    rw [negative, if_pos rfl] at within
    have kept : literal.toJson? = some (.integer (-literal.digits)) :=
      if_pos ⟨integral, negative, within⟩
    rw [kept, Option.getD_some, Json.canonicalSize]
    exact utf8ByteSize_neg literal.digits
  | false =>
    rw [negative, if_neg Bool.false_ne_true] at within
    have kept : literal.toJson? = some (.integer literal.digits) := by
      rw [NumberLiteral.toJson?, if_neg (by simp [negative]), if_pos ⟨integral, by simp [negative], within⟩]
    rw [kept, Option.getD_some, Json.canonicalSize]
    exact Nat.le_add_right _ _

theorem membersSize_assign (key : String) (value : Json) (members : List (String × Json)) :
    Json.membersSize formatFloat (OrderedMap.assign key value members) ≤
      quotedSize key + 1 + value.canonicalSize formatFloat + 1 +
        Json.membersSize formatFloat members := by
  induction members with
  | nil => simp [OrderedMap.assign, Json.membersSize]
  | cons head rest ih =>
    obtain ⟨other, held⟩ := head
    simp only [OrderedMap.assign]
    split_ifs
    · simp only [Json.membersSize]
      omega
    · simp only [Json.membersSize]
      omega
    · simp only [Json.membersSize]
      omega

namespace JsonText

theorem elementsSize_map {read : JsonText → Json} {elements : List JsonText}
    (each : ∀ element ∈ elements, (read element).canonicalSize formatFloat ≤ element.spelledSize) :
    Json.elementsSize formatFloat (elements.map read) ≤ elementsSize elements := by
  induction elements with
  | nil => simp [Json.elementsSize]
  | cons head rest ih =>
    have first := each head (List.mem_cons_self ..)
    have later := ih fun element listed => each element (List.mem_cons_of_mem _ listed)
    simp only [List.map_cons, Json.elementsSize, elementsSize]
    omega

theorem membersSize_foldl {read : JsonText → Json} {members : List (String × JsonText)}
    (each : ∀ key value, (key, value) ∈ members →
      (read value).canonicalSize formatFloat ≤ value.spelledSize) (built : List (String × Json)) :
    Json.membersSize formatFloat (members.foldl (fun built member =>
        DuplicateKeys.lastWins.assign member.1 (read member.2) built) built) ≤
      Json.membersSize formatFloat built + membersSize members := by
  induction members generalizing built with
  | nil => simp [membersSize]
  | cons head rest ih =>
    obtain ⟨key, value⟩ := head
    have first := each key value (List.mem_cons_self ..)
    have later := ih (fun key value listed => each key value (List.mem_cons_of_mem _ listed))
      (DuplicateKeys.lastWins.assign key (read value) built)
    have assigned := membersSize_assign formatFloat key (read value) built
    simp only [List.foldl_cons, membersSize, DuplicateKeys.assign] at later ⊢
    omega

theorem numbers_element {elements : List JsonText} {element : JsonText} (listed : element ∈ elements) :
    element.numbers ⊆ (JsonText.array elements).numbers := by
  simp only [numbers]
  induction elements with
  | nil => cases listed
  | cons head rest ih =>
    simp only [elementNumbers]
    rcases List.mem_cons.mp listed with rfl | later
    · exact List.subset_append_left ..
    · exact List.Subset.trans (ih later) (List.subset_append_right ..)

theorem numbers_member {members : List (String × JsonText)} {key : String} {value : JsonText}
    (listed : (key, value) ∈ members) : value.numbers ⊆ (JsonText.object members).numbers := by
  simp only [numbers]
  induction members with
  | nil => cases listed
  | cons head rest ih =>
    obtain ⟨other, held⟩ := head
    simp only [memberNumbers]
    rcases List.mem_cons.mp listed with same | later
    · cases same
      exact List.subset_append_left ..
    · exact List.Subset.trans (ih later) (List.subset_append_right ..)

-- Repeated keys, skipped containers and spellings only make the dump shorter.
theorem canonicalSize_toJson_le (keep : Nat → Bool) (depth : Nat) (text : JsonText)
    (whole : ∀ literal ∈ text.numbers, literal.Whole) :
    (text.toJson .lastWins keep depth).canonicalSize formatFloat ≤ text.spelledSize := by
  induction text using induct generalizing depth with
  | null => simp [toJson, Json.canonicalSize, spelledSize]
  | boolean value => cases value <;> simp [toJson, Json.canonicalSize, spelledSize]
  | number literal =>
    simp only [toJson, spelledSize]
    exact (whole literal (by simp [numbers])).canonicalSize_le formatFloat
  | string value => simp [toJson, Json.canonicalSize, spelledSize]
  | array elements ih =>
    have inner := elementsSize_map formatFloat fun element listed =>
      ih element listed (depth + 1) fun literal held => whole literal (numbers_element listed held)
    simp only [toJson, elementsToJson_eq, Json.canonicalSize, spelledSize]
    split
    · omega
    · simp only [Json.elementsSize]
      omega
  | object members ih =>
    have inner := membersSize_foldl formatFloat (fun key value listed =>
      ih key value listed (depth + 1) fun literal held => whole literal (numbers_member listed held)) []
    simp only [Json.membersSize] at inner
    simp only [toJson, membersToJson_eq, Json.canonicalSize, spelledSize]
    split
    · omega
    · simp only [Json.membersSize]
      omega

end JsonText

end Ztab
