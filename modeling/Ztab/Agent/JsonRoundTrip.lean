import Mathlib.Data.List.Chain
import Mathlib.Data.Nat.Digits.Lemmas
import Ztab.Agent.PythonJson

set_option autoImplicit false

/-!
# What json.loads makes of json.dumps

A value comes back as it was if it holds no float, if its integers may be printed and if no string
has a high surrogate directly in front of a low one.
-/

namespace Ztab.PyJson

theorem hexValue_hexDigit {digit : Nat} (small : digit < 16) :
    hexValue (hexDigit digit) = some digit := by
  revert digit
  decide

theorem scanHex4_hex4 {unit : Nat} (small : unit < 0x10000) (rest : PyStr) :
    scanHex4 (hex4 unit ++ rest) = some (unit, rest) := by
  simp only [hex4, List.map_cons, List.map_nil, List.cons_append, List.nil_append, scanHex4,
    hexValue_hexDigit (Nat.mod_lt _ (by decide : 0 < 16))]
  simp
  omega

def Unpaired (text : PyStr) : Prop :=
  text.IsChain fun left right => ¬ (isHigh left.val = true ∧ isLow right.val = true)

instance (text : PyStr) : Decidable (Unpaired text) :=
  inferInstanceAs (Decidable (List.IsChain _ text))

-- The escapes of one letter, and what is left to the others.
theorem escapePoint_cases (point : CodePoint) :
    (∃ letter, escapePoint point = [code 0x5C, code letter] ∧ letter ≠ 0x75 ∧ letter < 0x80 ∧
        backslashLetters.lookup letter = some point.val) ∨
      (escapePoint point = [point] ∧ point.val ≠ 0x22 ∧ point.val ≠ 0x5C ∧ 0x20 ≤ point.val) ∨
      (escapePoint point = uEscape point.val ∧ point.val < 0x10000) ∨
      (escapePoint point =
          uEscape (0xD800 + (point.val - 0x10000) / 0x400) ++
            uEscape (0xDC00 + (point.val - 0x10000) % 0x400) ∧
        0x10000 ≤ point.val) := by
  unfold escapePoint
  by_cases letters : point.val ∈ escapeLetters.map Prod.fst
  · left
    simp [escapeLetters] at letters
    rcases letters with h | h | h | h | h | h | h <;> rw [h] <;>
      exact ⟨_, rfl, by decide, by decide, by decide⟩
  · right
    have unlisted : escapeLetters.lookup point.val = none := by
      rw [List.lookup_eq_none_iff]
      intro entry listed
      simp only [bne_iff_ne, ne_eq]
      intro same
      exact letters (List.mem_map.mpr ⟨entry, listed, same.symm⟩)
    simp only [unlisted]
    simp [escapeLetters] at letters
    by_cases plain : 0x20 ≤ point.val && point.val ≤ 0x7E
    · left
      simp only [plain, if_true, true_and]
      simp at plain
      exact ⟨letters.2.1, letters.1, plain.1⟩
    · right
      simp only [plain]
      by_cases basic : point.val < 0x10000
      · exact .inl ⟨by simp [basic], basic⟩
      · exact .inr ⟨by simp [basic], Nat.le_of_not_lt basic⟩

theorem length_le_flatMap_escapePoint (text : PyStr) :
    text.length ≤ (text.flatMap escapePoint).length := by
  induction text with
  | nil => exact Nat.le_refl 0
  | cons point text ih =>
    have written : 0 < (escapePoint point).length := by
      rcases escapePoint_cases point with
        ⟨letter, shown, -⟩ | ⟨shown, -⟩ | ⟨shown, -⟩ | ⟨shown, -⟩ <;> simp [shown, uEscape]
    rw [List.flatMap_cons, List.length_append, List.length_cons]
    omega

theorem joinSurrogates_not_high {unit : Nat} (rest : PyStr) (notHigh : isHigh unit = false) :
    joinSurrogates unit rest = some (code unit, rest) := by
  match rest with
  | [] => rfl
  | [_] => rfl
  | slash :: letter :: more => simp [joinSurrogates, notHigh]

theorem joinSurrogates_not_slash (unit : Nat) {point : CodePoint} (rest : PyStr)
    (notSlash : point.val ≠ 0x5C) :
    joinSurrogates unit (point :: rest) = some (code unit, point :: rest) := by
  cases rest with
  | nil => rfl
  | cons letter more => simp [joinSurrogates, notSlash]

theorem joinSurrogates_letter (unit : Nat) {letter : CodePoint} (rest : PyStr)
    (notU : letter.val ≠ 0x75) :
    joinSurrogates unit (code 0x5C :: letter :: rest) =
      some (code unit, code 0x5C :: letter :: rest) := by
  simp [joinSurrogates, notU]

theorem joinSurrogates_not_low (unit : Nat) {other : Nat} (rest : PyStr) (small : other < 0x10000)
    (notLow : isLow other = false) :
    joinSurrogates unit (uEscape other ++ rest) = some (code unit, uEscape other ++ rest) := by
  simp only [uEscape, List.cons_append, joinSurrogates, scanHex4_hex4 small]
  split
  · simp [notLow]
  · rfl

theorem joinSurrogates_pair {high low : Nat} (rest : PyStr) (isHighUnit : isHigh high = true)
    (isLowUnit : isLow low = true) :
    joinSurrogates high (uEscape low ++ rest) =
      some (code (0x10000 + (high - 0xD800) * 0x400 + (low - 0xDC00)), rest) := by
  have small : low < 0x10000 := by
    simp [isLow] at isLowUnit
    omega
  simp [uEscape, joinSurrogates, scanHex4_hex4 small, isHighUnit, isLowUnit]

-- A surrogate that stands alone stays alone: behind it comes no low one.
theorem joinSurrogates_alone {unit : Nat} {text rest : PyStr}
    (apart : ∀ point ∈ text.head?, ¬ (isHigh unit = true ∧ isLow point.val = true)) :
    joinSurrogates unit (text.flatMap escapePoint ++ code 0x22 :: rest) =
      some (code unit, text.flatMap escapePoint ++ code 0x22 :: rest) := by
  cases high : isHigh unit with
  | false => exact joinSurrogates_not_high _ high
  | true =>
    cases text with
    | nil => exact joinSurrogates_not_slash unit rest (by simp)
    | cons point others =>
      have notLow : isLow point.val = false := by simpa [high] using apart point rfl
      rw [List.flatMap_cons, List.append_assoc]
      rcases escapePoint_cases point with
        ⟨letter, shown, notU, small, -⟩ | ⟨shown, -, notSlash, -⟩ | ⟨shown, basic⟩ | ⟨shown, beyond⟩
      · rw [shown]
        exact joinSurrogates_letter unit _ (by rwa [code_val (by omega)])
      · rw [shown]
        exact joinSurrogates_not_slash unit _ notSlash
      · rw [shown]
        exact joinSurrogates_not_low unit _ basic notLow
      · rw [shown, List.append_assoc]
        have bounded := point.isLt
        refine joinSurrogates_not_low unit _ (by omega) ?_
        simp [isLow]
        omega

theorem scanEscape_uEscape {unit : Nat} (small : unit < 0x10000) (rest : PyStr) :
    scanEscape (code 0x75 :: (hex4 unit ++ rest)) = joinSurrogates unit rest := by
  have unlisted : backslashLetters.lookup (code 0x75).val = none := by decide
  simp only [scanEscape, unlisted, scanHex4_hex4 small]
  simp

theorem scanString_escape {fuel : Nat} {escaped rest : PyStr} {point : CodePoint}
    (read : scanEscape escaped = some (point, rest)) :
    scanString (fuel + 1) (code 0x5C :: escaped) =
      (scanString fuel rest).map fun text => (point :: text.1, text.2) := by
  simp only [scanString, code_val (by decide : 0x5C < 0x110000), read]
  simp [Option.map_eq_bind]

theorem scanString_uEscape {fuel unit : Nat} {escaped rest : PyStr} {point : CodePoint}
    (small : unit < 0x10000) (read : joinSurrogates unit escaped = some (point, rest)) :
    scanString (fuel + 1) (uEscape unit ++ escaped) =
      (scanString fuel rest).map fun text => (point :: text.1, text.2) := by
  simp only [uEscape, List.cons_append]
  exact scanString_escape (by rw [scanEscape_uEscape small, read])

theorem scanString_point {point : CodePoint} {text rest : PyStr} {fuel : Nat}
    (apart : ∀ next ∈ text.head?, ¬ (isHigh point.val = true ∧ isLow next.val = true)) :
    scanString (fuel + 1) (escapePoint point ++ (text.flatMap escapePoint ++ code 0x22 :: rest)) =
      (scanString fuel (text.flatMap escapePoint ++ code 0x22 :: rest)).map fun read =>
        (point :: read.1, read.2) := by
  rcases escapePoint_cases point with
    ⟨letter, shown, notU, small, listed⟩ | ⟨shown, notQuote, notSlash, printable⟩ | ⟨shown, basic⟩ |
      ⟨shown, beyond⟩
  · simp only [shown, List.cons_append, List.nil_append]
    refine scanString_escape ?_
    simp only [scanEscape, code_val (by omega : letter < 0x110000), listed, code_self]
  · simp only [shown, List.cons_append, List.nil_append, scanString, notQuote, notSlash, if_false,
      Nat.not_lt.mpr printable]
    cases scanString fuel (text.flatMap escapePoint ++ code 0x22 :: rest) <;> rfl
  · rw [shown]
    exact scanString_uEscape basic (by rw [joinSurrogates_alone apart, code_self])
  · have bounded := point.isLt
    have joined : 0x10000 + (0xD800 + (point.val - 0x10000) / 0x400 - 0xD800) * 0x400 +
        (0xDC00 + (point.val - 0x10000) % 0x400 - 0xDC00) = point.val := by omega
    rw [shown, List.append_assoc]
    refine scanString_uEscape (by omega) ?_
    rw [joinSurrogates_pair, joined, code_self]
    · simp [isHigh]
      omega
    · simp [isLow]
      omega

theorem scanString_escaped {text : PyStr} (unpaired : Unpaired text) {fuel : Nat} (rest : PyStr)
    (enough : text.length < fuel) :
    scanString fuel (text.flatMap escapePoint ++ code 0x22 :: rest) = some (text, rest) := by
  induction text generalizing fuel with
  | nil =>
    obtain ⟨fuel, rfl⟩ := Nat.exists_eq_succ_of_ne_zero (Nat.ne_of_gt enough)
    simp [scanString]
  | cons point text ih =>
    obtain ⟨fuel, rfl⟩ := Nat.exists_eq_succ_of_ne_zero (Nat.ne_of_gt (Nat.zero_lt_of_lt enough))
    have apart := (List.isChain_cons.mp unpaired).1
    have later := (List.isChain_cons.mp unpaired).2
    rw [List.flatMap_cons, List.append_assoc, scanString_point apart,
      ih later (Nat.lt_of_succ_lt_succ enough)]
    rfl

theorem scanString_dumped {text : PyStr} (rest : PyStr) (unpaired : Unpaired text) :
    scanString ((text.flatMap escapePoint ++ code 0x22 :: rest).length + 1)
      (text.flatMap escapePoint ++ code 0x22 :: rest) = some (text, rest) := by
  have kept := length_le_flatMap_escapePoint text
  refine scanString_escaped unpaired rest ?_
  rw [List.length_append]
  omega

theorem length_decimalDigits_le {value limit : Nat} (positive : 0 < limit) :
    (decimalDigits value).length ≤ limit ↔ value < 10 ^ limit := by
  by_cases zero : value = 0
  next =>
    subst zero
    exact ⟨fun _ => Nat.pow_pos (by decide), fun _ => positive⟩
  next =>
    simp only [decimalDigits, zero, if_false, List.length_reverse]
    exact Nat.digits_length_le_iff (by decide) value

theorem decimalDigits_lt {value digit : Nat} (listed : digit ∈ decimalDigits value) : digit < 10 := by
  by_cases zero : value = 0
  next =>
    simp [decimalDigits, zero] at listed
    omega
  next =>
    simp only [decimalDigits, zero, if_false, List.mem_reverse] at listed
    exact Nat.digits_lt_base (by decide) listed

-- The only number that starts with a zero is zero.
theorem decimalDigits_cases (value : Nat) :
    (value = 0 ∧ decimalDigits value = [0]) ∨
      ∃ first rest, decimalDigits value = first :: rest ∧ first ≠ 0 := by
  by_cases zero : value = 0
  next => exact .inl ⟨zero, by simp [decimalDigits, zero]⟩
  next =>
    right
    have written : Nat.digits 10 value ≠ [] := Nat.digits_ne_nil_iff_ne_zero.mpr zero
    have leading := Nat.getLast_digit_ne_zero 10 zero
    have shown : decimalDigits value = (Nat.digits 10 value).reverse := by
      simp [decimalDigits, zero]
    refine ⟨(Nat.digits 10 value).getLast written, (Nat.digits 10 value).dropLast.reverse, ?_, leading⟩
    rw [shown]
    conv => lhs; rw [← List.dropLast_append_getLast written]
    simp

theorem foldl_decimalDigits (value : Nat) :
    (decimalDigits value).foldl (fun sum digit => 10 * sum + digit) 0 = value := by
  by_cases zero : value = 0
  next => simp [decimalDigits, zero]
  next =>
    simp only [decimalDigits, zero, if_false, List.foldl_reverse]
    calc (Nat.digits 10 value).foldr (fun digit sum => 10 * sum + digit) 0
        = Nat.ofDigits 10 (Nat.digits 10 value) := by
          rw [Nat.ofDigits_eq_foldr]
          simp [Nat.add_comm]
      _ = value := Nat.ofDigits_digits 10 value

def shownDigits (digits : List Nat) : PyStr := digits.map fun digit => code (48 + digit)

theorem digitsValue_shownDigits {digits : List Nat} (decimal : ∀ digit ∈ digits, digit < 10) :
    digitsValue (shownDigits digits) = digits.foldl (fun sum digit => 10 * sum + digit) 0 := by
  simp only [digitsValue, shownDigits, List.foldl_map]
  refine List.foldl_ext _ _ _ ?_
  intro sum digit listed
  have small := decimal digit listed
  rw [code_val (by omega), Nat.add_sub_cancel_left]

theorem isDigit_shown {digit : Nat} (small : digit < 10) : isDigit (code (48 + digit)) = true := by
  simp only [isDigit, code_val (by omega : 48 + digit < 0x110000)]
  simp
  omega

def Closes (rest : PyStr) : Prop :=
  ∀ point ∈ rest.head?, isDigit point = false ∧ point.val ≠ 0x2E ∧ point.val ≠ 0x65 ∧ point.val ≠ 0x45

theorem scanWhole_decimalDigits (value : Nat) {rest : PyStr} (closes : Closes rest) :
    scanWhole (shownDigits (decimalDigits value) ++ rest) =
      (shownDigits (decimalDigits value), rest) := by
  rcases decimalDigits_cases value with ⟨-, shown⟩ | ⟨first, others, shown, leading⟩
  · rw [shown]
    simp [shownDigits, scanWhole]
  · have digits : ∀ point ∈ shownDigits (decimalDigits value), isDigit point = true := by
      intro point listed
      obtain ⟨digit, written, rfl⟩ := List.mem_map.mp listed
      exact isDigit_shown (decimalDigits_lt written)
    have small : first < 10 := decimalDigits_lt (shown ▸ List.mem_cons_self)
    have notZero : (code (48 + first)).val ≠ 48 := by
      rw [code_val (by omega)]
      omega
    have headed : shownDigits (decimalDigits value) ++ rest =
        code (48 + first) :: (shownDigits others ++ rest) := by
      rw [shown]
      rfl
    have whole : scanWhole (shownDigits (decimalDigits value) ++ rest) =
        ((shownDigits (decimalDigits value) ++ rest).takeWhile isDigit,
          (shownDigits (decimalDigits value) ++ rest).dropWhile isDigit) := by
      rw [headed]
      simp only [scanWhole, notZero, if_false]
    have stops : rest.takeWhile isDigit = [] ∧ rest.dropWhile isDigit = rest := by
      cases rest with
      | nil => simp
      | cons point rest => simp [(closes point rfl).1]
    rw [whole, List.takeWhile_append_of_pos digits, List.dropWhile_append_of_pos digits, stops.1,
      stops.2, List.append_nil]

theorem scanFraction_closes {rest : PyStr} (closes : Closes rest) : scanFraction rest = ([], rest) := by
  cases rest with
  | nil => rfl
  | cons point rest => simp [scanFraction, (closes point rfl).2.1]

theorem scanExponent_closes {rest : PyStr} (closes : Closes rest) : scanExponent rest = ([], rest) := by
  cases rest with
  | nil => rfl
  | cons point rest => simp [scanExponent, (closes point rfl).2.2.1, (closes point rfl).2.2.2]

theorem scanNumber_unsigned (parseFloat : PyStr → PyFloat) {text rest : PyStr} {negative : Bool}
    {value : Nat} (minus : scanMinus text = (negative, shownDigits (decimalDigits value) ++ rest))
    (printable : value < 10 ^ kMaxStrDigits) (closes : Closes rest) :
    scanNumber parseFloat text = some (.int (if negative then -(value : Int) else value), rest) := by
  have written : shownDigits (decimalDigits value) ≠ [] := by
    rcases decimalDigits_cases value with ⟨-, shown⟩ | ⟨first, others, shown, -⟩ <;>
      simp [shownDigits, shown]
  have fits : ¬ (shownDigits (decimalDigits value)).length > kMaxStrDigits := by
    rw [shownDigits, List.length_map, Nat.not_lt]
    exact (length_decimalDigits_le (by decide)).mpr printable
  have same : digitsValue (shownDigits (decimalDigits value)) = value := by
    rw [digitsValue_shownDigits fun _ => decimalDigits_lt, foldl_decimalDigits]
  simp only [scanNumber, minus, scanWhole_decimalDigits value closes, scanFraction_closes closes,
    scanExponent_closes closes, written, fits, same, if_false, if_true, and_self]

theorem dumpsInt_ok {value : Int} (printable : value.natAbs < 10 ^ kMaxStrDigits) :
    dumpsInt value =
      .ok ((if value < 0 then [code 45] else []) ++ shownDigits (decimalDigits value.natAbs)) := by
  have fits : ¬ (decimalDigits value.natAbs).length > kMaxStrDigits :=
    Nat.not_lt.mpr ((length_decimalDigits_le (by decide)).mpr printable)
  simp only [dumpsInt, fits, if_false, shownDigits]

theorem dumpsInt_error {value : Int} (huge : 10 ^ kMaxStrDigits ≤ value.natAbs) (text : PyStr) :
    dumpsInt value ≠ .ok text := by
  have long : (decimalDigits value.natAbs).length > kMaxStrDigits := by
    refine Nat.lt_of_not_le fun short => ?_
    exact Nat.not_lt.mpr huge ((length_decimalDigits_le (by decide)).mp short)
  simp [dumpsInt, long]

-- The head of what is written for a number: a digit, or a minus sign with a digit behind it.
theorem shownDigits_head (value : Nat) (rest : PyStr) :
    ∃ digit more, digit < 10 ∧ shownDigits (decimalDigits value) ++ rest = code (48 + digit) :: more := by
  rcases decimalDigits_cases value with ⟨-, shown⟩ | ⟨first, others, shown, -⟩
  · exact ⟨0, rest, by decide, by rw [shown]; rfl⟩
  · exact ⟨first, shownDigits others ++ rest, decimalDigits_lt (shown ▸ List.mem_cons_self),
      by rw [shown]; rfl⟩

theorem scanNumber_dumpsInt (parseFloat : PyStr → PyFloat) {value : Int} {text rest : PyStr}
    (printable : value.natAbs < 10 ^ kMaxStrDigits) (dumped : dumpsInt value = .ok text)
    (closes : Closes rest) :
    scanNumber parseFloat (text ++ rest) = some (.int value, rest) := by
  rw [dumpsInt_ok printable] at dumped
  cases dumped
  by_cases negative : value < 0
  next =>
    rw [if_pos negative]
    have minus : scanMinus ([code 45] ++ shownDigits (decimalDigits value.natAbs) ++ rest) =
        (true, shownDigits (decimalDigits value.natAbs) ++ rest) := by
      simp [scanMinus]
    have same : -(value.natAbs : Int) = value := by omega
    rw [scanNumber_unsigned parseFloat minus printable closes, if_pos rfl, same]
  next =>
    rw [if_neg negative, List.nil_append]
    have minus : scanMinus (shownDigits (decimalDigits value.natAbs) ++ rest) =
        (false, shownDigits (decimalDigits value.natAbs) ++ rest) := by
      obtain ⟨digit, more, small, headed⟩ := shownDigits_head value.natAbs rest
      rw [headed]
      simp only [scanMinus, code_val (by omega : 48 + digit < 0x110000)]
      rw [if_neg (by omega)]
    have same : (value.natAbs : Int) = value := by omega
    rw [scanNumber_unsigned parseFloat minus printable closes, if_neg Bool.false_ne_true, same]

theorem scanWord_none {text : PyStr} (count : Nat)
    (differ : ∀ word ∈ words,
      count ≤ (py word.1).length ∧ (py word.1).take count ≠ text.take count) :
    scanWord text = none := by
  have apart : ∀ word ∈ words, ¬ (py word.1).isPrefixOf text = true := by
    intro word listed found
    obtain ⟨rest, rfl⟩ := List.isPrefixOf_iff_prefix.mp found
    obtain ⟨long, different⟩ := differ word listed
    exact different (List.take_append_of_le_length long).symm
  rw [scanWord, List.find?_eq_none.mpr apart]
  rfl

-- No word starts like a number.
theorem scanWord_digit {digit : Nat} (small : digit < 10) (rest : PyStr) :
    scanWord (code (48 + digit) :: rest) = none := by
  refine scanWord_none 1 ?_
  simp only [List.take_succ_cons, List.take_zero]
  revert digit
  decide

theorem scanWord_minus {digit : Nat} (small : digit < 10) (rest : PyStr) :
    scanWord (code 45 :: code (48 + digit) :: rest) = none := by
  refine scanWord_none 2 ?_
  simp only [List.take_succ_cons, List.take_zero]
  revert digit
  decide

mutual

/-- What a round trip through a text leaves as it is. -/
def Portable : PyValue → Prop
  | .none | .bool _ => True
  | .int value => value.natAbs < 10 ^ kMaxStrDigits
  | .float _ => False
  | .str text => Unpaired text
  | .list elements => PortableElements elements
  | .dict entries => (entries.map Prod.fst).Nodup ∧ PortableEntries entries

def PortableElements : List PyValue → Prop
  | [] => True
  | element :: rest => Portable element ∧ PortableElements rest

def PortableEntries : List (PyStr × PyValue) → Prop
  | [] => True
  | (key, value) :: rest => Unpaired key ∧ Portable value ∧ PortableEntries rest

end

theorem portableElements_iff {elements : List PyValue} :
    PortableElements elements ↔ ∀ element ∈ elements, Portable element := by
  induction elements with
  | nil => simp [PortableElements]
  | cons element rest ih => simp [PortableElements, ih]

theorem portableEntries_iff {entries : List (PyStr × PyValue)} :
    PortableEntries entries ↔ ∀ entry ∈ entries, Unpaired entry.1 ∧ Portable entry.2 := by
  induction entries with
  | nil => simp [PortableEntries]
  | cons entry rest ih => simp [PortableEntries, ih, and_assoc]

theorem insert_new {key : PyStr} {value : PyValue} {entries : List (PyStr × PyValue)}
    (new : key ∉ entries.map Prod.fst) : insert key value entries = entries ++ [(key, value)] := by
  induction entries with
  | nil => rfl
  | cons entry rest ih =>
    simp only [List.map_cons, List.mem_cons, not_or] at new
    simp only [insert, if_neg (Ne.symm new.1), ih new.2, List.cons_append]

theorem dictOf_distinct {pairs : List (PyStr × PyValue)} (distinct : (pairs.map Prod.fst).Nodup) :
    dictOf pairs = pairs := by
  suffices built : ∀ before : List (PyStr × PyValue), ((before ++ pairs).map Prod.fst).Nodup →
      pairs.foldl (fun entries pair => insert pair.1 pair.2 entries) before = before ++ pairs from
    built [] distinct
  clear distinct
  induction pairs with
  | nil => simp
  | cons pair rest ih =>
    intro before distinct
    have new : pair.1 ∉ before.map Prod.fst := by
      rw [List.map_append, List.nodup_append] at distinct
      intro listed
      exact distinct.2.2 _ listed _ List.mem_cons_self rfl
    rw [List.foldl_cons, insert_new new, ih (before ++ [pair]) (by simpa using distinct)]
    simp

section Values

variable (python : Python) (parseFloat : PyStr → PyFloat)

-- A text in front of which nothing is skipped and which does not end a list.
def Starts (text : PyStr) : Prop :=
  ∃ first more, text = first :: more ∧ isSpace first = false ∧ first.val ≠ 0x5D

structure ReadsAs (text : PyStr) (value : PyValue) : Prop where
  starts : Starts text
  scanned : ∀ fuel rest, text.length ≤ fuel → Closes rest →
    scanValue parseFloat fuel (text ++ rest) = some (value, rest)

structure ElementsReadAs (text : PyStr) (elements : List PyValue) : Prop where
  starts : Starts text
  scanned : ∀ fuel rest, text.length < fuel →
    scanElements parseFloat fuel (text ++ code 0x5D :: rest) = some (elements, rest)

structure EntriesReadAs (text : PyStr) (entries : List (PyStr × PyValue)) : Prop where
  starts : ∃ more, text = code 0x22 :: more
  scanned : ∀ fuel rest, text.length < fuel →
    scanEntries parseFloat fuel (text ++ code 0x7D :: rest) = some (entries, rest)

variable {parseFloat}

theorem Starts.skip {text : PyStr} (starts : Starts text) (rest : PyStr) :
    skip (text ++ rest) = text ++ rest := by
  obtain ⟨first, more, rfl, solid, -⟩ := starts
  simp [PyJson.skip, solid]

theorem skip_solid {point : CodePoint} (rest : PyStr) (solid : isSpace point = false) :
    skip (point :: rest) = point :: rest := by
  simp [skip, solid]

theorem skip_blank (rest : PyStr) : skip (code 0x20 :: rest) = skip rest := by
  have blank : isSpace (code 0x20) = true := by decide
  simp [skip, blank]

theorem scanWord_word {word : String} {value : PyValue} (named : (word, value) ∈ words)
    (rest : PyStr) : scanWord (py word ++ rest) = some (value, rest) := by
  simp only [words, List.mem_cons, List.not_mem_nil, or_false, Prod.mk.injEq] at named
  rcases named with ⟨rfl, rfl⟩ | ⟨rfl, rfl⟩ | ⟨rfl, rfl⟩ | ⟨rfl, rfl⟩ | ⟨rfl, rfl⟩ | ⟨rfl, rfl⟩ <;>
    simp [scanWord, words, py]

-- The first code point of a word or a number.
def scalarStart (point : CodePoint) : Bool :=
  point.val ≠ 0x22 && point.val ≠ 0x7B && point.val ≠ 0x5B && point.val ≠ 0x5D && !isSpace point

theorem readsAs_scalar {point : CodePoint} {more : PyStr} {value : PyValue}
    (scalar : scalarStart point = true)
    (read : ∀ rest, Closes rest →
      ((scanWord (point :: more ++ rest)).orElse fun _ =>
        scanNumber parseFloat (point :: more ++ rest)) = some (value, rest)) :
    ReadsAs parseFloat (point :: more) value := by
  simp only [scalarStart, Bool.and_eq_true, decide_eq_true_eq, Bool.not_eq_true'] at scalar
  obtain ⟨⟨⟨⟨quote, brace⟩, bracket⟩, closing⟩, solid⟩ := scalar
  refine ⟨⟨point, more, rfl, solid, closing⟩, ?_⟩
  intro fuel rest enough closes
  cases fuel with
  | zero => simp at enough
  | succ fuel =>
    simp only [List.cons_append, scanValue, quote, brace, bracket, if_false]
    exact read rest closes

theorem readsAs_word {word : String} {value : PyValue} (named : (word, value) ∈ words) :
    ReadsAs parseFloat (py word) value := by
  have headed : ∀ entry ∈ words, ∃ point more, py entry.1 = point :: more ∧ scalarStart point := by
    simp only [words, List.mem_cons, List.not_mem_nil, or_false]
    rintro entry (rfl | rfl | rfl | rfl | rfl | rfl) <;> exact ⟨_, _, rfl, by decide⟩
  obtain ⟨point, more, shown, scalar⟩ := headed _ named
  rw [shown]
  refine readsAs_scalar scalar ?_
  intro rest _
  rw [← shown, scanWord_word named]
  rfl

theorem scalarStart_digit {digit : Nat} (small : digit < 10) :
    scalarStart (code (48 + digit)) = true := by
  revert digit
  decide

theorem readsAs_int {value : Int} {text : PyStr} (printable : value.natAbs < 10 ^ kMaxStrDigits)
    (dumped : dumpsInt value = .ok text) : ReadsAs parseFloat text (.int value) := by
  obtain ⟨digit, more, small, headed⟩ := shownDigits_head value.natAbs []
  rw [List.append_nil] at headed
  have number : ∀ rest, Closes rest → scanNumber parseFloat (text ++ rest) = some (.int value, rest) :=
    fun rest closes => scanNumber_dumpsInt parseFloat printable dumped closes
  rw [dumpsInt_ok printable, headed] at dumped
  by_cases negative : value < 0
  next =>
    rw [if_pos negative, List.cons_append, List.nil_append] at dumped
    cases dumped
    refine readsAs_scalar (by decide) ?_
    intro rest closes
    rw [List.cons_append, List.cons_append, scanWord_minus small]
    exact number rest closes
  next =>
    rw [if_neg negative] at dumped
    cases dumped
    refine readsAs_scalar (scalarStart_digit small) ?_
    intro rest closes
    rw [List.cons_append, scanWord_digit small]
    exact number rest closes

theorem readsAs_str {text : PyStr} (unpaired : Unpaired text) :
    ReadsAs parseFloat (dumpsStr text) (.str text) where
  starts := ⟨_, _, rfl, by decide, by decide⟩
  scanned := by
    intro fuel rest enough closes
    cases fuel with
    | zero => simp [dumpsStr] at enough
    | succ fuel =>
      simp only [dumpsStr, List.cons_append, List.append_assoc, List.nil_append, scanValue,
        code_val (by decide : 0x22 < 0x110000), if_true, scanString_dumped rest unpaired]
      rfl

theorem elementsReadAs_one {text : PyStr} {element : PyValue}
    (only : ReadsAs parseFloat text element) : ElementsReadAs parseFloat text [element] where
  starts := only.starts
  scanned := by
    intro fuel rest enough
    cases fuel with
    | zero => omega
    | succ fuel =>
      have closes : Closes (code 0x5D :: rest) := by
        intro point here
        cases here
        decide
      simp only [scanElements, only.scanned fuel _ (by omega) closes]
      simp [skip_solid rest (by decide : isSpace (code 0x5D) = false)]

theorem elementsReadAs_cons {first others : PyStr} {element : PyValue} {rest : List PyValue}
    (head : ReadsAs parseFloat first element) (tail : ElementsReadAs parseFloat others rest) :
    ElementsReadAs parseFloat (first ++ code 0x2C :: code 0x20 :: others) (element :: rest) where
  starts := by
    obtain ⟨point, more, rfl, solid, open_⟩ := head.starts
    exact ⟨point, _, rfl, solid, open_⟩
  scanned := by
    intro fuel after enough
    cases fuel with
    | zero => omega
    | succ fuel =>
      simp only [List.length_append, List.length_cons] at enough
      have closes : Closes (code 0x2C :: code 0x20 :: (others ++ code 0x5D :: after)) := by
        intro point here
        cases here
        decide
      simp only [List.append_assoc, List.cons_append, scanElements,
        head.scanned fuel _ (by omega) closes]
      simp [skip_solid _ (by decide : isSpace (code 0x2C) = false), skip_blank, tail.starts.skip,
        tail.scanned fuel after (by omega)]

theorem entriesReadAs_one {key held : PyStr} {value : PyValue} (unpaired : Unpaired key)
    (only : ReadsAs parseFloat held value) :
    EntriesReadAs parseFloat (dumpsStr key ++ code 0x3A :: code 0x20 :: held) [(key, value)] where
  starts := ⟨_, rfl⟩
  scanned := by
    intro fuel rest enough
    cases fuel with
    | zero => omega
    | succ fuel =>
      simp only [List.length_append, List.length_cons] at enough
      have closes : Closes (code 0x7D :: rest) := by
        intro point here
        cases here
        decide
      have read := only.scanned fuel _ (by omega) closes
      simp only [dumpsStr, List.cons_append, List.append_assoc, List.nil_append, scanEntries,
        code_val (by decide : 0x22 < 0x110000), if_true, scanString_dumped _ unpaired]
      simp [skip_solid _ (by decide : isSpace (code 0x3A) = false), skip_blank, only.starts.skip,
        read, skip_solid _ (by decide : isSpace (code 0x7D) = false)]

theorem entriesReadAs_cons {key held others : PyStr} {value : PyValue}
    {rest : List (PyStr × PyValue)} (unpaired : Unpaired key) (head : ReadsAs parseFloat held value)
    (tail : EntriesReadAs parseFloat others rest) :
    EntriesReadAs parseFloat
      (dumpsStr key ++ code 0x3A :: code 0x20 :: held ++ code 0x2C :: code 0x20 :: others)
      ((key, value) :: rest) where
  starts := ⟨_, rfl⟩
  scanned := by
    intro fuel after enough
    cases fuel with
    | zero => omega
    | succ fuel =>
      simp only [List.length_append, List.length_cons] at enough
      have closes : Closes (code 0x2C :: code 0x20 :: (others ++ code 0x7D :: after)) := by
        intro point here
        cases here
        decide
      have read := head.scanned fuel _ (by omega) closes
      have solid : skip (others ++ code 0x7D :: after) = others ++ code 0x7D :: after := by
        obtain ⟨more, rfl⟩ := tail.starts
        exact skip_solid _ (by decide)
      simp only [dumpsStr, List.cons_append, List.append_assoc, List.nil_append, scanEntries,
        code_val (by decide : 0x22 < 0x110000), if_true, scanString_dumped _ unpaired]
      simp [skip_solid _ (by decide : isSpace (code 0x3A) = false), skip_blank, head.starts.skip,
        read, skip_solid _ (by decide : isSpace (code 0x2C) = false), solid,
        tail.scanned fuel after (by omega)]

theorem readsAs_list {inner : PyStr} {elements : List PyValue}
    (read : ElementsReadAs parseFloat inner elements) :
    ReadsAs parseFloat (code 0x5B :: (inner ++ [code 0x5D])) (.list elements) where
  starts := ⟨_, _, rfl, by decide, by decide⟩
  scanned := by
    intro fuel rest enough closes
    cases fuel with
    | zero => simp at enough
    | succ fuel =>
      simp only [List.length_append, List.length_cons, List.length_nil] at enough
      have scanned := read.scanned fuel rest (by omega)
      have solid := read.starts.skip (code 0x5D :: rest)
      obtain ⟨first, more, rfl, -, notClosing⟩ := read.starts
      simp only [List.cons_append, List.append_assoc, List.nil_append] at scanned solid ⊢
      simp [scanValue, solid, notClosing, scanned]

theorem readsAs_dict {inner : PyStr} {entries : List (PyStr × PyValue)}
    (distinct : (entries.map Prod.fst).Nodup) (read : EntriesReadAs parseFloat inner entries) :
    ReadsAs parseFloat (code 0x7B :: (inner ++ [code 0x7D])) (.dict entries) where
  starts := ⟨_, _, rfl, by decide, by decide⟩
  scanned := by
    intro fuel rest enough closes
    cases fuel with
    | zero => simp at enough
    | succ fuel =>
      simp only [List.length_append, List.length_cons, List.length_nil] at enough
      have scanned := read.scanned fuel rest (by omega)
      obtain ⟨more, rfl⟩ := read.starts
      simp only [List.cons_append, List.append_assoc, List.nil_append] at scanned ⊢
      simp [scanValue, skip_solid _ (by decide : isSpace (code 0x22) = false), scanned,
        dictOf_distinct distinct]

theorem readsAs_empty_list : ReadsAs parseFloat [code 0x5B, code 0x5D] (.list []) where
  starts := ⟨_, _, rfl, by decide, by decide⟩
  scanned := by
    intro fuel rest enough closes
    cases fuel with
    | zero => simp at enough
    | succ fuel => simp [scanValue, skip_solid _ (by decide : isSpace (code 0x5D) = false)]

theorem readsAs_empty_dict : ReadsAs parseFloat [code 0x7B, code 0x7D] (.dict []) where
  starts := ⟨_, _, rfl, by decide, by decide⟩
  scanned := by
    intro fuel rest enough closes
    cases fuel with
    | zero => simp at enough
    | succ fuel => simp [scanValue, skip_solid _ (by decide : isSpace (code 0x7D) = false)]

theorem dumpsElements_cons {element : PyValue} {rest : List PyValue} {first others : PyStr}
    (more : rest ≠ []) (dumpedFirst : dumps python element = .ok first)
    (dumpedOthers : dumpsElements python rest = .ok others) :
    dumpsElements python (element :: rest) = .ok (first ++ code 0x2C :: code 0x20 :: others) := by
  cases rest with
  | nil => exact (more rfl).elim
  | cons next rest =>
    simp only [dumpsElements, dumpedFirst, dumpedOthers]
    rfl

theorem dumpsEntries_cons {key held others : PyStr} {value : PyValue}
    {rest : List (PyStr × PyValue)} (more : rest ≠ []) (dumpedHeld : dumps python value = .ok held)
    (dumpedOthers : dumpsEntries python rest = .ok others) :
    dumpsEntries python ((key, value) :: rest) =
      .ok (dumpsStr key ++ code 0x3A :: code 0x20 :: held ++ code 0x2C :: code 0x20 :: others) := by
  cases rest with
  | nil => exact (more rfl).elim
  | cons next rest =>
    simp only [dumpsEntries, dumpedHeld, dumpedOthers]
    rfl

mutual

theorem dumps_readsAs : ∀ {value : PyValue}, Portable value →
    ∃ text, dumps python value = .ok text ∧ ReadsAs parseFloat text value
  | .none, _ => ⟨_, rfl, readsAs_word (by simp [words])⟩
  | .bool true, _ => ⟨_, rfl, readsAs_word (by simp [words])⟩
  | .bool false, _ => ⟨_, rfl, readsAs_word (by simp [words])⟩
  | .int _, portable => ⟨_, dumpsInt_ok portable, readsAs_int portable (dumpsInt_ok portable)⟩
  | .float _, portable => portable.elim
  | .str _, portable => ⟨_, rfl, readsAs_str portable⟩
  | .list elements, portable => by
    by_cases empty : elements = []
    next =>
      subst empty
      exact ⟨_, rfl, readsAs_empty_list⟩
    next =>
      obtain ⟨inner, dumped, read⟩ := dumpsElements_readAs empty portable
      exact ⟨_, by rw [dumps, dumped]; rfl, readsAs_list read⟩
  | .dict entries, portable => by
    by_cases empty : entries = []
    next =>
      subst empty
      exact ⟨_, rfl, readsAs_empty_dict⟩
    next =>
      obtain ⟨inner, dumped, read⟩ := dumpsEntries_readAs empty portable.2
      exact ⟨_, by rw [dumps, dumped]; rfl, readsAs_dict portable.1 read⟩

theorem dumpsElements_readAs : ∀ {elements : List PyValue}, elements ≠ [] →
    PortableElements elements →
    ∃ inner, dumpsElements python elements = .ok inner ∧ ElementsReadAs parseFloat inner elements
  | [], written, _ => (written rfl).elim
  | element :: rest, _, portable => by
    obtain ⟨first, dumpedFirst, head⟩ := dumps_readsAs portable.1
    by_cases last : rest = []
    next =>
      subst last
      exact ⟨first, dumpedFirst, elementsReadAs_one head⟩
    next =>
      obtain ⟨others, dumpedOthers, tail⟩ := dumpsElements_readAs last portable.2
      exact ⟨_, dumpsElements_cons python last dumpedFirst dumpedOthers,
        elementsReadAs_cons head tail⟩

theorem dumpsEntries_readAs : ∀ {entries : List (PyStr × PyValue)}, entries ≠ [] →
    PortableEntries entries →
    ∃ inner, dumpsEntries python entries = .ok inner ∧ EntriesReadAs parseFloat inner entries
  | [], written, _ => (written rfl).elim
  | (key, value) :: rest, _, portable => by
    obtain ⟨held, dumpedHeld, head⟩ := dumps_readsAs portable.2.1
    by_cases last : rest = []
    next =>
      subst last
      exact ⟨_, by rw [dumpsEntries, dumpedHeld]; rfl, entriesReadAs_one portable.1 head⟩
    next =>
      obtain ⟨others, dumpedOthers, tail⟩ := dumpsEntries_readAs last portable.2.2
      exact ⟨_, dumpsEntries_cons python last dumpedHeld dumpedOthers,
        entriesReadAs_cons portable.1 head tail⟩

end

theorem loads_dumps (parseFloat : PyStr → PyFloat) {value : PyValue} (portable : Portable value) :
    ∃ text, dumps python value = .ok text ∧ loads parseFloat text = some value := by
  obtain ⟨text, dumped, read⟩ :
      ∃ text, dumps python value = .ok text ∧ ReadsAs parseFloat text value :=
    dumps_readsAs python portable
  have scanned := read.scanned (text.length + 1) [] (Nat.le_succ _) (by simp [Closes])
  have solid := read.starts.skip []
  rw [List.append_nil] at scanned solid
  refine ⟨text, dumped, ?_⟩
  simp only [loads, solid, scanned]
  rfl

end Values

end Ztab.PyJson
