import Ztab.Json.Spelling
import Ztab.Tee.CodeFences

set_option autoImplicit false

/-!
# Code fences around JSON

What `StripMarkdownCodeFences` makes of a JSON text that stands alone or inside a fence. The text
may hold fences of its own, but only inside strings.
-/

namespace Ztab

theorem continuations_ofNat : ∀ code < 256, continuations (UInt8.ofNat code) =
    if code < 0x80 then some 0 else if 0xC2 ≤ code ∧ code ≤ 0xDF then some 1
    else if 0xE0 ≤ code ∧ code ≤ 0xEF then some 2
    else if 0xF0 ≤ code ∧ code ≤ 0xF4 then some 3 else none := by
  decide +kernel

theorem continues_ofNat : ∀ low < 0x40,
    (0x80 ≤ UInt8.ofNat (low + 0x80) && UInt8.ofNat (low + 0x80) ≤ 0xBF) = true := by
  decide

-- A first byte announces the continuation bytes of its character.
theorem utf8EncodeChar_shape (char : Char) :
    ∃ lead following, String.utf8EncodeChar char = lead :: following ∧
      continuations lead = some following.length ∧
      ∀ byte ∈ following, (0x80 ≤ byte && byte ≤ 0xBF) = true := by
  have low (value : Nat) := continues_ofNat (value % 0x40) (Nat.mod_lt _ (by decide))
  have range : char.val.toNat < 0x110000 := by
    rcases char.valid with below | ⟨-, above⟩
    · exact below.trans (by decide)
    · exact above
  simp only [String.utf8EncodeChar]
  generalize char.val.toNat = value at range
  split_ifs with one two three
  · refine ⟨_, [], rfl, ?_, by simp⟩
    rw [continuations_ofNat _ (by omega), if_pos (by omega)]
    rfl
  · refine ⟨_, [_], rfl, ?_, by simpa using low value⟩
    rw [continuations_ofNat _ (by omega), if_neg (by omega), if_pos (by omega)]
    rfl
  · refine ⟨_, [_, _], rfl, ?_, ?_⟩
    · rw [continuations_ofNat _ (by omega), if_neg (by omega), if_neg (by omega), if_pos (by omega)]
      rfl
    · rw [List.forall_mem_cons, List.forall_mem_cons]
      exact ⟨low _, low _, by simp⟩
  · refine ⟨_, [_, _, _], rfl, ?_, ?_⟩
    · rw [continuations_ofNat _ (by omega), if_neg (by omega), if_neg (by omega), if_neg (by omega),
        if_pos (by omega)]
      rfl
    · rw [List.forall_mem_cons, List.forall_mem_cons, List.forall_mem_cons]
      exact ⟨low _, low _, low _, by simp⟩

theorem lazyGroup_owed (close following rest : Bytes)
    (continues : ∀ byte ∈ following, (0x80 ≤ byte && byte ≤ 0xBF) = true) :
    lazyGroup close following.length (following ++ rest) =
      (lazyGroup close 0 rest).map (following ++ ·) := by
  induction following with
  | nil => simp
  | cons byte others ih =>
    rw [List.forall_mem_cons] at continues
    rw [List.cons_append, List.length_cons, lazyGroup, if_pos continues.1, ih continues.2,
      Option.map_map]
    rfl

theorem lazyGroup_char {close rest : Bytes} {char : Char}
    (apart : ¬ close <+: String.utf8EncodeChar char ++ rest) :
    lazyGroup close 0 (String.utf8EncodeChar char ++ rest) =
      (lazyGroup close 0 rest).map (String.utf8EncodeChar char ++ ·) := by
  obtain ⟨lead, following, encoded, announced, continues⟩ := utf8EncodeChar_shape char
  rw [encoded] at apart ⊢
  rw [List.cons_append] at apart ⊢
  rw [lazyGroup, if_neg (by simpa using apart), announced]
  simp only [lazyGroup_owed close following rest continues, Option.map_map]
  rfl

theorem lazyGroup_text {close rest : Bytes} (proper : close ≠ []) (ends : close <+: rest)
    (chars : List Char)
    (first : ∀ before after, chars.flatMap String.utf8EncodeChar = before ++ after → after ≠ [] →
      ¬ close <+: after ++ rest) :
    lazyGroup close 0 (chars.flatMap String.utf8EncodeChar ++ rest) =
      some (chars.flatMap String.utf8EncodeChar) := by
  induction chars with
  | nil =>
    obtain ⟨byte, others, rfl⟩ : ∃ byte others, rest = byte :: others := by
      cases rest with
      | nil => exact absurd (List.prefix_nil.mp ends) proper
      | cons byte others => exact ⟨byte, others, rfl⟩
    simp [lazyGroup, ends]
  | cons char chars ih =>
    rw [List.flatMap_cons] at first ⊢
    rw [List.append_assoc, lazyGroup_char, ih]
    · rfl
    · intro before after same some
      exact first (String.utf8EncodeChar char ++ before) after (by rw [same, List.append_assoc]) some
    · rw [← List.append_assoc]
      exact first [] _ rfl (by simp [String.utf8EncodeChar_ne_nil])

theorem lazyGroup_infix {close : Bytes} {owed : Nat} {text content : Bytes}
    (matched : lazyGroup close owed text = some content) : close <:+: text := by
  induction text generalizing owed content with
  | nil => cases owed <;> cases matched
  | cons byte rest ih =>
    have later {owed : Nat} {content : Bytes}
        (found : (lazyGroup close owed rest).map (byte :: ·) = some content) :
        close <:+: byte :: rest := by
      obtain ⟨inner, found, -⟩ := Option.map_eq_some_iff.mp found
      exact (ih found).trans (List.suffix_cons byte rest).isInfix
    cases owed with
    | zero =>
      unfold lazyGroup at matched
      split at matched
      next here => exact (List.isPrefixOf_iff_prefix.mp here).isInfix
      next =>
        split at matched
        next => cases matched
        next => exact later matched
    | succ owed =>
      unfold lazyGroup at matched
      split at matched
      next => exact later matched
      next => cases matched

theorem openingFence_eq_some {text rest : Bytes} (opened : openingFence text = some rest) :
    ∃ tag, text = fence ++ tag ++ newline :: rest ∧ ∀ byte ∈ tag, isAlphanumeric byte = true := by
  unfold openingFence at opened
  split at opened
  next begins =>
    obtain ⟨after, rfl⟩ := List.isPrefixOf_iff_prefix.mp begins
    rw [List.drop_left] at opened
    split at opened
    next => cases opened
    next byte others split_ =>
      split at opened
      next same =>
        cases opened
        subst same
        refine ⟨after.takeWhile isAlphanumeric, ?_, fun byte held => List.mem_takeWhile_imp held⟩
        rw [List.append_assoc, ← split_, List.takeWhile_append_dropWhile]
      next => cases opened
  next => cases opened

theorem openingFence_tag {tag : Bytes} (alphanumeric : ∀ byte ∈ tag, isAlphanumeric byte = true)
    (rest : Bytes) : openingFence (fence ++ (tag ++ newline :: rest)) = some rest := by
  have begins : fence.isPrefixOf (fence ++ (tag ++ newline :: rest)) = true :=
    List.isPrefixOf_iff_prefix.mpr (List.prefix_append _ _)
  have stops : isAlphanumeric newline = false := by decide
  unfold openingFence
  rw [if_pos begins, List.drop_left, Occurrences.dropWhile_stop alphanumeric stops]
  simp

theorem fencedContent_eq_some {close text content : Bytes}
    (matched : fencedContent close text = some content) :
    ∃ before after rest, text = before ++ after ∧ openingFence after = some rest ∧ close <:+: rest := by
  induction text with
  | nil => cases matched
  | cons byte others ih =>
    unfold fencedContent at matched
    split at matched
    next found =>
      obtain ⟨rest, opened, group⟩ := Option.bind_eq_some_iff.mp found
      exact ⟨[], byte :: others, rest, rfl, opened, lazyGroup_infix group⟩
    next =>
      obtain ⟨before, after, rest, rfl, opened, inside⟩ := ih matched
      exact ⟨byte :: before, after, rest, rfl, opened, inside⟩

theorem fencedContent_skip {close before text : Bytes}
    (unopened : ∀ first second, before = first ++ second → second ≠ [] →
      openingFence (second ++ text) = none) :
    fencedContent close (before ++ text) = fencedContent close text := by
  induction before with
  | nil => rfl
  | cons byte others ih =>
    have here := unopened [] (byte :: others) rfl (by simp)
    rw [List.cons_append] at here ⊢
    rw [fencedContent, here, Option.bind_none]
    refine ih fun first second same some => unopened (byte :: first) second (by rw [same]; rfl) some

-- Back-ticks at the end of the prose run into the fence, and then no tag follows the first three.
theorem prose_unopened {prose : Bytes} (plain : ¬ fence <:+: prose) (text : Bytes) :
    ∀ first second, prose = first ++ second → second ≠ [] →
      openingFence (second ++ (fence ++ text)) = none := by
  rintro first second rfl some
  match second with
  | [] => exact absurd rfl some
  | [a] =>
    by_cases tick : a = 96
    · subst tick
      simp [openingFence, fence, isAlphanumeric, newline]
    · simp [openingFence, fence, List.isPrefixOf, Ne.symm tick]
  | [a, b] =>
    by_cases ticks : a = 96 ∧ b = 96
    · obtain ⟨rfl, rfl⟩ := ticks
      simp [openingFence, fence, isAlphanumeric, newline]
    · have other : ¬ (96 = a ∧ 96 = b) := fun same => ticks ⟨same.1.symm, same.2.symm⟩
      simp only [openingFence, fence, List.cons_append, List.isPrefixOf, List.nil_append]
      rw [if_neg]
      simpa using fun first second => absurd ⟨first, second⟩ other
  | a :: b :: c :: rest =>
    have unmarked : ¬ fence <+: a :: b :: c :: rest := fun begins =>
      plain (begins.isInfix.trans (List.suffix_append first _).isInfix)
    unfold openingFence
    rw [if_neg]
    simpa [fence] using unmarked

def Unpadded (text : Bytes) : Prop :=
  (∀ byte ∈ text.head?, isBlank byte = false) ∧ ∀ byte ∈ text.getLast?, isBlank byte = false

theorem trim_padded {before text after : Bytes} (some : text ≠ []) (unpadded : Unpadded text)
    (blankBefore : ∀ byte ∈ before, isBlank byte = true)
    (blankAfter : ∀ byte ∈ after, isBlank byte = true) : trim (before ++ (text ++ after)) = text := by
  obtain ⟨first, others, rfl⟩ := List.exists_cons_of_ne_nil some
  have written : isBlank first = false := unpadded.1 first rfl
  have notBlank : (before ++ (first :: others ++ after)).all isBlank = false := by
    simp [written]
  rw [trim, notBlank]
  simp only [Bool.false_eq_true, if_false]
  rw [List.cons_append, Occurrences.dropWhile_stop blankBefore written, ← List.cons_append]
  induction after using List.reverseRecOn with
  | nil =>
    rw [List.append_nil, List.rdropWhile_eq_self_iff]
    intro present
    simp [unpadded.2 _ (List.getLast?_eq_getLast_of_ne_nil present)]
  | append_singleton after byte ih =>
    rw [← List.append_assoc, List.rdropWhile_concat_pos _ _ _ (blankAfter byte (by simp))]
    exact ih (fun other held => blankAfter other (List.mem_append_left _ held)) (by simp [written])

theorem trim_unpadded {text : Bytes} (some : text ≠ []) (unpadded : Unpadded text) :
    trim text = text := by
  have padded := trim_padded some unpadded (List.forall_mem_nil _) (List.forall_mem_nil _)
  simpa using padded

section Texts

open Occurrences Reader

variable {text : Bytes}

-- After a back-tick the string ends before the line does, and a quotation mark is no tag.
theorem unopened_alone {before after : Bytes} (enclosed : Enclosed text)
    (blankBefore : ∀ byte ∈ before, isBlank byte = true)
    (blankAfter : ∀ byte ∈ after, isBlank byte = true) (close : Bytes) :
    fencedContent close (before ++ (text ++ after)) = none := by
  cases matched : fencedContent close (before ++ (text ++ after)) with
  | none => rfl
  | some content =>
    obtain ⟨front, back, rest, same, opened, -⟩ := fencedContent_eq_some matched
    obtain ⟨tag, rfl, alphanumeric⟩ := openingFence_eq_some opened
    have tick (chunk : Bytes) (blank : ∀ byte ∈ chunk, isBlank byte = true) : backtick ∉ chunk :=
      fun held => absurd (blank backtick held) (by decide)
    obtain ⟨inner, -, same⟩ := split_after (tick before blankBefore) same
    obtain ⟨line, same, ending⟩ := split_before (tick after blankAfter) same
    obtain ⟨content, others, rfl, inline⟩ := enclosed.closed inner line same
    have ends : content ++ 0x22 :: (others ++ after) = (96 :: 96 :: tag) ++ newline :: rest := by
      rw [← List.cons_append, ← List.append_assoc]
      exact ending.symm
    obtain ⟨middle, marked, last⟩ := split_after inline ends
    cases middle with
    | nil => cases last
    | cons quote more =>
      obtain ⟨rfl, -⟩ := List.cons.inj last
      have held : (0x22 : UInt8) ∈ 96 :: 96 :: tag := by
        rw [marked]
        simp
      simp only [List.mem_cons] at held
      obtain impossible | impossible | held := held
      · cases impossible
      · cases impossible
      · exact absurd (alphanumeric _ held) (by decide)

theorem newline_not_closing (enclosed : Enclosed text) (unpadded : Unpadded text) {before after : Bytes}
    (same : text = before ++ after) (some : after ≠ []) (rest : Bytes) :
    ¬ newline :: fence <+: after ++ rest := by
  intro begins
  obtain ⟨head, others, rfl⟩ := List.exists_cons_of_ne_nil some
  rw [List.cons_append, List.cons_prefix_cons] at begins
  obtain ⟨rfl, begins⟩ := begins
  cases others with
  | nil =>
    have blank := unpadded.2 newline (by rw [same]; simp)
    cases blank
  | cons next others =>
    rw [List.cons_append, fence, List.cons_prefix_cons] at begins
    obtain ⟨rfl, -⟩ := begins
    exact enclosed.apart ⟨before, others, by rw [same]; simp [newline, backtick]⟩

theorem fence_not_closing (enclosed : Enclosed text) (plain : ¬ fence <:+: text) {before after : Bytes}
    (same : text = before ++ after) (some : after ≠ []) (rest : Bytes) :
    ¬ fence <+: after ++ rest := by
  have unfinished (start : Bytes) : text ≠ start ++ [96] := by
    intro ends
    obtain ⟨inner, others, impossible, -⟩ := enclosed.closed start [] ends
    simp at impossible
  intro begins
  match after with
  | [] => exact some rfl
  | [a] =>
    obtain ⟨rfl, -⟩ := List.cons_prefix_cons.mp begins
    exact unfinished before same
  | [a, b] =>
    obtain ⟨-, begins⟩ := List.cons_prefix_cons.mp begins
    obtain ⟨rfl, -⟩ := List.cons_prefix_cons.mp begins
    exact unfinished (before ++ [a]) (by rw [same]; simp)
  | a :: b :: c :: others =>
    apply plain
    have marked : fence <+: a :: b :: c :: others := by
      simpa [fence] using begins
    rw [same]
    exact marked.isInfix.trans (List.suffix_append before _).isInfix

end Texts

theorem fencedContent_tagged {close prose tag rest content : Bytes} (plain : ¬ fence <:+: prose)
    (alphanumeric : ∀ byte ∈ tag, isAlphanumeric byte = true)
    (group : lazyGroup close 0 rest = some content) :
    fencedContent close (prose ++ (fence ++ (tag ++ newline :: rest))) = some content := by
  rw [fencedContent_skip (prose_unopened plain _)]
  have opened := openingFence_tag alphanumeric rest
  simp only [fence, List.cons_append] at opened ⊢
  rw [fencedContent, opened, Option.bind_some, group]

-- No line that begins with a fence: neither in the text nor in what follows it.
theorem no_closing_line {text tag suffix : Bytes} (enclosed : Reader.Enclosed text) (some : text ≠ [])
    (unpadded : Unpadded text) (alphanumeric : ∀ byte ∈ tag, isAlphanumeric byte = true)
    (plain : ¬ fence <:+: suffix) :
    ¬ newline :: fence <:+: fence ++ (tag ++ newline :: (text ++ (fence ++ suffix))) := by
  have unbroken : newline ∉ tag := fun held => absurd (alphanumeric _ held) (by decide)
  have marks : newline ∉ fence := by decide
  intro inside
  have inside := Occurrences.infix_of_append unbroken (Occurrences.infix_of_append marks inside)
  rcases List.infix_cons_iff.mp inside with begins | later
  · obtain ⟨first, others, rfl⟩ := List.exists_cons_of_ne_nil some
    obtain ⟨same, -⟩ := List.cons_prefix_cons.mp (List.cons_prefix_cons.mp begins).2
    exact enclosed.start (by rw [← same]; rfl)
  · have apart {front back : Bytes} (split : text = front ++ back) (filled : back ≠ []) (rest : Bytes) :
        ¬ newline :: fence <+: back ++ rest :=
      newline_not_closing enclosed unpadded split filled rest
    have cut : Occurrences.Cut (newline :: fence) text (fence ++ suffix) := by
      rintro first second begun - same ⟨⟨front, split⟩, begins⟩
      refine apart split.symm begun (fence ++ suffix) ?_
      rw [same]
      exact (List.prefix_append_right_inj first).mpr begins
    rcases (cut.infix_iff (by simp)).mp later with within | beyond
    · obtain ⟨front, back, split⟩ := within
      rw [List.append_assoc] at split
      exact apart split.symm (by simp) [] ⟨back, by simp⟩
    · have found := Occurrences.infix_of_append marks beyond
      exact plain ((List.suffix_cons newline fence).isInfix.trans found)

/-- A JSON text comes out unharmed: alone, in a fence closed on a line of its own, and in a fence
closed on the text's last line if no other fence comes up. -/
theorem fences_spare_json (text : String) (valid : Reader.ValidJson (utf8 text))
    (unpadded : Unpadded (utf8 text)) :
    (∀ before after : Bytes, (∀ byte ∈ before, isBlank byte = true) →
      (∀ byte ∈ after, isBlank byte = true) →
      stripMarkdownCodeFences (before ++ (utf8 text ++ after)) = utf8 text) ∧
    (∀ prose tag suffix : Bytes, ¬ fence <:+: prose → (∀ byte ∈ tag, isAlphanumeric byte = true) →
      stripMarkdownCodeFences
        (prose ++ (fence ++ (tag ++ newline :: (utf8 text ++ newline :: (fence ++ suffix))))) =
          utf8 text) ∧
    ∀ prose tag suffix : Bytes, ¬ fence <:+: prose → (∀ byte ∈ tag, isAlphanumeric byte = true) →
      ¬ fence <:+: utf8 text → ¬ fence <:+: suffix →
      stripMarkdownCodeFences
        (prose ++ (fence ++ (tag ++ newline :: (utf8 text ++ (fence ++ suffix))))) = utf8 text := by
  have enclosed := valid.enclosed
  have some := valid.ne_nil
  have trimmed := trim_unpadded some unpadded
  refine ⟨?_, ?_, ?_⟩
  · intro before after blankBefore blankAfter
    unfold stripMarkdownCodeFences
    rw [unopened_alone enclosed blankBefore blankAfter, unopened_alone enclosed blankBefore blankAfter]
    exact trim_padded some unpadded blankBefore blankAfter
  · intro prose tag suffix plain alphanumeric
    have group : lazyGroup (newline :: fence) 0 (utf8 text ++ newline :: (fence ++ suffix)) =
        Option.some (utf8 text) := by
      rw [utf8_eq_flatMap]
      refine lazyGroup_text (by simp) (List.prefix_append (newline :: fence) suffix) _ ?_
      intro front back same filled
      rw [← utf8_eq_flatMap] at same
      exact newline_not_closing enclosed unpadded same filled _
    unfold stripMarkdownCodeFences
    rw [fencedContent_tagged plain alphanumeric group]
    exact trimmed
  · intro prose tag suffix plain alphanumeric bare other
    have unclosed : fencedContent (newline :: fence)
        (prose ++ (fence ++ (tag ++ newline :: (utf8 text ++ (fence ++ suffix))))) = none := by
      rw [fencedContent_skip (prose_unopened plain _)]
      cases matched : fencedContent (newline :: fence)
          (fence ++ (tag ++ newline :: (utf8 text ++ (fence ++ suffix)))) with
      | none => rfl
      | some content =>
        obtain ⟨before, after, rest, same, opened, inside⟩ := fencedContent_eq_some matched
        obtain ⟨mark, rfl, -⟩ := openingFence_eq_some opened
        refine absurd ?_ (no_closing_line enclosed some unpadded alphanumeric other)
        rw [same]
        refine inside.trans ⟨before ++ (fence ++ mark ++ [newline]), [], by simp⟩
    have group : lazyGroup fence 0 (utf8 text ++ (fence ++ suffix)) = Option.some (utf8 text) := by
      rw [utf8_eq_flatMap]
      refine lazyGroup_text (by simp [fence]) (List.prefix_append fence suffix) _ ?_
      intro front back same filled
      rw [← utf8_eq_flatMap] at same
      exact fence_not_closing enclosed bare same filled _
    unfold stripMarkdownCodeFences
    rw [unclosed, fencedContent_tagged plain alphanumeric group]
    exact trimmed

def wholeRead : EStateM.Result Unit Reader.Input JsonText → Bool
  | .ok _ input => input.rest = []
  | .error _ _ => false

theorem validJson_of_wholeRead {text : Bytes} (fuel : Nat)
    (whole : wholeRead (Reader.jsonText fuel ⟨[], text⟩) = true) : Reader.ValidJson text := by
  cases read : Reader.jsonText fuel ⟨[], text⟩ with
  | error failure input =>
    rw [read] at whole
    cases whole
  | ok tree input =>
    rw [read] at whole
    obtain ⟨met, rest⟩ := input
    have done : rest = [] := by simpa [wholeRead] using whole
    exact Reader.Reads.valid ⟨fuel, tree, met, by rw [read, done]⟩

-- Half a surrogate pair, which the library would refuse.
example : Reader.ValidJson (utf8 "\"\\ud800\"") := by
  have valid : Reader.Reads (utf8 "\"\\u0041\"") := ⟨9, .string "A", _, rfl⟩
  have same : Reader.Respelled (utf8 "\"\\ud800\"") (utf8 "\"\\u0041\"") :=
    .byte 0x22 (@Reader.Respelled.unit [0x64, 0x38, 0x30, 0x30] [0x30, 0x30, 0x34, 0x31] _ _ rfl rfl
      (by decide +kernel) (by decide +kernel) (.byte 0x22 .nil))
  exact ⟨_, same, valid⟩

-- A string that holds a fence of its own, in an answer with prose around the block.
theorem quoted_fence_spared :
    stripMarkdownCodeFences (utf8 "Sure: `" ++ (fence ++ (utf8 "json" ++ newline ::
      (utf8 "[\n\"```sh\"\n]" ++ newline :: (fence ++ utf8 " and ```"))))) =
        utf8 "[\n\"```sh\"\n]" := by
  refine (fences_spare_json "[\n\"```sh\"\n]" (validJson_of_wholeRead 9 ?_) ?_).2.1 _ _ _ ?_ ?_
  · decide +kernel
  · constructor <;> decide +kernel
  · decide +kernel
  · decide +kernel

end Ztab
