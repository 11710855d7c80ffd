import Mathlib.Data.List.DropRight
import Mathlib.Data.List.Infix
import Ztab.Tee.LlamaEngine

set_option autoImplicit false

/-!
# Stop strings in generated text

`Generate` looks for a stop string at the end of the output, once after each piece. A stop string
that is completed inside a piece stays in the text, unless what is cut or trimmed later takes it
along.
-/

namespace Ztab

theorem exceptMap_ok {α β : Type} {f : α → β} {result : Except Status α} {mapped : β}
    (succeeded : result.map f = .ok mapped) : ∃ value, result = .ok value ∧ f value = mapped := by
  cases result with
  | error status => cases succeeded
  | ok value => exact ⟨value, rfl, Except.ok.inj succeeded⟩

section Pieces

variable {Context : Type} (llama : Llama Context)

-- The pieces the loop samples when no stop string ends it: up to the end of generation, the
-- limit of tokens or a failure to decode.
def sampledPieces (nTokens : Nat) : Nat → Nat → Decoding Context → List Bytes
  | 0, _, _ => []
  | remaining + 1, i, decoding =>
    let (context, newToken) := llama.sample decoding.context
    if llama.vocabIsEog newToken then []
    else
      let next := batchAdd (batchClear decoding.batch) newToken (nTokens + i) [0] true
      let (decoding, failed) := decodeBatch llama { decoding with context, batch := next }
      (llama.tokenToPiece newToken).getD [] ::
        if failed ≠ 0 then [] else sampledPieces nTokens remaining (i + 1) decoding

def LlamaEngine.sampledPieces (engine : LlamaEngine Context) (prompt : Bytes) (maxTokens : Int) :
    List Bytes :=
  match engine.ctx, llama.tokenize (chatTemplate prompt) engine.nCtx with
  | some context, .ok tokens =>
    let filled := fillPrompt tokens.length 0 tokens (batchClear engine.batch)
    let (decoding, _) := decodeBatch llama ⟨llama.clear context, filled⟩
    Ztab.sampledPieces llama tokens.length maxTokens.toNat 0 decoding
  | _, _ => []

end Pieces

-- The output of the loop over these pieces, before it is trimmed.
def haltText (stops : List Bytes) : Bytes → List Bytes → Bytes
  | output, [] => (cutAtStop stops output).getD output
  | output, piece :: later =>
    match cutAtStop stops output with
    | some cut => cut
    | none => haltText stops (output ++ piece) later

theorem cutAtStop_none {stops : List Bytes} {output : Bytes} :
    cutAtStop stops output = none ↔ ∀ stop ∈ stops, ¬ stop <:+ output := by
  simp [cutAtStop]

theorem cutAtStop_length {stops : List Bytes} {output cut : Bytes}
    (proper : ∀ stop ∈ stops, stop ≠ []) (found : cutAtStop stops output = some cut) :
    cut.length < output.length ∧ cut <+: output := by
  obtain ⟨stop, first, rfl⟩ := Option.map_eq_some_iff.mp found
  have ends : stop <:+ output := by simpa using List.find?_some first
  have size := ends.length_le
  have filled := List.length_pos_of_ne_nil (proper stop (List.mem_of_find?_eq_some first))
  refine ⟨?_, List.take_prefix _ _⟩
  rw [List.length_take]
  omega

theorem haltText_stopped {stops : List Bytes} {output cut : Bytes}
    (found : cutAtStop stops output = some cut) (later : List Bytes) :
    haltText stops output later = cut := by
  cases later <;> simp [haltText, found]

theorem generateTokens_text {Context : Type} (llama : Llama Context) {stops : List Bytes}
    (nTokens remaining i : Nat) (decoding : Decoding Context) (output text : Bytes)
    (clear : cutAtStop stops output = none)
    (returned : (generateTokens llama stops nTokens remaining i decoding output).2 = .ok text) :
    text = haltText stops output (sampledPieces llama nTokens remaining i decoding) := by
  induction remaining generalizing i decoding output with
  | zero =>
    cases returned
    simp [sampledPieces, haltText, clear]
  | succ remaining ih =>
    unfold generateTokens at returned
    unfold sampledPieces
    simp only at returned ⊢
    split at returned
    next ended =>
      cases returned
      simp [ended, haltText, clear]
    next going =>
      rw [if_neg going]
      simp only [haltText, clear]
      split at returned
      next cut found =>
        cases returned
        -- Whatever would have been sampled after the stop string is not looked at.
        exact (haltText_stopped found _).symm
      next missed =>
        split at returned
        next failed =>
          cases returned
        next decoded =>
          rw [if_neg decoded]
          exact ih _ _ _ missed returned

theorem LlamaEngine.generate_text {Context : Type} (llama : Llama Context)
    (engine : LlamaEngine Context) (proper : ∀ stop ∈ engine.stopStrings, stop ≠ [])
    (prompt : Bytes) (maxTokens : Int) (text : Bytes)
    (returned : (engine.generate llama prompt maxTokens).2 = .ok text) :
    text = trimOutput
      (haltText engine.stopStrings [] (engine.sampledPieces llama prompt maxTokens)) := by
  have clear : cutAtStop engine.stopStrings [] = none := by
    rw [cutAtStop_none]
    intro stop listed ends
    exact proper stop listed (List.suffix_nil.mp ends)
  unfold LlamaEngine.generate at returned
  unfold LlamaEngine.sampledPieces
  split at returned
  next => cases returned
  next context held =>
    split at returned
    next => cases returned
    next tokens fitted =>
      simp only [held, fitted]
      unfold generateFrom at returned
      simp only at returned
      split at returned
      next => cases returned
      next decoded =>
        obtain ⟨output, made, rfl⟩ := exceptMap_ok returned
        rw [generateTokens_text llama _ _ _ _ _ _ clear made]

def isTrimmed (byte : UInt8) : Bool := byte = 10 || byte = 32

def Unstopped (stops pieces : List Bytes) : Prop :=
  ∀ first, first <+: pieces → ∀ stop ∈ stops, ¬ stop <:+ first.flatten

def Trimmed (done following : Bytes) : Prop :=
  ∀ byte ∈ done.getLast?.toList ++ following, isTrimmed byte = true

-- At the end of a piece, `rest` behind `done`: a stop string ends the output, or the loop goes on.
def DroppedHere (stops : List Bytes) (done rest : Bytes) (onward : Prop) : Prop :=
  match stops.find? fun stop => stop.isSuffixOf (done ++ rest) with
  | some stop => rest.length < stop.length ∨ Trimmed done (rest.take (rest.length - stop.length))
  | none => onward

/-- What comes after `done` is `rest` and then the later pieces. The stop string that ends the loop
reaches back into `done`, or all that is left after it is trimmed together with its last byte. -/
def Dropped (stops : List Bytes) (done : Bytes) : Bytes → List Bytes → Prop
  | rest, [] => DroppedHere stops done rest (Trimmed done rest)
  | rest, piece :: later => DroppedHere stops done rest (Dropped stops done (rest ++ piece) later)

/-- Wherever a stop string ends before the end of a piece that the loop reaches, it is dropped from
the output again. -/
def StopsEndPieces (stops pieces : List Bytes) : Prop :=
  ∀ earlier start rest later, pieces = earlier ++ (start ++ rest) :: later → rest ≠ [] →
    Unstopped stops earlier → ∀ stop ∈ stops, stop <:+ earlier.flatten ++ start →
    Dropped stops (earlier.flatten ++ start) rest later

theorem trimOutput_begins (output : Bytes) : trimOutput output <+: output :=
  List.rdropWhile_prefix _ _

theorem prefix_trimOutput_iff {done : Bytes} (filled : done ≠ []) (following : Bytes) :
    done <+: trimOutput (done ++ following) ↔ ¬ Trimmed done following := by
  obtain ⟨start, last, rfl⟩ := (List.eq_nil_or_concat' done).resolve_left filled
  have trims (output : Bytes) : trimOutput output = output.rdropWhile isTrimmed := rfl
  unfold Trimmed
  rw [trims]
  induction following using List.reverseRecOn with
  | nil =>
    rw [List.append_nil]
    by_cases blank : isTrimmed last = true
    next =>
      rw [List.rdropWhile_concat_pos _ _ _ blank]
      have short := (List.rdropWhile_prefix isTrimmed start).length_le
      constructor
      · intro begins
        have long := begins.length_le
        simp only [List.length_append, List.length_singleton] at long
        omega
      · intro written
        simp [blank] at written
    next =>
      rw [List.rdropWhile_concat_neg _ _ _ blank]
      simp [blank]
  | append_singleton following byte ih =>
    rw [← List.append_assoc]
    by_cases blank : isTrimmed byte = true
    next =>
      rw [List.rdropWhile_concat_pos _ _ _ blank]
      refine ih.trans (not_congr ?_)
      rw [List.forall_mem_append, List.forall_mem_append, List.forall_mem_append]
      simp [blank]
    next =>
      rw [List.rdropWhile_concat_neg _ _ _ blank, ← List.append_assoc, List.forall_mem_append]
      simp [blank, List.append_assoc]

theorem droppedHere_iff {stops : List Bytes} {done : Bytes} (filled : done ≠ []) (rest : Bytes)
    (onward : Prop) (text : Bytes)
    (going : cutAtStop stops (done ++ rest) = none → (onward ↔ ¬ done <+: trimOutput text)) :
    DroppedHere stops done rest onward ↔
      ¬ done <+: trimOutput ((cutAtStop stops (done ++ rest)).getD text) := by
  unfold DroppedHere
  split
  next stop first =>
    have found : cutAtStop stops (done ++ rest) =
        some ((done ++ rest).take ((done ++ rest).length - stop.length)) := by
      simp [cutAtStop, first]
    rw [found, Option.getD_some]
    by_cases reaches : rest.length < stop.length
    next =>
      simp only [reaches, true_or, true_iff]
      intro begins
      have short := (begins.trans (trimOutput_begins _)).length_le
      have proper := List.length_pos_of_ne_nil filled
      simp only [List.length_take, List.length_append] at short
      omega
    next =>
      have kept : (done ++ rest).take ((done ++ rest).length - stop.length) =
          done ++ rest.take (rest.length - stop.length) := by
        rw [List.take_append, List.length_append, List.take_of_length_le (by omega)]
        congr 2
        omega
      rw [kept, prefix_trimOutput_iff filled, not_not, or_iff_right reaches]
  next unmatched =>
    have missed : cutAtStop stops (done ++ rest) = none := by simp [cutAtStop, unmatched]
    rw [missed, Option.getD_none]
    exact going missed

theorem dropped_iff {stops : List Bytes} {done : Bytes} (filled : done ≠ []) (rest : Bytes)
    (later : List Bytes) :
    Dropped stops done rest later ↔ ¬ done <+: trimOutput (haltText stops (done ++ rest) later) := by
  induction later generalizing rest with
  | nil =>
    refine droppedHere_iff filled rest _ (done ++ rest) ?_
    intro missed
    rw [prefix_trimOutput_iff filled, not_not]
  | cons piece later ih =>
    have onward : Dropped stops done (rest ++ piece) later ↔
        ¬ done <+: trimOutput (haltText stops (done ++ rest ++ piece) later) := by
      rw [ih (rest ++ piece), List.append_assoc]
    have halts : haltText stops (done ++ rest) (piece :: later) =
        (cutAtStop stops (done ++ rest)).getD (haltText stops (done ++ rest ++ piece) later) := by
      rw [haltText]
      cases cutAtStop stops (done ++ rest) <;> rfl
    rw [halts]
    exact droppedHere_iff filled rest _ _ fun missed => onward

theorem haltText_begins (stops : List Bytes) (output : Bytes) (later : List Bytes)
    (proper : ∀ stop ∈ stops, stop ≠ []) : haltText stops output later <+: output ++ later.flatten := by
  induction later generalizing output with
  | nil =>
    unfold haltText
    cases found : cutAtStop stops output with
    | none => simp
    | some cut => simpa using (cutAtStop_length proper found).2
  | cons piece later ih =>
    unfold haltText
    cases found : cutAtStop stops output with
    | none => simpa using ih (output ++ piece)
    | some cut => exact (cutAtStop_length proper found).2.trans (List.prefix_append _ _)

-- A stop string at the end of a piece ends the loop there, if nothing has before.
theorem haltText_length_lt {stops : List Bytes} (proper : ∀ stop ∈ stops, stop ≠ []) {stop : Bytes}
    (listed : stop ∈ stops) (first rest : List Bytes) (output : Bytes)
    (ends : stop <:+ output ++ first.flatten) :
    (haltText stops output (first ++ rest)).length < (output ++ first.flatten).length := by
  cases found : cutAtStop stops output with
  | some cut =>
    rw [haltText_stopped found]
    have short := (cutAtStop_length proper found).1
    rw [List.length_append]
    omega
  | none =>
    induction first generalizing output with
    | nil =>
      rw [List.flatten_nil, List.append_nil] at ends
      exact absurd ends (cutAtStop_none.mp found stop listed)
    | cons piece first ih =>
      rw [List.flatten_cons, ← List.append_assoc] at ends ⊢
      rw [List.cons_append]
      simp only [haltText, found]
      cases next : cutAtStop stops (output ++ piece) with
      | some cut =>
        rw [haltText_stopped next]
        have short := (cutAtStop_length proper next).1
        rw [List.length_append]
        omega
      | none => exact ih _ ends next

theorem haltText_unstopped {stops : List Bytes} (earlier later : List Bytes)
    (unstopped : Unstopped stops earlier) :
    haltText stops [] (earlier ++ later) = haltText stops earlier.flatten later := by
  induction earlier using List.reverseRecOn generalizing later with
  | nil => rfl
  | append_singleton earlier piece ih =>
    have before : Unstopped stops earlier :=
      fun first within => unstopped first (within.trans (List.prefix_append _ _))
    have missed := cutAtStop_none.mpr (before earlier (List.prefix_refl _))
    rw [List.append_assoc, ih _ before, List.singleton_append]
    simp [haltText, missed]

theorem prefix_flatten_split {done : Bytes} (filled : done ≠ []) (pieces : List Bytes)
    (begins : done <+: pieces.flatten) :
    ∃ earlier start rest later, pieces = earlier ++ (start ++ rest) :: later ∧
      done = earlier.flatten ++ start := by
  induction pieces generalizing done with
  | nil => exact absurd (List.prefix_nil.mp begins) filled
  | cons piece pieces ih =>
    rw [List.flatten_cons] at begins
    obtain ⟨rest, rfl⟩ | ⟨remaining, rfl⟩ :=
      List.prefix_or_prefix_of_prefix begins (List.prefix_append piece pieces.flatten)
    · exact ⟨[], done, rest, pieces, rfl, rfl⟩
    · rw [List.prefix_append_right_inj] at begins
      by_cases more : remaining = []
      next =>
        refine ⟨[], piece, [], pieces, ?_, ?_⟩ <;> simp [more]
      next =>
        obtain ⟨earlier, start, rest, later, rfl, rfl⟩ := ih more begins
        exact ⟨piece :: earlier, start, rest, later, rfl, by simp⟩

-- A stop string in the text ends inside a piece, since the loop would have ended with the piece.
theorem stopsEndPieces_iff {stops : List Bytes} (proper : ∀ stop ∈ stops, stop ≠ [])
    (pieces : List Bytes) :
    (∀ stop ∈ stops, ¬ stop <:+: trimOutput (haltText stops [] pieces)) ↔
      StopsEndPieces stops pieces := by
  constructor
  · intro clean earlier start rest later split inside unstopped stop listed ends
    have filled : earlier.flatten ++ start ≠ [] := by
      rintro empty
      rw [empty, List.suffix_nil] at ends
      exact proper stop listed ends
    rw [dropped_iff filled, List.append_assoc]
    intro begins
    apply clean stop listed
    rw [split, haltText_unstopped _ _ unstopped]
    have missed := cutAtStop_none.mpr (unstopped earlier (List.prefix_refl _))
    simp only [haltText, missed]
    exact ends.isInfix.trans begins.isInfix
  · intro aligned stop listed inside
    obtain ⟨done, ends, begins⟩ := List.infix_iff_suffix_prefix.mp inside
    have filled : done ≠ [] := by
      rintro rfl
      exact proper stop listed (List.suffix_nil.mp ends)
    have kept := begins.trans (trimOutput_begins _)
    obtain ⟨earlier, start, rest, later, rfl, rfl⟩ := prefix_flatten_split filled pieces
      (kept.trans (by simpa using haltText_begins stops [] pieces proper))
    have reached (first unread : List Bytes) (same : earlier ++ (start ++ rest) :: later = first ++ unread)
        (other : Bytes) (held : other ∈ stops) (short : first.flatten.length ≤ (earlier.flatten ++ start).length) :
        ¬ other <:+ first.flatten := by
      intro ended
      have lost := haltText_length_lt proper held first unread [] (by simpa using ended)
      rw [← same, List.nil_append] at lost
      have long := kept.length_le
      omega
    have unstopped : Unstopped stops earlier := by
      rintro first ⟨others, rfl⟩ other held
      refine reached first (others ++ (start ++ rest) :: later) (by simp) other held ?_
      simp only [List.flatten_append, List.length_append]
      omega
    have within : rest ≠ [] := by
      rintro rfl
      refine reached (earlier ++ [start]) later (by simp) stop listed (by simp) ?_
      simpa using ends
    have gone := aligned earlier start rest later rfl within unstopped stop listed ends
    rw [dropped_iff filled, List.append_assoc] at gone
    apply gone
    have missed := cutAtStop_none.mpr (unstopped earlier (List.prefix_refl _))
    rw [haltText_unstopped _ _ unstopped] at begins
    simpa only [haltText, missed] using begins

/-- The text is a beginning of the pieces, but for blanks and newlines at its end. -/
def PrefixUpToBlanks (text : Bytes) (pieces : List Bytes) : Prop :=
  ∃ blanks, (∀ byte ∈ blanks, isTrimmed byte = true) ∧ text ++ blanks <+: pieces.flatten

theorem trimOutput_prefixUpToBlanks {output : Bytes} {pieces : List Bytes}
    (begins : output <+: pieces.flatten) : PrefixUpToBlanks (trimOutput output) pieces := by
  refine ⟨output.rtakeWhile isTrimmed, fun byte held => List.mem_rtakeWhile_imp held, ?_⟩
  have whole : trimOutput output ++ output.rtakeWhile isTrimmed = output :=
    List.rdropWhile_append_rtakeWhile
  rw [whole]
  exact begins

/-- The text is cut at the stop strings exactly when none of them is left inside a piece. -/
theorem generated_text_cut_iff {Context : Type} (llama : Llama Context)
    (engine : LlamaEngine Context) (proper : ∀ stop ∈ engine.stopStrings, stop ≠ [])
    (prompt : Bytes) (maxTokens : Int) (text : Bytes)
    (returned : (engine.generate llama prompt maxTokens).2 = .ok text) :
    ((∀ stop ∈ engine.stopStrings, ¬ stop <:+: text) ∧
        PrefixUpToBlanks text (engine.sampledPieces llama prompt maxTokens)) ↔
      StopsEndPieces engine.stopStrings (engine.sampledPieces llama prompt maxTokens) := by
  obtain rfl := engine.generate_text llama proper prompt maxTokens text returned
  rw [stopsEndPieces_iff proper]
  refine and_iff_left (trimOutput_prefixUpToBlanks ?_)
  simpa using haltText_begins engine.stopStrings [] _ proper

-- A model that answers with the given pieces, a token for each of them.
def scriptedLlama (pieces : List Bytes) : Llama Nat where
  initFromModel _ := some 0
  vocabEot := -1
  tokenToPiece token := pieces[token.toNat]?
  tokenize text size := if text.length ≤ size then .ok [0] else .error (-text.length)
  clear _ := 0
  decode context _ := (context, 0)
  sample context := (context + 1, context)
  vocabIsEog token := decide (pieces.length ≤ token.toNat)

def splitStop : List Bytes := [utf8 "Hi", utf8 "<end", utf8 "_of_turn", utf8 ">"]

def newlineStop : List Bytes := [utf8 "Hi", utf8 "<end", utf8 "_of_turn", utf8 ">\n"]

-- The last token completes the stop string, and is cut off with it.
theorem split_stop_cut :
    StopsEndPieces [kEndOfTurn, kStartOfTurn]
      ((LlamaEngine.new (scriptedLlama splitStop) 128).sampledPieces (scriptedLlama splitStop)
        (utf8 "Say hi.") 16) := by
  refine (generated_text_cut_iff (scriptedLlama splitStop)
    (LlamaEngine.new (scriptedLlama splitStop) 128) ?_ (utf8 "Say hi.") 16 (utf8 "Hi") ?_).mp ⟨?_, ?_⟩
  · decide
  · decide +kernel
  · decide +kernel
  · exact ⟨[], by simp, by decide +kernel⟩

-- A newline stands after it in the same token, and the text says "Hi<end_of_turn>".
theorem newline_after_stop_keeps_it :
    ∃ text, ((LlamaEngine.new (scriptedLlama newlineStop) 128).generate (scriptedLlama newlineStop)
        (utf8 "Say hi.") 16).2 = .ok text ∧
      ∃ stop ∈ (LlamaEngine.new (scriptedLlama newlineStop) 128).stopStrings, stop <:+: text := by
  refine ⟨utf8 "Hi<end_of_turn>", by decide +kernel, kEndOfTurn, ?_, ?_⟩
  · decide
  · decide +kernel

end Ztab
