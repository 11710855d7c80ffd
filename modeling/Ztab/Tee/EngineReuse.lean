import Ztab.Tee.BatchBounds

set_option autoImplicit false

/-!
# One context for all generations

The engine keeps one context and one batch for its lifetime. A call of Generate clears the memory
and the sampler and overwrites the slots it uses, so that it decodes nothing but its own prompt and
its own tokens, and answers what an engine that never served anybody answers.
-/

namespace Ztab

def promptSlots (tokens : List LlamaToken) : List BatchSlot :=
  tokens.mapIdx fun i token => ⟨token, i, [0], decide (i + 1 = tokens.length)⟩

-- One batch for each token that is generated, at the positions from `first` on.
def continuation (first : Nat) (sampled : List LlamaToken) : List (List BatchSlot) :=
  sampled.mapIdx fun i token => [⟨token, ((first + i : Nat) : Int), [0], true⟩]

theorem continuation_cons (first : Nat) (token : LlamaToken) (rest : List LlamaToken) :
    continuation first (token :: rest) =
      [⟨token, first, [0], true⟩] :: continuation (first + 1) rest := by
  unfold continuation
  rw [List.mapIdx_cons]
  simp only [Nat.add_zero, Nat.add_assoc, Nat.add_comm 1]

@[simp] theorem batchClear_filled (batch : LlamaBatch) : (batchClear batch).filled = [] := rfl

-- A slot is written behind those that count, and nothing before it changes.
@[simp] theorem batchAdd_filled (batch : LlamaBatch) (token : LlamaToken) (pos : Int)
    (seqIds : List Int) (logits : Bool) :
    (batchAdd batch token pos seqIds logits).filled =
      batch.filled ++ [⟨token, pos, seqIds, logits⟩] := by
  simp only [LlamaBatch.filled, batchAdd, List.range_succ, List.map_append, List.map_singleton,
    Function.update_self]
  congr 1
  apply List.map_congr_left
  intro index below
  have apart : index ≠ batch.nTokens := by
    have bound := List.mem_range.mp below
    omega
  exact Function.update_of_ne apart _ _

theorem fillPrompt_filled (nTokens i : Nat) (tokens : List LlamaToken) (batch : LlamaBatch) :
    (fillPrompt nTokens i tokens batch).filled =
      batch.filled ++ tokens.mapIdx fun index token =>
        ⟨token, ((i + index : Nat) : Int), [0], decide (i + index + 1 = nTokens)⟩ := by
  induction tokens generalizing i batch with
  | nil => simp [fillPrompt]
  | cons token rest ih =>
    rw [fillPrompt, ih, batchAdd_filled, List.mapIdx_cons, List.append_assoc]
    simp only [Nat.add_zero, Nat.add_assoc, Nat.add_comm 1, List.singleton_append]

theorem fillPrompt_cleared (tokens : List LlamaToken) (batch : LlamaBatch) :
    (fillPrompt tokens.length 0 tokens (batchClear batch)).filled = promptSlots tokens := by
  rw [fillPrompt_filled, batchClear_filled, List.nil_append]
  simp only [Nat.zero_add]
  rfl

section Reuse

variable {Context : Type} (llama : Llama Context)

theorem generateTokens_succ (stopStrings : List Bytes) (nTokens remaining i : Nat)
    (context : Context) (batch : LlamaBatch) (output : Bytes) :
    generateTokens llama stopStrings nTokens (remaining + 1) i ⟨context, batch⟩ output =
      let sampled := llama.sample context
      let text := output ++ (llama.tokenToPiece sampled.2).getD []
      let next := batchAdd (batchClear batch) sampled.2 (nTokens + i) [0] true
      let decoded := llama.decode sampled.1 [⟨sampled.2, ((nTokens + i : Nat) : Int), [0], true⟩]
      if llama.vocabIsEog sampled.2 then (⟨sampled.1, batch⟩, .ok output)
      else
        match cutAtStop stopStrings text with
        | some cut => (⟨sampled.1, batch⟩, .ok cut)
        | none =>
          if decoded.2 ≠ 0 then (⟨decoded.1, next⟩,
            .error ⟨.internal, "llama_decode failed at token " ++ toString i⟩)
          else generateTokens llama stopStrings nTokens remaining (i + 1) ⟨decoded.1, next⟩ text := by
  simp only [generateTokens, decodeBatch, batchAdd_filled, batchClear_filled]
  rfl

theorem generateTokens_batch (stopStrings : List Bytes) (nTokens remaining i : Nat)
    (context : Context) (batch other : LlamaBatch) (output : Bytes) :
    let left := generateTokens llama stopStrings nTokens remaining i ⟨context, batch⟩ output
    let right := generateTokens llama stopStrings nTokens remaining i ⟨context, other⟩ output
    left.1.context = right.1.context ∧ left.2 = right.2 := by
  induction remaining generalizing i context batch other output with
  | zero => exact ⟨rfl, rfl⟩
  | succ remaining ih =>
    simp only [generateTokens_succ]
    split
    · exact ⟨rfl, rfl⟩
    · split
      · exact ⟨rfl, rfl⟩
      · split
        · exact ⟨rfl, rfl⟩
        · exact ih _ _ _ _ _

theorem generateFrom_cleared (stopStrings : List Bytes) (tokens : List LlamaToken) (maxTokens : Int)
    (context fresh : Context) (batch other : LlamaBatch)
    (cleared : llama.clear context = llama.clear fresh) :
    (generateFrom llama stopStrings tokens maxTokens ⟨context, batch⟩).2 =
      (generateFrom llama stopStrings tokens maxTokens ⟨fresh, other⟩).2 := by
  unfold generateFrom
  simp only [decodeBatch, fillPrompt_cleared, cleared]
  split
  · rfl
  · rw [(generateTokens_batch llama stopStrings tokens.length maxTokens.toNat 0 _ _ _ []).2]

inductive Llama.Held (nCtx : Nat) : Context → Prop
  | made {context : Context} (made : llama.initFromModel nCtx = some context) : Held nCtx context
  | cleared {context : Context} (held : Held nCtx context) : Held nCtx (llama.clear context)
  | decoded {context : Context} (slots : List BatchSlot) (held : Held nCtx context) :
      Held nCtx (llama.decode context slots).1
  | sampled {context : Context} (held : Held nCtx context) : Held nCtx (llama.sample context).1

/-- Clearing the memory with its data and resetting the sampler leave nothing of what was decoded and
sampled before. -/
def Llama.Forgets (nCtx : Nat) : Prop :=
  ∀ context fresh, llama.Held nCtx context → llama.initFromModel nCtx = some fresh →
    llama.clear context = llama.clear fresh

variable {llama} {nCtx : Nat}

theorem generateTokens_held (stopStrings : List Bytes) (nTokens remaining i : Nat)
    (decoding : Decoding Context) (output : Bytes) (held : llama.Held nCtx decoding.context) :
    llama.Held nCtx
      (generateTokens llama stopStrings nTokens remaining i decoding output).1.context := by
  induction remaining generalizing i decoding output with
  | zero => exact held
  | succ remaining ih =>
    rcases decoding with ⟨context, batch⟩
    simp only [generateTokens_succ]
    split
    · exact held.sampled
    · split
      · exact held.sampled
      · split
        · exact held.sampled.decoded _
        · exact ih _ _ _ (held.sampled.decoded _)

theorem generateFrom_held (stopStrings : List Bytes) (tokens : List LlamaToken) (maxTokens : Int)
    (decoding : Decoding Context) (held : llama.Held nCtx decoding.context) :
    llama.Held nCtx (generateFrom llama stopStrings tokens maxTokens decoding).1.context := by
  unfold generateFrom
  simp only
  split
  · exact held.cleared.decoded _
  · exact generateTokens_held _ _ _ _ _ _ (held.cleared.decoded _)

namespace LlamaEngine

/-- An engine that may have served others: it differs from a new one in what its context and its
batch hold. -/
structure Reused (llama : Llama Context) (nCtx : Nat) (engine : LlamaEngine Context) : Prop where
  nCtx_eq : engine.nCtx = nCtx
  stopStrings_eq : engine.stopStrings = (new llama nCtx).stopStrings
  isSome_eq : engine.ctx.isSome = (llama.initFromModel nCtx).isSome
  held : ∀ context, engine.ctx = some context → llama.Held nCtx context

theorem new_reused (llama : Llama Context) (nCtx : Nat) : (new llama nCtx).Reused llama nCtx where
  nCtx_eq := rfl
  stopStrings_eq := rfl
  isSome_eq := rfl
  held _ made := .made made

theorem Reused.generate {engine : LlamaEngine Context} (reused : engine.Reused llama nCtx)
    (prompt : Bytes) (maxTokens : Int) :
    (engine.generate llama prompt maxTokens).1.Reused llama nCtx := by
  unfold LlamaEngine.generate
  split
  next => exact reused
  next context ready =>
    split
    next => exact reused
    next tokens tokenized =>
      have some_eq := reused.isSome_eq
      rw [ready] at some_eq
      exact ⟨reused.nCtx_eq, reused.stopStrings_eq, some_eq, fun later same => by
        cases same
        exact generateFrom_held _ _ _ _ (reused.held context ready)⟩

theorem reused_of_reachable {engine : LlamaEngine Context}
    (reachable : (engineMachine llama nCtx).Reachable engine) : engine.Reused llama nCtx :=
  (engineMachine llama nCtx).reachable_invariant (fun engine => engine.Reused llama nCtx)
    (new_reused llama nCtx) (fun _ call reused => reused.generate call.prompt call.maxTokens)
    engine reachable

theorem Reused.answers_as_new {engine : LlamaEngine Context} (reused : engine.Reused llama nCtx)
    (forgets : llama.Forgets nCtx) (prompt : Bytes) (maxTokens : Int) :
    (engine.generate llama prompt maxTokens).2 =
      ((new llama nCtx).generate llama prompt maxTokens).2 := by
  have some_eq := reused.isSome_eq
  unfold LlamaEngine.generate
  rw [reused.nCtx_eq, reused.stopStrings_eq]
  cases ready : engine.ctx with
  | none =>
    rw [ready] at some_eq
    have missing : llama.initFromModel nCtx = none := by simpa using some_eq.symm
    simp only [new, missing]
  | some context =>
    rw [ready] at some_eq
    obtain ⟨fresh, made⟩ := Option.isSome_iff_exists.mp some_eq.symm
    simp only [new, made]
    split
    next => rfl
    next tokens tokenized =>
      exact generateFrom_cleared llama _ _ _ _ _ _ _
        (forgets context fresh (reused.held context ready) made)

end LlamaEngine

def Llama.recording (llama : Llama Context) : Llama (Context × List (List BatchSlot)) where
  initFromModel nCtx := (llama.initFromModel nCtx).map fun context => (context, [])
  vocabEot := llama.vocabEot
  tokenToPiece := llama.tokenToPiece
  tokenize := llama.tokenize
  clear recorded := (llama.clear recorded.1, [])
  decode recorded slots :=
    let (context, failed) := llama.decode recorded.1 slots
    ((context, recorded.2 ++ [slots]), failed)
  sample recorded :=
    let (context, token) := llama.sample recorded.1
    ((context, recorded.2), token)
  vocabIsEog := llama.vocabIsEog

@[simp] theorem recording_decode (recorded : Context × List (List BatchSlot)) (slots : List BatchSlot) :
    llama.recording.decode recorded slots =
      (((llama.decode recorded.1 slots).1, recorded.2 ++ [slots]), (llama.decode recorded.1 slots).2) :=
  rfl

@[simp] theorem recording_sample (recorded : Context × List (List BatchSlot)) :
    llama.recording.sample recorded =
      (((llama.sample recorded.1).1, recorded.2), (llama.sample recorded.1).2) := rfl

@[simp] theorem recording_clear (recorded : Context × List (List BatchSlot)) :
    llama.recording.clear recorded = (llama.clear recorded.1, []) := rfl

@[simp] theorem recording_vocabIsEog : llama.recording.vocabIsEog = llama.vocabIsEog := rfl

@[simp] theorem recording_tokenToPiece : llama.recording.tokenToPiece = llama.tokenToPiece := rfl

theorem generateTokens_recording (stopStrings : List Bytes) (nTokens remaining i : Nat)
    (context : Context) (decoded : List (List BatchSlot)) (batch : LlamaBatch) (output : Bytes) :
    ∃ sampled : List LlamaToken, sampled.length ≤ remaining ∧
      generateTokens llama.recording stopStrings nTokens remaining i ⟨(context, decoded), batch⟩
          output =
        let plain := generateTokens llama stopStrings nTokens remaining i ⟨context, batch⟩ output
        (⟨(plain.1.context, decoded ++ continuation (nTokens + i) sampled), plain.1.batch⟩,
          plain.2) := by
  induction remaining generalizing i context decoded batch output with
  | zero => exact ⟨[], le_rfl, by simp [generateTokens, continuation]⟩
  | succ remaining ih =>
    simp only [generateTokens_succ, recording_decode, recording_sample, recording_vocabIsEog,
      recording_tokenToPiece]
    by_cases ended : llama.vocabIsEog (llama.sample context).2 = true
    next => exact ⟨[], by simp, by simp [ended, continuation]⟩
    next =>
      cases cutAtStop stopStrings (output ++ (llama.tokenToPiece (llama.sample context).2).getD []) with
      | some cut => exact ⟨[], by simp, by simp [ended, continuation]⟩
      | none =>
        by_cases failed : (llama.decode (llama.sample context).1
          [⟨(llama.sample context).2, ((nTokens + i : Nat) : Int), [0], true⟩]).2 ≠ 0
        next =>
          refine ⟨[(llama.sample context).2], by simp, ?_⟩
          simp only [ended, failed, Bool.false_eq_true, if_false, if_true, ne_eq, not_false_eq_true]
          rfl
        next =>
          obtain ⟨sampled, short, later⟩ := ih (i + 1) _ _ _ _
          refine ⟨(llama.sample context).2 :: sampled, by simpa using short, ?_⟩
          simp only [ended, failed, Bool.false_eq_true, if_false]
          rw [continuation_cons, List.append_cons decoded _ (continuation _ sampled)]
          exact later

theorem generateFrom_recording (llama : Llama Context) (stopStrings : List Bytes) (tokens : List LlamaToken)
    (maxTokens : Int) (context : Context) (decoded : List (List BatchSlot)) (batch : LlamaBatch) :
    ∃ sampled : List LlamaToken, sampled.length ≤ maxTokens.toNat ∧
      generateFrom llama.recording stopStrings tokens maxTokens ⟨(context, decoded), batch⟩ =
        let plain := generateFrom llama stopStrings tokens maxTokens ⟨context, batch⟩
        (⟨(plain.1.context, promptSlots tokens :: continuation tokens.length sampled),
          plain.1.batch⟩, plain.2) := by
  unfold generateFrom
  simp only [decodeBatch, fillPrompt_cleared, recording_decode, recording_clear]
  split
  next failed => exact ⟨[], by simp, by simp [continuation]⟩
  next going =>
    obtain ⟨sampled, short, later⟩ := generateTokens_recording stopStrings tokens.length
      maxTokens.toNat 0 (llama.decode (llama.clear context) (promptSlots tokens)).1
      [promptSlots tokens] (fillPrompt tokens.length 0 tokens (batchClear batch)) []
    refine ⟨sampled, short, ?_⟩
    rw [List.nil_append, later]
    rfl

theorem recording_answers (llama : Llama Context) (nCtx : Nat) (prompt : Bytes) (maxTokens : Int) :
    ((LlamaEngine.new llama.recording nCtx).generate llama.recording prompt maxTokens).2 =
      ((LlamaEngine.new llama nCtx).generate llama prompt maxTokens).2 := by
  unfold LlamaEngine.generate
  cases made : llama.initFromModel nCtx with
  | none => simp [LlamaEngine.new, Llama.recording, made]
  | some context =>
    simp only [LlamaEngine.new, made, Llama.recording, Option.map_some]
    split
    next => rfl
    next tokens tokenized =>
      obtain ⟨sampled, -, equal⟩ := generateFrom_recording llama
        (LlamaEngine.new llama nCtx).stopStrings tokens maxTokens context [] {}
      exact congrArg Prod.snd equal

theorem recording_held {recorded : Context × List (List BatchSlot)}
    (held : llama.recording.Held nCtx recorded) : llama.Held nCtx recorded.1 := by
  induction held with
  | made made =>
    obtain ⟨context, built, rfl⟩ := Option.map_eq_some_iff.mp made
    exact .made built
  | cleared _ ih => exact ih.cleared
  | decoded slots _ ih => exact ih.decoded slots
  | sampled _ ih => exact ih.sampled

theorem Llama.Forgets.recording (forgets : llama.Forgets nCtx) : llama.recording.Forgets nCtx := by
  intro recorded fresh held made
  obtain ⟨context, built, rfl⟩ := Option.map_eq_some_iff.mp made
  have cleared := forgets recorded.1 context (recording_held held) built
  simp only [Llama.recording, cleared]

theorem promptSlots_length (tokens : List LlamaToken) : (promptSlots tokens).length = tokens.length :=
  List.length_mapIdx

theorem continuation_single {first : Nat} {sampled : List LlamaToken} {slots : List BatchSlot}
    (decoded : slots ∈ continuation first sampled) : slots.length = 1 := by
  obtain ⟨i, inside, rfl⟩ := List.mem_mapIdx.mp decoded
  rfl

/-- No call of Generate sees anything of an earlier one: it answers as a new engine does, and all
that its memory holds is its own prompt from position 0 on and its own tokens after it, each batch
with the logits of its last token only and within the size of the batch. -/
theorem generations_independent (llama : Llama Context) (nCtx : Nat) (forgets : llama.Forgets nCtx)
    (earlier : List GenerateCall) (call : GenerateCall)
    (fits : ∀ other ∈ earlier ++ [call], (LlamaEngine.new llama nCtx).PromptFits llama other.prompt) :
    let engine := (engineMachine llama.recording nCtx).after
      (engineMachine llama.recording nCtx).initial earlier
    let answered := engine.generate llama.recording call.prompt call.maxTokens
    answered.2 = ((LlamaEngine.new llama nCtx).generate llama call.prompt call.maxTokens).2 ∧
      ∀ tokens, llama.tokenize (chatTemplate call.prompt) nCtx = .ok tokens →
        ∀ context decoded, answered.1.ctx = some (context, decoded) →
          (∃ sampled, sampled.length ≤ call.maxTokens.toNat ∧
            decoded = promptSlots tokens :: continuation tokens.length sampled) ∧
          ∀ batch ∈ decoded, batch.length ≤ kBatchSize := by
  intro engine answered
  have reused : engine.Reused llama.recording nCtx :=
    LlamaEngine.reused_of_reachable ⟨earlier, rfl⟩
  constructor
  · rw [← recording_answers]
    exact reused.answers_as_new forgets.recording call.prompt call.maxTokens
  · intro tokens tokenized context decoded held
    have filled : ∃ sampled, sampled.length ≤ call.maxTokens.toNat ∧
        decoded = promptSlots tokens :: continuation tokens.length sampled := by
      have same : llama.recording.tokenize (chatTemplate call.prompt) engine.nCtx = .ok tokens := by
        rw [reused.nCtx_eq]
        exact tokenized
      simp only [answered, LlamaEngine.generate] at held
      cases ready : engine.ctx with
      | none => simp [ready] at held
      | some recorded =>
        obtain ⟨sampled, short, equal⟩ := generateFrom_recording llama engine.stopStrings
          tokens call.maxTokens recorded.1 recorded.2 engine.batch
        simp only [ready, same, equal, Option.some.injEq, Prod.mk.injEq] at held
        exact ⟨sampled, short, held.2.symm⟩
    refine ⟨filled, ?_⟩
    obtain ⟨sampled, -, rfl⟩ := filled
    intro batch listed
    have positive : 0 < kBatchSize := by decide
    rcases List.mem_cons.mp listed with rfl | later
    · rw [promptSlots_length]
      have ready : (LlamaEngine.new llama nCtx).ctx.isSome := by
        have some_eq := (reused.generate call.prompt call.maxTokens).isSome_eq
        simp only [answered] at held
        rw [held] at some_eq
        have made : (llama.initFromModel nCtx).isSome = true := by
          simpa [Llama.recording] using some_eq.symm
        exact made
      exact fits call (by simp) ready tokens tokenized
    · rw [continuation_single later]
      exact positive

end Reuse

-- A model whose next token tells how much its memory holds.
def countingLlama : Llama (List LlamaToken) where
  initFromModel _ := some []
  vocabEot := -1
  tokenToPiece token := some [UInt8.ofNat token.toNat]
  tokenize text size :=
    if text.length ≤ size then .ok (text.map fun byte => (byte.toNat : Int)) else .error (-text.length)
  clear _ := []
  decode context slots := (context ++ slots.map (·.token), 0)
  sample context := (context, 97 + context.length % 26)
  vocabIsEog _ := false

theorem second_generation_independent :
    countingLlama.Forgets 4096 ∧
      let engine := (engineMachine countingLlama.recording 4096).after
        (engineMachine countingLlama.recording 4096).initial [⟨utf8 "first", 3⟩]
      (engine.generate countingLlama.recording (utf8 "second") 3).2 =
        ((LlamaEngine.new countingLlama 4096).generate countingLlama (utf8 "second") 3).2 := by
  have forgets : countingLlama.Forgets 4096 := fun _ _ _ _ => rfl
  refine ⟨forgets, ?_⟩
  have fits : ∀ call ∈ [(⟨utf8 "first", 3⟩ : GenerateCall)] ++ [⟨utf8 "second", 3⟩],
      (LlamaEngine.new countingLlama 4096).PromptFits countingLlama call.prompt := by
    intro call listed _ tokens tokenized
    have short : (chatTemplate call.prompt).length ≤ kBatchSize := by
      simp only [List.singleton_append, List.mem_cons, List.not_mem_nil, or_false] at listed
      rcases listed with rfl | rfl <;> decide
    simp only [countingLlama] at tokenized
    split at tokenized
    · cases tokenized
      rwa [List.length_map]
    · cases tokenized
  exact (generations_independent countingLlama 4096 forgets [⟨utf8 "first", 3⟩] ⟨utf8 "second", 3⟩
    fits).1

end Ztab
