import Ztab.Tee.LlamaEngine

set_option autoImplicit false

/-!
# The bounds of the batch

The batch has `kBatchSize` slots. The prompt fills one slot a token, and the number
of tokens is bounded by the context alone.
-/

namespace Ztab

def LlamaBatch.WithinCapacity (batch : LlamaBatch) : Prop := ∀ index ∈ batch.stored, index < kBatchSize

@[simp] theorem batchAdd_stored (batch : LlamaBatch) (token : LlamaToken) (pos : Int)
    (seqIds : List Int) (logits : Bool) :
    (batchAdd batch token pos seqIds logits).stored = batch.stored ++ [batch.nTokens] := rfl

theorem fillPrompt_stored (nTokens i : Nat) (tokens : List LlamaToken) (batch : LlamaBatch) :
    (fillPrompt nTokens i tokens batch).stored =
      batch.stored ++ List.range' batch.nTokens tokens.length := by
  induction tokens generalizing i batch with
  | nil => simp [fillPrompt]
  | cons token rest ih =>
    rw [fillPrompt, ih, batchAdd_stored, List.length_cons, List.range'_succ, List.append_assoc]
    rfl

section Generate

variable {Context : Type} (llama : Llama Context)

@[simp] theorem decodeBatch_batch (decoding : Decoding Context) :
    (decodeBatch llama decoding).1.batch = decoding.batch := rfl

theorem generateTokens_stored (stopStrings : List Bytes) (nTokens remaining i : Nat)
    (decoding : Decoding Context) (output : Bytes) :
    ∃ added, (generateTokens llama stopStrings nTokens remaining i decoding output).1.batch.stored =
      decoding.batch.stored ++ List.replicate added 0 := by
  induction remaining generalizing i decoding output with
  | zero => exact ⟨0, by simp [generateTokens]⟩
  | succ remaining ih =>
    unfold generateTokens
    simp only
    split
    · exact ⟨0, by simp⟩
    · split
      · exact ⟨0, by simp⟩
      · split
        · exact ⟨1, rfl⟩
        · obtain ⟨added, later⟩ := ih (i + 1) _ _
          refine ⟨added + 1, later.trans ?_⟩
          simp [batchClear, List.replicate_succ]

theorem generateFrom_within_iff (stopStrings : List Bytes) (tokens : List LlamaToken)
    (maxTokens : Int) (decoding : Decoding Context) :
    (generateFrom llama stopStrings tokens maxTokens decoding).1.batch.WithinCapacity ↔
      decoding.batch.WithinCapacity ∧ tokens.length ≤ kBatchSize := by
  have stored : ∃ added,
      (generateFrom llama stopStrings tokens maxTokens decoding).1.batch.stored =
        decoding.batch.stored ++ List.range' 0 tokens.length ++ List.replicate added 0 := by
    have filled := fillPrompt_stored tokens.length 0 tokens (batchClear decoding.batch)
    unfold generateFrom
    simp only
    split_ifs
    · exact ⟨0, by simpa [batchClear] using filled⟩
    · obtain ⟨added, later⟩ := generateTokens_stored llama stopStrings tokens.length
        maxTokens.toNat 0 (decodeBatch llama ⟨llama.clear decoding.context,
          fillPrompt tokens.length 0 tokens (batchClear decoding.batch)⟩).1 []
      refine ⟨added, later.trans ?_⟩
      rw [decodeBatch_batch, filled]
      rfl
  obtain ⟨added, stored⟩ := stored
  have positive : 0 < kBatchSize := by decide
  unfold LlamaBatch.WithinCapacity
  rw [stored]
  constructor
  · intro within
    refine ⟨fun index earlier => within index (by simp [earlier]), ?_⟩
    by_contra long
    have last := within kBatchSize (by simp; omega)
    exact absurd last (lt_irrefl _)
  · rintro ⟨within, short⟩ index listed
    rcases List.mem_append.mp listed with listed | later
    · rcases List.mem_append.mp listed with earlier | filled
      · exact within index earlier
      · have bound := List.mem_range'_1.mp filled
        omega
    · rw [List.eq_of_mem_replicate later]
      exact positive

/-- The prompt, in the chat template, has a slot for each of its tokens. -/
def LlamaEngine.PromptFits (engine : LlamaEngine Context) (prompt : Bytes) : Prop :=
  engine.ctx.isSome → ∀ tokens,
    llama.tokenize (chatTemplate prompt) engine.nCtx = .ok tokens → tokens.length ≤ kBatchSize

namespace LlamaEngine

theorem generate_within_iff (engine : LlamaEngine Context) (prompt : Bytes) (maxTokens : Int) :
    (engine.generate llama prompt maxTokens).1.batch.WithinCapacity ↔
      engine.batch.WithinCapacity ∧ engine.PromptFits llama prompt := by
  unfold generate PromptFits
  cases ready : engine.ctx with
  | none => simp
  | some context =>
    cases tokenized : llama.tokenize (chatTemplate prompt) engine.nCtx with
    | error nTokens => simp
    | ok tokens =>
      have within := generateFrom_within_iff llama engine.stopStrings tokens maxTokens
        ⟨context, engine.batch⟩
      simpa using within

theorem generate_keeps (engine : LlamaEngine Context) (prompt : Bytes) (maxTokens : Int) :
    (engine.generate llama prompt maxTokens).1.nCtx = engine.nCtx ∧
      (engine.generate llama prompt maxTokens).1.ctx.isSome = engine.ctx.isSome := by
  unfold generate
  cases ready : engine.ctx with
  | none => exact ⟨rfl, by simp [ready]⟩
  | some context =>
    cases tokenized : llama.tokenize (chatTemplate prompt) engine.nCtx with
    | error nTokens => exact ⟨rfl, by simp [ready]⟩
    | ok tokens => exact ⟨rfl, rfl⟩

theorem after_within_iff (nCtx : Nat) (calls : List GenerateCall) (engine : LlamaEngine Context) :
    ((engineMachine llama nCtx).after engine calls).batch.WithinCapacity ↔
      engine.batch.WithinCapacity ∧ ∀ call ∈ calls, engine.PromptFits llama call.prompt := by
  induction calls generalizing engine with
  | nil => simp
  | cons call rest ih =>
    have kept := engine.generate_keeps llama call.prompt call.maxTokens
    have later (prompt : Bytes) :
        (engine.generate llama call.prompt call.maxTokens).1.PromptFits llama prompt ↔
          engine.PromptFits llama prompt := by
      unfold PromptFits
      rw [kept.1, kept.2]
    rw [Machine.after_cons, ih]
    simp only [engineMachine, generate_within_iff, later, List.forall_mem_cons, and_assoc]

end LlamaEngine

/-- No call ever stores past the batch exactly when every prompt has at most `kBatchSize` tokens. -/
theorem batch_within_capacity_iff (nCtx : Nat) (calls : List GenerateCall) :
    ((engineMachine llama nCtx).after (engineMachine llama nCtx).initial calls).batch.WithinCapacity ↔
      ∀ call ∈ calls, (LlamaEngine.new llama nCtx).PromptFits llama call.prompt := by
  rw [LlamaEngine.after_within_iff]
  exact and_iff_right (fun index impossible => by cases impossible)

end Generate

-- A token for each byte, and a model that ends its answer at once.
def byteLlama : Llama Unit where
  initFromModel _ := some ()
  vocabEot := -1
  tokenToPiece token := some [UInt8.ofNat token.toNat]
  tokenize text size :=
    if text.length ≤ size then .ok (text.map fun byte => (byte.toNat : Int)) else .error (-text.length)
  clear := id
  decode context _ := (context, 0)
  sample context := (context, 1)
  vocabIsEog token := token = 1

-- Within the context of 4096 tokens, and beyond the batch.
theorem long_prompt_overflows :
    ∃ tokens, byteLlama.tokenize (chatTemplate (List.replicate kBatchSize 97)) 4096 = .ok tokens ∧
      tokens.length ≤ 4096 ∧
      ¬ ((LlamaEngine.new byteLlama 4096).generate byteLlama (List.replicate kBatchSize 97)
          4096).1.batch.WithinCapacity := by
  have overhead : (chatTemplate (List.replicate kBatchSize 97)).length = kBatchSize + 55 := by
    have parts : (kStartOfTurn ++ utf8 "user\n").length = 20 ∧
        (kEndOfTurn ++ utf8 "\n" ++ kStartOfTurn ++ utf8 "model\n").length = 35 := by decide
    simp only [chatTemplate, List.length_append, List.length_replicate] at parts ⊢
    omega
  have size : kBatchSize = 2048 := rfl
  have tokenized : byteLlama.tokenize (chatTemplate (List.replicate kBatchSize 97)) 4096 =
      .ok ((chatTemplate (List.replicate kBatchSize 97)).map fun byte => (byte.toNat : Int)) := by
    simp only [byteLlama]
    rw [if_pos (by omega)]
  refine ⟨_, tokenized, by rw [List.length_map]; omega, ?_⟩
  rw [LlamaEngine.generate_within_iff]
  rintro ⟨-, fits⟩
  have short := fits rfl _ tokenized
  rw [List.length_map] at short
  omega

end Ztab
