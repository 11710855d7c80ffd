import Mathlib.Data.List.DropRight
import Mathlib.Logic.Function.Basic
import Ztab.Shared.Machine
import Ztab.Tee.Status

set_option autoImplicit false

/-!
# The inference engine

`LlamaEngineImpl` over the calls it makes of llama.cpp. The batch is shared by all
calls of Generate, which `generate_mu_` puts one after another.
-/

namespace Ztab

def kBatchSize : Nat := 2048

def kStartOfTurn : Bytes := utf8 "<start_of_turn>"

def kEndOfTurn : Bytes := utf8 "<end_of_turn>"

abbrev LlamaToken := Int

-- One index of the arrays `token`, `pos`, `n_seq_id`, `seq_id` and `logits`.
structure BatchSlot where
  token : LlamaToken
  pos : Int
  seqIds : List Int
  logits : Bool
  deriving DecidableEq, Repr

-- A store is modelled at any index; `stored` is a history variable that lists them.
structure LlamaBatch where
  nTokens : Nat := 0
  slots : Nat → BatchSlot := fun _ => ⟨0, 0, [], false⟩
  stored : List Nat := []

def batchClear (batch : LlamaBatch) : LlamaBatch := { batch with nTokens := 0 }

def batchAdd (batch : LlamaBatch) (token : LlamaToken) (pos : Int) (seqIds : List Int)
    (logits : Bool) : LlamaBatch :=
  { nTokens := batch.nTokens + 1
    slots := Function.update batch.slots batch.nTokens ⟨token, pos, seqIds, logits⟩
    stored := batch.stored ++ [batch.nTokens] }

-- What llama_decode reads.
def LlamaBatch.filled (batch : LlamaBatch) : List BatchSlot := (List.range batch.nTokens).map batch.slots

/-- llama.cpp for one model. A context stands for the context together with its sampler. -/
structure Llama (Context : Type) where
  initFromModel : Nat → Option Context
  vocabEot : LlamaToken
  -- Nothing when the piece is empty or longer than the caller's 256 bytes.
  tokenToPiece : LlamaToken → Option Bytes
  -- The tokens of a text when they fit the buffer, and a negative number otherwise.
  tokenize : Bytes → Nat → Except Int (List LlamaToken)
  -- llama_memory_clear and llama_sampler_reset.
  clear : Context → Context
  decode : Context → List BatchSlot → Context × Int
  sample : Context → Context × LlamaToken
  vocabIsEog : LlamaToken → Bool

structure LlamaEngine (Context : Type) where
  nCtx : Nat
  ctx : Option Context
  batch : LlamaBatch
  stopStrings : List Bytes

-- The context and the batch, while one call runs.
structure Decoding (Context : Type) where
  context : Context
  batch : LlamaBatch

def chatTemplate (prompt : Bytes) : Bytes :=
  kStartOfTurn ++ utf8 "user\n" ++ prompt ++ kEndOfTurn ++ utf8 "\n" ++ kStartOfTurn ++
    utf8 "model\n"

-- The loop body from token `i` on.
def fillPrompt (nTokens : Nat) : Nat → List LlamaToken → LlamaBatch → LlamaBatch
  | _, [], batch => batch
  | i, token :: rest, batch =>
    fillPrompt nTokens (i + 1) rest (batchAdd batch token i [0] (decide (i + 1 = nTokens)))

-- The first stop string that ends the output is taken off it.
def cutAtStop (stopStrings : List Bytes) (output : Bytes) : Option Bytes :=
  (stopStrings.find? (fun stop => stop.isSuffixOf output)).map fun stop =>
    output.take (output.length - stop.length)

def trimOutput (output : Bytes) : Bytes := output.rdropWhile fun byte => byte = 10 || byte = 32

section Generate

variable {Context : Type} (llama : Llama Context)

def LlamaEngine.maybeAddStop (id : LlamaToken) : List Bytes :=
  if id < 0 then [] else (llama.tokenToPiece id).toList

def LlamaEngine.new (nCtx : Nat) : LlamaEngine Context where
  nCtx := nCtx
  ctx := llama.initFromModel nCtx
  batch := {}
  stopStrings := LlamaEngine.maybeAddStop llama llama.vocabEot ++ [kEndOfTurn, kStartOfTurn]

def decodeBatch (decoding : Decoding Context) : Decoding Context × Int :=
  let (context, failed) := llama.decode decoding.context decoding.batch.filled
  ({ decoding with context }, failed)

def generateTokens (stopStrings : List Bytes) (nTokens : Nat) :
    Nat → Nat → Decoding Context → Bytes → Decoding Context × Except Status Bytes
  | 0, _, decoding, output => (decoding, .ok output)
  | remaining + 1, i, decoding, output =>
    let (context, newToken) := llama.sample decoding.context
    let decoding := { decoding with context }
    if llama.vocabIsEog newToken then (decoding, .ok output)
    else
      let output := output ++ (llama.tokenToPiece newToken).getD []
      match cutAtStop stopStrings output with
      | some cut => (decoding, .ok cut)
      | none =>
        let next := batchAdd (batchClear decoding.batch) newToken (nTokens + i) [0] true
        let (decoding, failed) := decodeBatch llama { decoding with batch := next }
        if failed ≠ 0 then
          (decoding, .error ⟨.internal, "llama_decode failed at token " ++ toString i⟩)
        else generateTokens stopStrings nTokens remaining (i + 1) decoding output

-- From the tokenised prompt on.
def generateFrom (stopStrings : List Bytes) (tokens : List LlamaToken) (maxTokens : Int)
    (decoding : Decoding Context) : Decoding Context × Except Status Bytes :=
  let filled := fillPrompt tokens.length 0 tokens (batchClear decoding.batch)
  let (decoding, failed) := decodeBatch llama ⟨llama.clear decoding.context, filled⟩
  if failed ≠ 0 then (decoding, .error ⟨.internal, "llama_decode failed on prompt."⟩)
  else
    let (decoding, generated) :=
      generateTokens llama stopStrings tokens.length maxTokens.toNat 0 decoding []
    (decoding, generated.map trimOutput)

def LlamaEngine.generate (engine : LlamaEngine Context) (prompt : Bytes) (maxTokens : Int) :
    LlamaEngine Context × Except Status Bytes :=
  match engine.ctx with
  | none => (engine, .error ⟨.internal, "Llama context not initialized."⟩)
  | some context =>
    match llama.tokenize (chatTemplate prompt) engine.nCtx with
    | .error nTokens =>
      (engine, .error ⟨.invalidArgument,
        "Prompt exceeds context length (Tokenization failed, n_tokens=" ++ toString nTokens ++ ")"⟩)
    | .ok tokens =>
      let (decoding, generated) :=
        generateFrom llama engine.stopStrings tokens maxTokens ⟨context, engine.batch⟩
      ({ engine with ctx := some decoding.context, batch := decoding.batch }, generated)

structure GenerateCall where
  prompt : Bytes
  maxTokens : Int := 256

-- One engine and the calls it gets, in the order in which they take the mutex.
def engineMachine (nCtx : Nat) :
    Machine (LlamaEngine Context) GenerateCall (Except Status Bytes) where
  initial := LlamaEngine.new llama nCtx
  step engine call := engine.generate llama call.prompt call.maxTokens

end Generate

end Ztab
