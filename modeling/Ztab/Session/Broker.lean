import Ztab.Session.Creations
import Ztab.Session.Dispatch
import Ztab.Tee.EngineReuse

set_option autoImplicit false

/-!
# The broker

`AgentBrokerServiceImpl` over the session manager and the one engine that all workers and Echo
share. A worker takes the engine's mutex once for each attempt, so calls for other sessions may
come between its attempts.
-/

namespace Ztab

abbrev Metadata := List (String × Bytes)

structure BrokerConfig (Context : Type) where
  env : Environment
  llama : Llama Context
  nCtx : Nat
  creatorTokenFlag : Bytes := []
  -- CREATOR_TOKEN, which counts when the flag is empty.
  creatorTokenVariable : Option Bytes := none

def StatusCode.name : StatusCode → String
  | .invalidArgument => "INVALID_ARGUMENT"
  | .notFound => "NOT_FOUND"
  | .alreadyExists => "ALREADY_EXISTS"
  | .permissionDenied => "PERMISSION_DENIED"
  | .resourceExhausted => "RESOURCE_EXHAUSTED"
  | .failedPrecondition => "FAILED_PRECONDITION"
  | .internal => "INTERNAL"

def Status.toString (status : Status) : String := status.code.name ++ ": " ++ status.message

structure Broker (Context : Type) where
  system : System := {}
  engine : Option (LlamaEngine Context)
  -- What Generate returned to each worker so far.
  results : Nat → List GenerateResult := fun _ => []

-- CreateSession is gated, and step 2 of a worker is split into its calls of the engine.
def Action.delegated : Action → Bool
  | .createSession _ _ | .infer _ _ => false
  | _ => true

inductive BrokerAction where
  | echo (message : Bytes)
  | createSession (now : Int) (request : CreateSessionRequest) (metadata : Metadata)
  | serve (action : Action) (delegated : action.delegated = true)
  -- One attempt of a worker, and the end of its loop.
  | generate (thread : Nat)
  | conclude (thread : Nat)

inductive BrokerReply where
  | echo (outcome : Except Status Bytes)
  | session (reply : Reply)

-- The loop is left with this answer, rather than continued.
def endsLoop (env : Environment) (outputSchema : String) : GenerateResult → Bool
  | .error _ => false
  | .ok text =>
    if outputSchema = "" then true
    else
      match validateJsonSchema env.json env.partialMatch (stripMarkdownCodeFences text) outputSchema with
      | .error (.status _) => false
      | _ => true

section Service

variable {Context : Type} (config : BrokerConfig Context)

namespace BrokerConfig

def requiredToken : Bytes :=
  if config.creatorTokenFlag = [] then config.creatorTokenVariable.getD [] else config.creatorTokenFlag

def admits (metadata : Metadata) : Bool :=
  if config.requiredToken = [] then true
  else
    match metadata.lookup "x-ztab-creator-token" with
    | none => false
    | some provided => provided = config.requiredToken

def answer (prompt : String) : GenerateResult :=
  ((LlamaEngine.new config.llama config.nCtx).generate config.llama (utf8 prompt) 4096).2

end BrokerConfig

namespace Broker

def echo (broker : Broker Context) (message : Bytes) : Broker Context × Except Status Bytes :=
  match broker.engine with
  | none => (broker, .ok (utf8 "Echo: " ++ message))
  | some engine =>
    let (engine, result) := engine.generate config.llama message 256
    ({ broker with engine := some engine },
      result.mapError fun status => ⟨.internal, status.toString⟩)

def createSession (broker : Broker Context) (now : Int) (request : CreateSessionRequest)
    (metadata : Metadata) : Broker Context × Reply :=
  if config.admits metadata then
    let (system, reply) := broker.system.step config.env (.createSession now request)
    ({ broker with system }, reply)
  else (broker, .createSession invalidToken)

def loopOver (broker : Broker Context) (index : Nat) (outputSchema : String) : Bool :=
  broker.engine.isNone || (broker.results index).length == kMaxLlmRetries ||
    (broker.results index).getLast?.any (endsLoop config.env outputSchema)

def generate (broker : Broker Context) (index : Nat) : Broker Context :=
  match broker.system.threads[index]?, broker.engine with
  | some ⟨_, .prompted prompt outputSchema⟩, some engine =>
    if broker.system.alive ∧ broker.loopOver config index outputSchema = false then
      let (engine, result) := engine.generate config.llama (utf8 prompt) 4096
      { broker with
        engine := some engine
        results := Function.update broker.results index (broker.results index ++ [result]) }
    else broker
  | _, _ => broker

-- No attempt is looked at that was not made.
def attempts (broker : Broker Context) (index attempt : Nat) : GenerateResult :=
  ((broker.results index)[attempt]?).getD (.error ⟨.internal, ""⟩)

def conclude (broker : Broker Context) (index : Nat) : Broker Context × Reply :=
  match broker.system.threads[index]? with
  | some ⟨_, .prompted _ outputSchema⟩ =>
    if broker.loopOver config index outputSchema then
      let (system, reply) := broker.system.step config.env (.infer index (broker.attempts index))
      ({ broker with system }, reply)
    else (broker, .silent)
  | _ => (broker, .silent)

def step (broker : Broker Context) : BrokerAction → Broker Context × BrokerReply
  | .echo message =>
    let (broker, outcome) := broker.echo config message
    (broker, .echo outcome)
  | .createSession now request metadata =>
    let (broker, reply) := broker.createSession config now request metadata
    (broker, .session reply)
  | .serve action _ =>
    let (system, reply) := broker.system.step config.env action
    ({ broker with system }, .session reply)
  | .generate index => (broker.generate config index, .session .silent)
  | .conclude index =>
    let (broker, reply) := broker.conclude config index
    (broker, .session reply)

end Broker

def brokerMachine : Machine (Broker Context) BrokerAction BrokerReply where
  initial := {
    engine := if config.env.hasEngine then some (.new config.llama config.nCtx) else none }
  step := Broker.step config

end Service

-- Before and after the loop.
def Phase.early : Phase → Bool
  | .spawning | .started => true
  | _ => false

def Phase.late : Phase → Bool
  | .inferred _ | .leaving | .finished => true
  | _ => false

theorem Phase.work_phase (env : Environment) (fresh : Nat → String) (record : Option Session)
    (phase : Phase) (action : Action) :
    ∃ next, (phase.work env fresh record action).phase = some next ∧
      (next = phase ∨ phase.early = true ∨ next.late = true) := by
  fun_cases Phase.work env fresh record phase action
  case case1 => exact ⟨_, rfl, .inr (.inl rfl)⟩
  case case2 => exact ⟨_, rfl, .inr (.inl rfl)⟩
  case case3 => exact ⟨_, rfl, .inr (.inl rfl)⟩
  case case4 => exact ⟨_, rfl, .inr (.inr rfl)⟩
  case case5 => exact ⟨_, rfl, .inl rfl⟩
  case case6 => exact ⟨_, rfl, .inr (.inr rfl)⟩
  case case7 => exact ⟨_, rfl, .inr (.inr rfl)⟩
  case case8 => exact ⟨_, rfl, .inl rfl⟩

theorem Session.call_phase (env : Environment) (fresh : Nat → String) (session : Session)
    (action : Action) :
    (session.call env fresh action).phase = none ∨
      (session.call env fresh action).phase = some .spawning := by
  cases action with
  | submitInput now request =>
    simp only [Session.call, Session.submitted]
    split
    · exact .inl rfl
    · exact .inl rfl
    · exact .inr rfl
  | _ => exact .inl rfl

inductive ThreadMove : Option Thread → Option Thread → Prop
  | same (thread : Option Thread) : ThreadMove thread thread
  | dispatched (id : String) : ThreadMove none (some ⟨id, .spawning⟩)
  | moved (thread : Thread) (phase : Phase) (forward : thread.phase.early = true ∨ phase.late = true) :
      ThreadMove (some thread) (some { thread with phase })

theorem threadMove_of_reachable {env : Environment} (fresh : env.NeverRepeats) {system : System}
    (reachable : (machine env).Reachable system) (action : Action) (index : Nat) :
    ThreadMove system.threads[index]? (system.step env action).1.threads[index]? := by
  cases owner_of_reachable fresh reachable action with
  | nobody same =>
    rw [same]
    exact .same _
  | create now request same =>
    rw [same, System.createSession_threads]
    exact .same _
  | call id session resolved stored isolated =>
    rw [isolated.threads, System.filed, Action.thread_of_resolves resolved]
    rcases session.call_phase env (env.randomHex system.manager.draws) action with none | new
    · simp only [none, Option.toList_none, List.map_nil, List.append_nil]
      exact .same _
    · simp only [new, Option.toList_some, List.map_singleton]
      rcases Nat.lt_trichotomy index system.threads.length with before | rfl | beyond
      · rw [List.getElem?_append_left before]
        exact .same _
      · simp only [List.getElem?_concat_length, List.getElem?_length]
        exact .dispatched id
      · rw [List.getElem?_eq_none (by omega), List.getElem?_eq_none (by simp; omega)]
        exact .same _
  | worker position thread own here isolated =>
    obtain ⟨next, moved, forward⟩ := thread.phase.work_phase env (env.randomHex system.manager.draws)
      (system.manager.sessions.lookup thread.session) action
    rw [isolated.threads, System.filed, own, moved]
    simp only [Option.elim_some]
    by_cases other : position = index
    next =>
      subst other
      have bound := (List.getElem?_eq_some_iff.mp here).1
      rw [List.getElem?_set_self bound, here]
      rcases forward with rfl | forward
      · exact .same _
      · exact .moved thread next forward
    next =>
      rw [List.getElem?_set_ne other]
      exact .same _

theorem System.step_generations {env : Environment} {system : System} {action : Action}
    (kind : ∀ index results, action ≠ .infer index results) :
    (system.step env action).1.history.generations = system.history.generations := by
  unfold step
  split
  next =>
    cases action with
    | createSession now request =>
      simp only [perform, createSession]
      split <;> simp [invite]
    | joinSession now request =>
      simp only [perform, joinSession]
      split <;> simp
    | submitInput now request =>
      simp only [perform, submitInput]
      split <;> rfl
    | acceptPolicy now request => rfl
    | getResult now request => rfl
    | getSessionStatus now request => rfl
    | infer index results => exact absurd rfl (kind index results)
    | preparePrompt index =>
      simp only [perform, onThread]
      split
      · rfl
      · simp only [threadStep]
        split
        · simp only [preparePrompt]
          split <;> rfl
        · rfl
    | _ =>
      simp only [perform, onThread]
      split
      · rfl
      · simp only [threadStep]
        split <;> rfl
  next => rfl

theorem System.step_infer_generations {env : Environment} {system : System} {index : Nat}
    {id prompt outputSchema : String} {results : Nat → GenerateResult}
    (here : system.threads[index]? = some ⟨id, .prompted prompt outputSchema⟩)
    {generation : Generation}
    (recorded : generation ∈ (system.step env (.infer index results)).1.history.generations) :
    generation ∈ system.history.generations ∨
      ∃ attempt < (llmAttempts env outputSchema results).calls,
        generation.prompt = prompt ∧ results attempt = .ok generation.text := by
  unfold step at recorded
  split at recorded
  next =>
    have appended : generation ∈ (system.record id prompt (llmAttempts env outputSchema results).calls
        results).history.generations := by
      simp only [perform, onThread, here, threadStep, infer] at recorded
      split at recorded
      · exact recorded
      · exact recorded
    rcases List.mem_append.mp appended with earlier | new
    · exact .inl earlier
    · obtain ⟨text, listed, rfl⟩ := List.mem_map.mp new
      obtain ⟨attempt, below, answered⟩ := List.mem_filterMap.mp listed
      refine .inr ⟨attempt, List.mem_range.mp below, rfl, ?_⟩
      cases result : results attempt with
      | error status => simp [result, Except.toOption] at answered
      | ok output =>
        rw [result] at answered
        cases answered
        rfl
  next => exact .inl recorded

section Attempts

variable {env : Environment} {outputSchema : String} {answer : GenerateResult}
  {results : Nat → GenerateResult}

theorem generateLoop_alike (made remaining attempt : Nat)
    (alike : ∀ index < made, results (attempt + index) = answer)
    (enough : remaining ≤ made ∨ endsLoop env outputSchema answer = true ∧ 0 < made) :
    generateLoop env outputSchema results remaining attempt =
        generateLoop env outputSchema (fun _ => answer) remaining 0 ∧
      (generateLoop env outputSchema results remaining attempt).calls ≤ made := by
  have constant (remaining first second : Nat) :
      generateLoop env outputSchema (fun _ => answer) remaining first =
        generateLoop env outputSchema (fun _ => answer) remaining second := by
    induction remaining generalizing first second with
    | zero => rfl
    | succ remaining ih =>
      unfold generateLoop
      rw [ih (first + 1) (second + 1)]
  induction remaining generalizing attempt made with
  | zero => exact ⟨rfl, Nat.zero_le _⟩
  | succ remaining ih =>
    have first : results attempt = answer := by
      have some : 0 < made := by omega
      simpa using alike 0 some
    have later (going : endsLoop env outputSchema answer = false) :
        generateLoop env outputSchema results remaining (attempt + 1) =
            generateLoop env outputSchema (fun _ => answer) remaining (0 + 1) ∧
          (generateLoop env outputSchema results remaining (attempt + 1)).calls + 1 ≤ made := by
      have long : remaining + 1 ≤ made := by simpa [going] using enough
      have rest := ih (made - 1) (attempt + 1)
        (fun index below => by
          rw [Nat.add_assoc, Nat.add_comm 1]
          exact alike (index + 1) (by omega))
        (.inl (by omega))
      exact ⟨rest.1.trans (constant _ _ _), by omega⟩
    have one : 1 ≤ made := by omega
    unfold generateLoop
    rw [first]
    cases answer with
    | error status =>
      obtain ⟨same, calls⟩ := later rfl
      exact ⟨congrArg LlmAttempts.afterCall same, calls⟩
    | ok text =>
      dsimp only
      split
      next => exact ⟨rfl, one⟩
      next schema =>
        cases checked : validateJsonSchema env.json env.partialMatch (stripMarkdownCodeFences text)
            outputSchema with
        | ok _ => exact ⟨rfl, one⟩
        | error failure =>
          cases failure with
          | raised exception => exact ⟨rfl, one⟩
          | status status =>
            obtain ⟨same, calls⟩ := later (by simp [endsLoop, schema, checked])
            exact ⟨congrArg LlmAttempts.afterCall same, calls⟩

end Attempts

-- A model that recites a text, a byte a token, after any prompt.
def recitingLlama (text : Bytes) : Llama Nat where
  initFromModel _ := some 0
  vocabEot := -1
  tokenToPiece token := some [UInt8.ofNat token.toNat]
  tokenize prompt size :=
    if prompt.length ≤ size then .ok (prompt.map fun byte => (byte.toNat : Int))
    else .error (-prompt.length)
  clear _ := 0
  decode context _ := (context, 0)
  sample context := (context + 1, text[context]?.elim 1 fun byte => byte.toNat)
  vocabIsEog token := token = 1

theorem recitingLlama_fits (text prompt : Bytes) :
    (LlamaEngine.new (recitingLlama text) kBatchSize).PromptFits (recitingLlama text) prompt := by
  intro _ tokens tokenized
  simp only [recitingLlama, LlamaEngine.new] at tokenized
  split at tokenized
  next short =>
    cases tokenized
    rwa [List.length_map]
  next => cases tokenized

def calendarBroker : BrokerConfig Nat where
  env := calendarEnv
  llama := recitingLlama (utf8 "\x7b\x7d")
  nCtx := kBatchSize
  creatorTokenFlag := utf8 "secret"

-- A creation that guesses the token, one that has it, and its session up to the result.
def calendarServed : List BrokerAction :=
  let create := BrokerAction.createSession 0
    { policy := { policyClass := "calendar", expectedParticipants := 2 } }
  [create [("x-ztab-creator-token", utf8 "guess")], create [("x-ztab-creator-token", utf8 "secret")],
    .serve (.joinSession 0 { invitationToken := "aaa" }) rfl, .serve (.acceptPolicy 0 ⟨"aaaa"⟩) rfl,
    .serve (.submitInput 0 ⟨"aa", "[1]"⟩) rfl, .serve (.submitInput 0 ⟨"aaaa", "[2]"⟩) rfl,
    .serve (.spawnSucceeds 0) rfl, .serve (.preparePrompt 0) rfl, .echo (utf8 "hello"), .generate 0,
    .conclude 0, .serve (.writeResult 0 0) rfl]

theorem calendarServed_closed :
    ∃ session, ((brokerMachine calendarBroker).after (brokerMachine calendarBroker).initial
      calendarServed).system.manager.sessions.lookup "a" = some session ∧
        session.state = .CLOSED := by
  have closed : (((brokerMachine calendarBroker).after (brokerMachine calendarBroker).initial
      calendarServed).system.manager.sessions.lookup "a").map (·.state) = some .CLOSED := by
    decide +kernel
  exact Option.map_eq_some_iff.mp closed

section Runs

variable {Context : Type} {config : BrokerConfig Context}

def BrokerConfig.Asked (config : BrokerConfig Context) (results : List GenerateResult) :
    Option Thread → Prop
  | none => results = []
  | some ⟨_, .prompted prompt outputSchema⟩ =>
    ∃ made, results = List.replicate made (config.answer prompt) ∧
      (endsLoop config.env outputSchema (config.answer prompt) = true → made ≤ 1)
  | some ⟨_, phase⟩ => phase.early = true → results = []

theorem BrokerConfig.Asked.move {results : List GenerateResult} {before after : Option Thread}
    (asked : config.Asked results before) (move : ThreadMove before after) :
    config.Asked results after := by
  cases move with
  | same => exact asked
  | dispatched id => exact fun _ => asked
  | moved thread phase forward =>
    rcases thread with ⟨id, point⟩
    rcases forward with early | late
    · have unasked : results = [] := by
        cases point with
        | spawning => exact asked rfl
        | started => exact asked rfl
        | _ => cases early
      cases phase with
      | prompted prompt outputSchema => exact ⟨0, unasked, fun _ => Nat.zero_le _⟩
      | _ => exact fun _ => unasked
    · cases phase with
      | inferred outcome => exact fun impossible => by cases impossible
      | leaving => exact fun impossible => by cases impossible
      | finished => exact fun impossible => by cases impossible
      | _ => cases late

/-- What the action asks the engine, if anything, fits the batch. -/
def Broker.Fits (config : BrokerConfig Context) (broker : Broker Context) : BrokerAction → Prop
  | .echo message => (LlamaEngine.new config.llama config.nCtx).PromptFits config.llama message
  | .generate index => ∀ ⦃id prompt outputSchema⦄,
      broker.system.threads[index]? = some ⟨id, .prompted prompt outputSchema⟩ →
        (LlamaEngine.new config.llama config.nCtx).PromptFits config.llama (utf8 prompt)
  | _ => True

structure Broker.Consistent (config : BrokerConfig Context) (broker : Broker Context) : Prop where
  reachable : (machine config.env).Reachable broker.system
  loaded : broker.engine.isSome = config.env.hasEngine
  reused : ∀ engine, broker.engine = some engine → engine.Reused config.llama config.nCtx
  within : ∀ engine, broker.engine = some engine → engine.batch.WithinCapacity
  asked : ∀ index, config.Asked (broker.results index) broker.system.threads[index]?
  generated : ∀ generation ∈ broker.system.history.generations,
    config.answer generation.prompt = .ok generation.text

namespace Broker.Consistent

variable {broker : Broker Context}

theorem initial (config : BrokerConfig Context) :
    Broker.Consistent config (brokerMachine config).initial where
  reachable := ⟨[], rfl⟩
  loaded := by
    simp only [brokerMachine]
    split <;> simp_all
  reused engine held := by
    simp only [brokerMachine] at held
    split at held
    · cases held
      exact LlamaEngine.new_reused _ _
    · cases held
  within engine held := by
    simp only [brokerMachine] at held
    split at held
    · cases held
      exact fun index impossible => by cases impossible
    · cases held
  asked index := rfl
  generated generation impossible := by cases impossible

theorem promptFits {engine : LlamaEngine Context} (reused : engine.Reused config.llama config.nCtx)
    {prompt : Bytes}
    (fits : (LlamaEngine.new config.llama config.nCtx).PromptFits config.llama prompt) :
    engine.PromptFits config.llama prompt := by
  intro ready tokens tokenized
  rw [reused.nCtx_eq] at tokenized
  rw [reused.isSome_eq] at ready
  exact fits ready tokens tokenized

theorem asks (consistent : broker.Consistent config) {engine : LlamaEngine Context}
    (held : broker.engine = some engine) {prompt : Bytes} (maxTokens : Int)
    (fits : (LlamaEngine.new config.llama config.nCtx).PromptFits config.llama prompt) :
    let asked := (engine.generate config.llama prompt maxTokens).1
    asked.Reused config.llama config.nCtx ∧ asked.batch.WithinCapacity := by
  have reused := consistent.reused engine held
  refine ⟨reused.generate prompt maxTokens, ?_⟩
  rw [LlamaEngine.generate_within_iff]
  exact ⟨consistent.within engine held, promptFits reused fits⟩

theorem echo (consistent : broker.Consistent config) {message : Bytes}
    (fits : (LlamaEngine.new config.llama config.nCtx).PromptFits config.llama message) :
    (broker.echo config message).1.Consistent config := by
  unfold Broker.echo
  split
  next => exact consistent
  next engine held =>
    obtain ⟨reused, within⟩ := consistent.asks held 256 fits
    have some := consistent.loaded
    rw [held] at some
    exact ⟨consistent.reachable, some, fun later same => by cases same; exact reused,
      fun later same => by cases same; exact within, consistent.asked, consistent.generated⟩

theorem act (consistent : broker.Consistent config) (fresh : config.env.NeverRepeats)
    {action : Action} (kind : ∀ index results, action ≠ .infer index results) :
    Broker.Consistent config
      { broker with system := (broker.system.step config.env action).1 } where
  reachable := consistent.reachable.step action
  loaded := consistent.loaded
  reused := consistent.reused
  within := consistent.within
  asked index := (consistent.asked index).move
    (threadMove_of_reachable fresh consistent.reachable action index)
  generated := by
    rw [System.step_generations kind]
    exact consistent.generated

theorem generate (consistent : broker.Consistent config) (forgets : config.llama.Forgets config.nCtx)
    {index : Nat} (fits : broker.Fits config (.generate index)) :
    (broker.generate config index).Consistent config := by
  unfold Broker.generate
  split
  next _ _ id prompt outputSchema engine here held =>
    split
    next going =>
      obtain ⟨reused, within⟩ := consistent.asks held 4096 (fits here)
      have some := consistent.loaded
      rw [held] at some
      have answered : (engine.generate config.llama (utf8 prompt) 4096).2 = config.answer prompt :=
        (consistent.reused engine held).answers_as_new forgets (utf8 prompt) 4096
      refine ⟨consistent.reachable, some, fun later same => by cases same; exact reused,
        fun later same => by cases same; exact within, fun other => ?_, consistent.generated⟩
      by_cases same : other = index
      next =>
        subst same
        have asked := consistent.asked other
        simp only [here] at asked ⊢
        obtain ⟨made, told, once⟩ := asked
        refine ⟨made + 1, ?_, fun ends => ?_⟩
        · rw [Function.update_self, told, answered, List.replicate_succ']
        · -- An answer that ends the loop would have ended it the first time.
          have unmade : made = 0 := by
            have bound := once ends
            by_contra some
            have single : made = 1 := by omega
            simp [Broker.loopOver, told, single, ends] at going
          omega
      next =>
        simp only [Function.update_of_ne same]
        exact consistent.asked other
    next => exact consistent
  next => exact consistent

theorem attempts_alike (consistent : broker.Consistent config) {index : Nat} {id prompt : String}
    {outputSchema : String}
    (here : broker.system.threads[index]? = some ⟨id, .prompted prompt outputSchema⟩) :
    (∀ result ∈ broker.results index, result = config.answer prompt) ∧
      (broker.loopOver config index outputSchema = true →
        llmAttempts config.env outputSchema (broker.attempts index) =
            llmAttempts config.env outputSchema (fun _ => config.answer prompt) ∧
          ∀ attempt < (llmAttempts config.env outputSchema (broker.attempts index)).calls,
            broker.attempts index attempt = config.answer prompt) := by
  have asked := consistent.asked index
  rw [here] at asked
  obtain ⟨made, told, once⟩ := asked
  have alike : ∀ attempt < made, broker.attempts index attempt = config.answer prompt := by
    intro attempt below
    simp [Broker.attempts, told, below]
  refine ⟨fun result listed => ?_, fun done => ?_⟩
  · rw [told] at listed
    exact List.eq_of_mem_replicate listed
  · unfold llmAttempts
    split
    next engine =>
      have enough : kMaxLlmRetries ≤ made ∨
          endsLoop config.env outputSchema (config.answer prompt) = true ∧ 0 < made := by
        have some := consistent.loaded
        rw [engine, Option.isSome_iff_ne_none] at some
        simp only [Broker.loopOver, told, List.length_replicate, Bool.or_eq_true, beq_iff_eq,
          Option.isNone_iff_eq_none, some, false_or] at done
        rcases done with exhausted | ended
        · exact .inl exhausted.ge
        · cases made with
          | zero => simp at ended
          | succ made => exact .inr ⟨by simpa [List.getLast?_replicate] using ended, Nat.succ_pos _⟩
      obtain ⟨same, calls⟩ :=
        generateLoop_alike made kMaxLlmRetries 0 (by simpa using alike) enough
      exact ⟨same, fun attempt below => alike attempt (by omega)⟩
    next => exact ⟨rfl, fun attempt below => absurd below (Nat.not_lt_zero _)⟩

theorem conclude (consistent : broker.Consistent config) (fresh : config.env.NeverRepeats)
    (index : Nat) : (broker.conclude config index).1.Consistent config := by
  unfold Broker.conclude
  split
  next _ id prompt outputSchema here =>
    split
    next done =>
      obtain ⟨-, made⟩ := (consistent.attempts_alike here).2 done
      refine ⟨consistent.reachable.step _, consistent.loaded, consistent.reused, consistent.within,
        fun other => (consistent.asked other).move
          (threadMove_of_reachable fresh consistent.reachable _ other), ?_⟩
      intro generation recorded
      rcases System.step_infer_generations here recorded with earlier | ⟨attempt, below, same, text⟩
      · exact consistent.generated generation earlier
      · rw [same, ← made attempt below, text]
    next => exact consistent
  next => exact consistent

theorem step (consistent : broker.Consistent config) (fresh : config.env.NeverRepeats)
    (forgets : config.llama.Forgets config.nCtx) {action : BrokerAction}
    (fits : broker.Fits config action) : (broker.step config action).1.Consistent config := by
  cases action with
  | echo message => exact consistent.echo fits
  | createSession now request metadata =>
    simp only [Broker.step, Broker.createSession]
    split
    · exact consistent.act fresh (fun _ _ same => by cases same)
    · exact consistent
  | serve action delegated =>
    refine consistent.act fresh (fun index results same => ?_)
    rw [same] at delegated
    cases delegated
  | generate index => exact consistent.generate forgets fits
  | conclude index => exact consistent.conclude fresh index

end Broker.Consistent

theorem calendarBroker_fits (run : List BrokerAction) :
    (brokerMachine calendarBroker).Allowed (Broker.Fits calendarBroker)
      (brokerMachine calendarBroker).initial run := by
  refine (brokerMachine calendarBroker).allowed_of_forall (fun broker action => ?_) _ _
  cases action with
  | echo message => exact recitingLlama_fits _ message
  | generate index => exact fun _ prompt _ _ => recitingLlama_fits _ (utf8 prompt)
  | _ => trivial

/-- Sessions share the engine and nothing passes between them through it: the result of every
session is what an engine that never served anybody answers to the session's own prompt, every
retry of a worker gets the answer it got before, Echo is answered as on the first day, and no
prompt is written past the batch. -/
theorem results_of_unused_engine (config : BrokerConfig Context) (fresh : config.env.NeverRepeats)
    (forgets : config.llama.Forgets config.nCtx) (run : List BrokerAction)
    (fits : (brokerMachine config).Allowed (Broker.Fits config) (brokerMachine config).initial run) :
    let broker := (brokerMachine config).after (brokerMachine config).initial run
    (∀ id session, broker.system.manager.sessions.lookup id = some session →
        session.state = .CLOSED → ∃ suffix text,
          config.answer (session.buildPrompt suffix) = .ok text ∧
            session.resultJson = stripMarkdownCodeFences text) ∧
      (∀ index id prompt outputSchema,
        broker.system.threads[index]? = some ⟨id, .prompted prompt outputSchema⟩ →
          (∀ result ∈ broker.results index, result = config.answer prompt) ∧
            (broker.loopOver config index outputSchema = true →
              llmAttempts config.env outputSchema (broker.attempts index) =
                llmAttempts config.env outputSchema fun _ => config.answer prompt)) ∧
      (∀ message, broker.Fits config (.echo message) →
        (broker.echo config message).2 = ((brokerMachine config).initial.echo config message).2) ∧
      ∀ engine, broker.engine = some engine → engine.batch.WithinCapacity := by
  intro broker
  have consistent : broker.Consistent config :=
    (brokerMachine config).allowed_preserves (Broker.Fits config) (Broker.Consistent config)
      (fun _ _ fits consistent => consistent.step fresh forgets fits) _
      (Broker.Consistent.initial config) run fits
  clear_value broker
  refine ⟨fun id session stored closed => ?_, fun index id prompt outputSchema here => ?_,
    fun message _ => ?_, consistent.within⟩
  · have delivers := (workers_of_reachable fresh consistent.reachable).closed id session stored closed
    obtain ⟨suffix, text, recorded, stripped⟩ := delivers.generated
    have answered := consistent.generated _ recorded
    exact ⟨suffix, text, answered, stripped⟩
  · obtain ⟨told, done⟩ := consistent.attempts_alike here
    exact ⟨told, fun ended => (done ended).1⟩
  · have some := consistent.loaded
    unfold Broker.echo
    simp only [brokerMachine]
    cases held : broker.engine with
    | none =>
      rw [held] at some
      simp [← some]
    | some engine =>
      rw [held] at some
      simp only [← some, Option.isSome_some, if_true]
      rw [(consistent.reused engine held).answers_as_new forgets message 256]

theorem calendar_result_of_unused_engine :
    ∃ session suffix text, ((brokerMachine calendarBroker).after (brokerMachine calendarBroker).initial
      calendarServed).system.manager.sessions.lookup "a" = some session ∧
        calendarBroker.answer (session.buildPrompt suffix) = .ok text ∧
        session.resultJson = stripMarkdownCodeFences text := by
  obtain ⟨session, stored, closed⟩ := calendarServed_closed
  obtain ⟨suffix, text, answered, stripped⟩ := (results_of_unused_engine calendarBroker
    (countingEnv_neverRepeats _) (fun _ _ _ _ => rfl) calendarServed (calendarBroker_fits _)).1 "a"
    session stored closed
  exact ⟨session, suffix, text, stored, answered, stripped⟩

/-- No creation, or one that presents the token where one is required. -/
def BrokerConfig.passes (config : BrokerConfig Context) : BrokerAction → Bool
  | .createSession _ _ metadata => config.admits metadata
  | _ => true

theorem BrokerConfig.admits_iff (config : BrokerConfig Context) (metadata : Metadata) :
    config.admits metadata = true ↔
      (config.requiredToken ≠ [] →
        metadata.lookup "x-ztab-creator-token" = some config.requiredToken) := by
  unfold admits
  split
  next ungated => simp [ungated]
  next gated =>
    simp only [ne_eq, gated, not_false_eq_true, forall_const]
    cases metadata.lookup "x-ztab-creator-token" with
    | none => simp
    | some provided => simp

-- A turned away creation is answered and leaves no trace.
theorem Broker.step_denied (broker : Broker Context) (action : BrokerAction)
    (denied : config.passes action = false) : (broker.step config action).1 = broker := by
  cases action with
  | createSession now request metadata =>
    have refused : ¬ config.admits metadata = true := by simpa [BrokerConfig.passes] using denied
    simp [Broker.step, Broker.createSession, refused]
  | _ => cases denied

theorem Broker.step_system (config : BrokerConfig Context) (broker : Broker Context)
    (action : BrokerAction) :
    (broker.step config action).1.system = broker.system ∨
      ∃ act, (broker.step config action).1.system = (broker.system.step config.env act).1 ∧
        ∀ now request, act = .createSession now request →
          ∃ metadata, action = .createSession now request metadata ∧
            config.admits metadata = true := by
  cases action with
  | echo message =>
    refine .inl ?_
    simp only [Broker.step, Broker.echo]
    split <;> rfl
  | createSession now request metadata =>
    by_cases admitted : config.admits metadata = true
    · refine .inr ⟨.createSession now request, ?_, fun _ _ same => ?_⟩
      · simp [Broker.step, Broker.createSession, admitted]
      · cases same
        exact ⟨metadata, rfl, admitted⟩
    · exact .inl (by simp [Broker.step, Broker.createSession, admitted])
  | serve action delegated =>
    refine .inr ⟨action, rfl, fun _ _ same => ?_⟩
    rw [same] at delegated
    cases delegated
  | generate index =>
    refine .inl ?_
    simp only [Broker.step, Broker.generate]
    split
    · split <;> rfl
    · rfl
  | conclude index =>
    simp only [Broker.step, Broker.conclude]
    split
    · split
      · exact .inr ⟨_, rfl, fun _ _ same => by cases same⟩
      · exact .inl rfl
    · exact .inl rfl

theorem broker_system_reachable (config : BrokerConfig Context) (run : List BrokerAction) :
    (machine config.env).Reachable
      ((brokerMachine config).after (brokerMachine config).initial run).system := by
  apply (brokerMachine config).after_preserves
    (fun broker => (machine config.env).Reachable broker.system)
  · intro broker action reachable
    rcases broker.step_system config action with same | ⟨act, moved, -⟩
    · exact same ▸ reachable
    · exact moved ▸ reachable.step act
  · exact ⟨[], rfl⟩

def Session.OpenedBy (session : Session) (request : CreateSessionRequest) : Prop :=
  session.creatorNonce = request.clientNonce ∧ session.policy = session.normalized request.policy

theorem RecordOrigin.openedBy {env : Environment} {system : System} {action : Action} {id : String}
    {session : Session} (origin : RecordOrigin env system action id session) :
    (∃ held, system.manager.sessions.lookup id = some held ∧
      ∀ request, held.OpenedBy request → session.OpenedBy request) ∨
      ∃ now request, action = .createSession now request ∧ session.OpenedBy request := by
  have kept {held session : Session} (nonce : session.creatorNonce = held.creatorNonce)
      (policy : session.policy = held.policy) (request : CreateSessionRequest)
      (opened : held.OpenedBy request) : session.OpenedBy request := by
    refine ⟨nonce.trans opened.1, ?_⟩
    have same := opened.2
    rw [Session.normalized] at same ⊢
    rw [policy]
    exact same
  cases origin with
  | stepped stored step =>
    exact .inl ⟨_, stored, kept step.identity.creatorNonce step.identity.policy⟩
  | joined same answered stored waiting unanswered newcomer =>
    exact .inl ⟨_, stored, kept rfl rfl⟩
  | created same named => exact .inr ⟨_, _, same, rfl, rfl⟩

theorem opened_with_token (config : BrokerConfig Context) (fresh : config.env.NeverRepeats)
    (run : List BrokerAction) {id : String} {session : Session}
    (stored : ((brokerMachine config).after (brokerMachine config).initial
      run).system.manager.sessions.lookup id = some session) :
    ∃ now request metadata, .createSession now request metadata ∈ run ∧
      config.admits metadata = true ∧ session.OpenedBy request := by
  induction run using List.reverseRecOn generalizing id session with
  | nil => cases stored
  | append_singleton run action ih =>
    have earlier {other : String} {held : Session} (found : ((brokerMachine config).after
        (brokerMachine config).initial run).system.manager.sessions.lookup other = some held) :
        ∃ now request metadata, .createSession now request metadata ∈ run ++ [action] ∧
          config.admits metadata = true ∧ held.OpenedBy request := by
      obtain ⟨now, request, metadata, listed, admitted, opened⟩ := ih found
      exact ⟨now, request, metadata, List.mem_append_left _ listed, admitted, opened⟩
    rw [Machine.after_append, Machine.after_cons, Machine.after_nil] at stored
    rcases Broker.step_system config _ action with same | ⟨act, moved, creations⟩
    · exact earlier (same ▸ stored)
    · have found : (System.step config.env ((brokerMachine config).after
          (brokerMachine config).initial run).system act).1.manager.sessions.lookup id = some session :=
        moved ▸ stored
      rcases (record_origin fresh (broker_system_reachable config run) found).openedBy with
        ⟨held, kept, onward⟩ | ⟨now, request, rfl, opened⟩
      · obtain ⟨now, request, metadata, listed, admitted, opened⟩ := earlier kept
        exact ⟨now, request, metadata, listed, admitted, onward request opened⟩
      · obtain ⟨metadata, rfl, admitted⟩ := creations now request rfl
        exact ⟨now, request, metadata, by simp, admitted, opened⟩

/-- With a creator token required, creations without it change nothing, neither the state nor any
answer that anybody gets, and every session there is was opened by a call that presented it. -/
theorem sessions_need_creator_token (config : BrokerConfig Context) (fresh : config.env.NeverRepeats)
    (gated : config.requiredToken ≠ []) (run : List BrokerAction) :
    let start := (brokerMachine config).initial
    let broker := (brokerMachine config).after start run
    broker = (brokerMachine config).after start (run.filter config.passes) ∧
      ((brokerMachine config).log start run).filter (fun entry => config.passes entry.1) =
        (brokerMachine config).log start (run.filter config.passes) ∧
      ∀ id session, broker.system.manager.sessions.lookup id = some session →
        ∃ now request metadata, .createSession now request metadata ∈ run ∧
          metadata.lookup "x-ztab-creator-token" = some config.requiredToken ∧
          session.OpenedBy request := by
  intro start broker
  obtain ⟨same, logged⟩ := (brokerMachine config).without_idle config.passes
    (fun state action denied => Broker.step_denied state action denied) start run
  refine ⟨same, logged, fun id session stored => ?_⟩
  obtain ⟨now, request, metadata, listed, admitted, opened⟩ := opened_with_token config fresh run stored
  exact ⟨now, request, metadata, listed, (config.admits_iff metadata).mp admitted gated, opened⟩

theorem calendar_needs_creator_token :
    ∃ session now request metadata, ((brokerMachine calendarBroker).after
      (brokerMachine calendarBroker).initial calendarServed).system.manager.sessions.lookup "a" =
        some session ∧ .createSession now request metadata ∈ calendarServed ∧
        metadata.lookup "x-ztab-creator-token" = some (utf8 "secret") ∧
        session.OpenedBy request := by
  obtain ⟨session, stored, -⟩ := calendarServed_closed
  obtain ⟨now, request, metadata, listed, presented, opened⟩ := (sessions_need_creator_token
    calendarBroker (countingEnv_neverRepeats _) (by decide) calendarServed).2.2 "a" session stored
  exact ⟨session, now, request, metadata, stored, listed, presented, opened⟩

end Runs

end Ztab
