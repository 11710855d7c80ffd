import Ztab.Session.OutputGate
import Ztab.Tee.RaisingSchemas

set_option autoImplicit false

/-!
# Survival of the worker

ParseJsonSafely catches one class of the library's exceptions. A number literal
beyond the range of a double raises another one, which ends a detached thread and
the server with it.
-/

namespace Ztab

def ParsesSafely (json : Nlohmann) (text : Bytes) : Prop :=
  (∃ value, parseJsonSafely json text = .ok value) ∨
    ∃ message, parseJsonSafely json text = refuse .invalidArgument message

/-- Some number literal the parser meets is beyond the range of a double. -/
def LiteralOverflows (json : Nlohmann) (text : Bytes) : Prop :=
  (json.read text).numbers.any NumberLiteral.overflows = true

theorem parsesSafely_iff (json : Nlohmann) (text : Bytes) :
    ParsesSafely json text ↔ ¬ LiteralOverflows json text := by
  unfold ParsesSafely LiteralOverflows
  rw [parseJsonSafely_eq]
  by_cases overflows : (json.read text).numbers.any NumberLiteral.overflows = true
  · simp [overflows, refuse]
  · rw [if_neg overflows]
    cases read : json.read text with
    | malformed what met => exact iff_of_true (.inr ⟨_, rfl⟩) (read ▸ overflows)
    | complete tree => exact iff_of_true (.inl ⟨_, rfl⟩) (read ▸ overflows)

def AnswerSafe (env : Environment) (outputSchema : String) (text : Bytes) : Prop :=
  ¬ LiteralOverflows env.json (stripMarkdownCodeFences text) ∧
    ∀ tree schema, env.json.read (stripMarkdownCodeFences text) = .complete tree →
      parseJsonSafely env.json (utf8 outputSchema) = .ok schema →
      ¬ Trips env.partialMatch (tree.readAs .lastWins) schema

-- A schema that CreateSession has let through.
def Usable (env : Environment) (schemaJson : String) : Prop :=
  schemaJson = "" ∨ ∃ schema, parseJsonSafely env.json (utf8 schemaJson) = .ok schema

theorem answerSafe_iff {env : Environment} {outputSchema : String}
    (usable : Usable env outputSchema) (checked : outputSchema ≠ "") (text : Bytes) :
    AnswerSafe env outputSchema text ↔
      ¬ (validateJsonSchema env.json env.partialMatch (stripMarkdownCodeFences text)
        outputSchema).Raises := by
  obtain ⟨schema, parsed⟩ := usable.resolve_left checked
  obtain ⟨schemaTree, -, clipped⟩ := parseJsonSafely_ok parsed
  have shallow : schema.depth ≤ kMaxJsonParseDepth := clipped ▸ Json.depth_clip _ _
  unfold validateJsonSchema AnswerSafe LiteralOverflows
  rw [parsed, parseJsonSafely_eq]
  by_cases overflows :
      (env.json.read (stripMarkdownCodeFences text)).numbers.any NumberLiteral.overflows = true
  · simp [overflows]
  · simp only [if_neg overflows]
    cases read : env.json.read (stripMarkdownCodeFences text) with
    | malformed what met =>
      rw [read] at overflows
      simp [overflows, refuse]
    | complete tree =>
      rw [read] at overflows
      simp only [validateNode_clip env.partialMatch kMaxJsonParseDepth _ _ shallow]
      simp [overflows, trips_iff]

section Loop

variable (env : Environment) (outputSchema : String) (results : Nat → GenerateResult)

def Rejected (attempt : Nat) : Prop :=
  (∃ status, results attempt = .error status) ∨
    ∃ text status, results attempt = .ok text ∧ outputSchema ≠ "" ∧
      validateJsonSchema env.json env.partialMatch (stripMarkdownCodeFences text) outputSchema =
        .error (.status status)

def AnswersSafe (attempts first : Nat) : Prop :=
  ∀ offset < attempts, (∀ earlier < offset, Rejected env outputSchema results (first + earlier)) →
    ∀ text, results (first + offset) = .ok text → outputSchema ≠ "" →
      AnswerSafe env outputSchema text

theorem answersSafe_succ (attempts first : Nat) :
    AnswersSafe env outputSchema results (attempts + 1) first ↔
      (∀ text, results first = .ok text → outputSchema ≠ "" → AnswerSafe env outputSchema text) ∧
        (Rejected env outputSchema results first →
          AnswersSafe env outputSchema results attempts (first + 1)) := by
  have shift (offset : Nat) : first + (offset + 1) = first + 1 + offset := by omega
  constructor
  · intro safe
    refine ⟨fun text answered => ?_, fun rejected offset within before text answered => ?_⟩
    · exact safe 0 (Nat.succ_pos _) (fun _ impossible => absurd impossible (Nat.not_lt_zero _)) text
        answered
    · refine safe (offset + 1) (Nat.succ_lt_succ within) (fun earlier smaller => ?_) text
        (shift offset ▸ answered)
      cases earlier with
      | zero => exact rejected
      | succ earlier => exact shift earlier ▸ before earlier (Nat.lt_of_succ_lt_succ smaller)
  · rintro ⟨now, later⟩ offset within before text answered
    cases offset with
    | zero => exact now text answered
    | succ offset =>
      refine later (before 0 (Nat.succ_pos _)) offset (Nat.lt_of_succ_lt_succ within)
        (fun earlier smaller => ?_) text (shift offset ▸ answered)
      exact shift earlier ▸ before (earlier + 1) (Nat.succ_lt_succ smaller)

theorem rejected_iff {attempt : Nat} {text : Bytes} (answered : results attempt = .ok text) :
    Rejected env outputSchema results attempt ↔ outputSchema ≠ "" ∧
      ∃ status, validateJsonSchema env.json env.partialMatch (stripMarkdownCodeFences text)
        outputSchema = .error (.status status) := by
  simp [Rejected, answered]

theorem generateLoop_ok_iff (usable : Usable env outputSchema) (remaining attempt : Nat) :
    (∃ resultJson, (generateLoop env outputSchema results remaining attempt).result =
        .ok resultJson) ↔ AnswersSafe env outputSchema results remaining attempt := by
  induction remaining generalizing attempt with
  | zero => exact iff_of_true ⟨[], rfl⟩ (fun _ impossible => absurd impossible (Nat.not_lt_zero _))
  | succ remaining ih =>
    rw [answersSafe_succ]
    cases answered : results attempt with
    | error status =>
      have rejected : Rejected env outputSchema results attempt := .inl ⟨status, answered⟩
      simp [generateLoop, answered, LlmAttempts.afterCall, ih, rejected]
    | ok text =>
      rw [rejected_iff env outputSchema results answered]
      by_cases unchecked : outputSchema = ""
      · simp [generateLoop, answered, unchecked]
      · have safe := answerSafe_iff usable unchecked text
        cases verdict : validateJsonSchema env.json env.partialMatch (stripMarkdownCodeFences text)
            outputSchema with
        | ok checked => simp [generateLoop, answered, unchecked, verdict, safe]
        | error failure =>
          cases failure with
          | status status =>
            simp [generateLoop, answered, unchecked, verdict, safe, LlmAttempts.afterCall, ih]
          | raised exception => simp [generateLoop, answered, unchecked, verdict, safe]

theorem llmAttempts_ok_iff (usable : Usable env outputSchema) :
    (∃ resultJson, (llmAttempts env outputSchema results).result = .ok resultJson) ↔
      (env.hasEngine = true → AnswersSafe env outputSchema results kMaxLlmRetries 0) := by
  unfold llmAttempts
  by_cases engine : env.hasEngine = true
  · simp only [engine, if_true, true_implies]
    exact generateLoop_ok_iff env outputSchema results usable kMaxLlmRetries 0
  · simp [engine]

end Loop

structure UsableSchemas (env : Environment) (system : System) : Prop where
  sessions : ∀ id session, system.manager.sessions.lookup id = some session →
    Usable env session.policyDef.defaultOutputSchemaJson
  threads : ∀ thread ∈ system.threads, ∀ prompt outputSchema,
    thread.phase = .prompted prompt outputSchema → Usable env outputSchema

theorem usable_of_checked {env : Environment} {name schemaJson : String}
    (checked : SessionManager.checkBuiltInSchema env name schemaJson = .ok ()) :
    Usable env schemaJson := by
  unfold SessionManager.checkBuiltInSchema at checked
  split_ifs at checked with empty
  · exact .inl empty
  · split at checked
    next schema parsed => exact .inr ⟨schema, parsed⟩
    next => simp [refuse] at checked
    next => cases checked

theorem ManagerStep.usableSchemas {env : Environment} {actor : Actor}
    {before after : SessionManager} (step : ManagerStep env before actor after)
    (usable : ∀ id session, before.sessions.lookup id = some session →
      Usable env session.policyDef.defaultOutputSchemaJson)
    (id : String) (session : Session) (found : after.sessions.lookup id = some session) :
    Usable env session.policyDef.defaultOutputSchemaJson := by
  cases step.origin found with
  | @stepped _ held _ stored step =>
    rw [step.identity.policyDef]
    exact usable id held stored
  | @joined held token clientNonce stored waiting => exact usable id held stored
  | created now creator invitation recent named admitted =>
    exact usable_of_checked admitted.outputSchema

namespace System

-- Only step 1 puts a thread at the engine, with the schema of a session that is there.
theorem threadStep_prompted {env : Environment} {system : System} {index : Nat} {thread other : Thread}
    {action : Action} {prompt outputSchema : String}
    (listed : other ∈ (system.threadStep env index thread action).1.threads)
    (prompted : other.phase = .prompted prompt outputSchema) :
    other ∈ system.threads ∨ ∃ id session, system.manager.sessions.lookup id = some session ∧
      outputSchema = session.outputSchema := by
  have moved {phase : Phase} (changed : ∀ prompt outputSchema, phase ≠ .prompted prompt outputSchema)
      (listed : other ∈ system.threads.set index { thread with phase }) : other ∈ system.threads := by
    rcases List.mem_or_eq_of_mem_set listed with kept | rfl
    · exact kept
    · exact absurd prompted (changed _ _)
  unfold threadStep at listed
  split at listed <;> try split at listed
  all_goals first
    | exact .inl listed
    | exact .inl (moved (by simp) listed)
    | skip
  · unfold preparePrompt SessionManager.preparePrompt at listed
    cases stored : system.manager.sessions.lookup thread.session with
    | none =>
      simp only [stored] at listed
      exact .inl (moved (by simp) listed)
    | some session =>
      simp only [stored] at listed
      split_ifs at listed
      · exact .inl (moved (by simp) listed)
      · rcases List.mem_or_eq_of_mem_set listed with kept | rfl
        · exact .inl kept
        · cases prompted
          exact .inr ⟨_, session, stored, rfl⟩
  · unfold infer at listed
    simp only at listed
    split at listed
    · exact .inl (moved (by simp) listed)
    · exact .inl listed

theorem step_prompted {env : Environment} {system : System} {thread : Thread} {action : Action}
    {prompt outputSchema : String} (listed : thread ∈ (system.step env action).1.threads)
    (prompted : thread.phase = .prompted prompt outputSchema) :
    thread ∈ system.threads ∨ ∃ id session, system.manager.sessions.lookup id = some session ∧
      outputSchema = session.outputSchema := by
  have onThread {index : Nat} {action : Action}
      (listed : thread ∈ (system.onThread env index action).1.threads) :
      thread ∈ system.threads ∨ ∃ id session, system.manager.sessions.lookup id = some session ∧
        outputSchema = session.outputSchema := by
    unfold System.onThread at listed
    split at listed
    · exact .inl listed
    · exact threadStep_prompted listed prompted
  unfold step at listed
  split_ifs at listed
  · cases action with
    | createSession now request =>
      simp only [perform, createSession] at listed
      split at listed
      · rw [issue_threads] at listed
        exact .inl listed
      · exact .inl listed
    | joinSession now request =>
      simp only [perform, joinSession] at listed
      split at listed
      · rw [issue_threads] at listed
        exact .inl listed
      · exact .inl listed
    | acceptPolicy now request => exact .inl listed
    | submitInput now request =>
      simp only [perform, submitInput] at listed
      split at listed
      · exact .inl listed
      · exact .inl listed
      · rcases List.mem_append.mp listed with kept | fresh
        · exact .inl kept
        · cases List.mem_singleton.mp fresh
          cases prompted
    | getResult now request => exact .inl listed
    | getSessionStatus now request => exact .inl listed
    | spawnSucceeds index => exact onThread listed
    | spawnFails index what => exact onThread listed
    | preparePrompt index => exact onThread listed
    | infer index results => exact onThread listed
    | writeResult index now => exact onThread listed
    | leave index => exact onThread listed
  · exact .inl listed

end System

theorem usableSchemas_of_reachable {env : Environment} {system : System}
    (reachable : (machine env).Reachable system) : UsableSchemas env system := by
  have both := (machine env).reachable_invariant
    (fun system => system.manager.BuiltInSchemas ∧ UsableSchemas env system)
    ⟨fun id session stored => by simp [machine] at stored, by constructor <;> simp [machine]⟩
    (fun system action holds => ?_) system reachable
  · exact both.2
  obtain ⟨builtIn, usable⟩ := holds
  have step := system.step_manager env action
  refine ⟨step.builtInSchemas builtIn, step.usableSchemas usable.sessions, ?_⟩
  intro thread listed prompt outputSchema prompted
  rcases System.step_prompted listed prompted with kept | ⟨id, session, stored, rfl⟩
  · exact usable.threads thread kept prompt outputSchema prompted
  · rw [Session.outputSchema_builtIn (builtIn id session stored).2]
    exact usable.sessions id session stored

namespace System

-- The thread is at this point of its program, and the server runs.
def At (system : System) (index : Nat) (phase : Phase) : Prop :=
  system.alive = true ∧ (system.threads[index]?).map (·.phase) = some phase

/-- The worker gets past the engine to its locked step 3. -/
def ReachesStepThree (env : Environment) (system : System) (index : Nat)
    (results : Nat → GenerateResult) : Prop :=
  ∃ outcome, (system.step env (.infer index results)).1.At index (.inferred outcome)

/-- Step 1 leads to the engine, or finds the session gone and leaves. -/
def PassesStepOne (env : Environment) (system : System) (index : Nat) : Prop :=
  (system.step env (.preparePrompt index)).1.At index .leaving ∨
    ∃ prompt outputSchema,
      (system.step env (.preparePrompt index)).1.At index (.prompted prompt outputSchema)

variable {env : Environment} {system : System} {index : Nat}

theorem At.thread {phase : Phase} (here : system.At index phase) :
    ∃ thread, system.threads[index]? = some thread ∧ thread.phase = phase :=
  Option.map_eq_some_iff.mp here.2

theorem At.setPhase {phase : Phase} {thread : Thread} {after : System}
    (here : system.threads[index]? = some thread) (alive : after.alive = true)
    (threads : after.threads = system.threads.set index { thread with phase }) :
    after.At index phase := by
  obtain ⟨within, -⟩ := List.getElem?_eq_some_iff.mp here
  exact ⟨alive, by simp [threads, within]⟩

theorem At.passesStepOne (started : system.At index .started) : system.PassesStepOne env index := by
  obtain ⟨thread, here, phase⟩ := started.thread
  unfold PassesStepOne
  simp only [step, started.1, if_true, perform, onThread, here, threadStep, phase, preparePrompt]
  split
  · exact .inl (.setPhase here rfl rfl)
  · exact .inr ⟨_, _, .setPhase here rfl rfl⟩

theorem At.reachesStepThree_iff {prompt outputSchema : String}
    (prompted : system.At index (.prompted prompt outputSchema)) (results : Nat → GenerateResult) :
    system.ReachesStepThree env index results ↔
      ∃ resultJson, (llmAttempts env outputSchema results).result = .ok resultJson := by
  obtain ⟨thread, here, phase⟩ := prompted.thread
  unfold ReachesStepThree
  simp only [step, prompted.1, if_true, perform, onThread, here, threadStep, phase, infer]
  split
  next resultJson ended =>
    exact iff_of_true ⟨_, .setPhase here prompted.1 rfl⟩ ⟨resultJson, ended⟩
  next exception raised =>
    refine iff_of_false (fun reached => ?_) (fun impossible => ?_)
    · obtain ⟨outcome, alive, -⟩ := reached
      cases alive
    · obtain ⟨resultJson, ended⟩ := impossible
      cases raised.symm.trans ended

end System

/-- The parser and the worker let no exception out exactly when no literal they meet overflows. -/
theorem worker_survives_iff (env : Environment) (system : System)
    (reachable : (machine env).Reachable system) :
    (∀ text, ParsesSafely env.json text ↔ ¬ LiteralOverflows env.json text) ∧
      ∀ index,
        (system.At index .started → system.PassesStepOne env index) ∧
        ∀ prompt outputSchema, system.At index (.prompted prompt outputSchema) → ∀ results,
          (system.ReachesStepThree env index results ↔
            (env.hasEngine = true → AnswersSafe env outputSchema results kMaxLlmRetries 0)) := by
  refine ⟨parsesSafely_iff env.json, fun index => ⟨fun started => started.passesStepOne, ?_⟩⟩
  intro prompt outputSchema prompted results
  obtain ⟨thread, here, phase⟩ := prompted.thread
  have usable := (usableSchemas_of_reachable reachable).threads thread (List.mem_of_getElem? here)
    prompt outputSchema phase
  rw [prompted.reachesStepThree_iff]
  exact llmAttempts_ok_iff env outputSchema results usable

def Phase.isPrompted : Phase → Bool
  | .prompted _ _ => true
  | _ => false

-- The worker of the small deployment, about to ask the engine.
def calendarPrompted : System :=
  (machine calendarEnv).after (machine calendarEnv).initial
    (calendarSubmissions ++ [.spawnSucceeds 0, .preparePrompt 0])

theorem calendar_worker_survives :
    ∃ prompt outputSchema, calendarPrompted.At 0 (.prompted prompt outputSchema) ∧
      ∀ results, calendarPrompted.ReachesStepThree calendarEnv 0 results ↔
        (calendarEnv.hasEngine = true →
          AnswersSafe calendarEnv outputSchema results kMaxLlmRetries 0) := by
  have survives := worker_survives_iff calendarEnv calendarPrompted ⟨_, rfl⟩
  have alive : calendarPrompted.alive = true := by decide +kernel
  have asking : (calendarPrompted.threads[0]?).map (·.phase.isPrompted) = some true := by
    decide +kernel
  obtain ⟨⟨session, phase⟩, here, isPrompted⟩ := Option.map_eq_some_iff.mp asking
  cases phase with
  | prompted prompt outputSchema =>
    have prompted : calendarPrompted.At 0 (.prompted prompt outputSchema) := ⟨alive, by simp [here]⟩
    exact ⟨prompt, outputSchema, prompted, (survives.2 0).2 prompt outputSchema prompted⟩
  | _ => cases isPrompted

-- A literal beyond the doubles ends the server with the worker.
theorem overflowing_answer_kills :
    ¬ ParsesSafely calendarEnv.json (utf8 "1e999") ∧
      ((machine calendarEnv).after (machine calendarEnv).initial
        (calendarSubmissions ++ calendarInference "1e999")).alive = false := by
  refine ⟨?_, by decide +kernel⟩
  rw [parsesSafely_iff, not_not]
  unfold LiteralOverflows
  decide +kernel

end Ztab
