import Ztab.Session.Dispatch
import Ztab.Session.Survival

set_option autoImplicit false

/-!
# The retry loop

The worker asks the engine up to three times. Success is a non-empty `result_json`, so an answer
that strips to nothing ends the loop without being one.
-/

namespace Ztab

section Loop

variable (env : Environment) (outputSchema : String) (results : Nat → GenerateResult)

def Yields (attempt : Nat) (output : Bytes) : Prop :=
  (∃ text, results attempt = .ok text ∧ output = stripMarkdownCodeFences text) ∧
    (outputSchema ≠ "" → validateJsonSchema env.json env.partialMatch output outputSchema = .ok ())

def Acceptable (attempt : Nat) (output : Bytes) : Prop :=
  Yields env outputSchema results attempt output ∧ output ≠ []

/-- Without a schema, an attempt before the last gets an answer that strips to nothing. -/
def StopsEmpty : Prop :=
  outputSchema = "" ∧ ∃ attempt, attempt + 1 < kMaxLlmRetries ∧
    (∀ earlier < attempt, ∃ status, results earlier = .error status) ∧
    ∃ text, results attempt = .ok text ∧ stripMarkdownCodeFences text = []

variable {env outputSchema results}

theorem generateLoop_rejected (remaining : Nat) {attempt : Nat}
    (rejected : Rejected env outputSchema results attempt) :
    generateLoop env outputSchema results (remaining + 1) attempt =
      (generateLoop env outputSchema results remaining (attempt + 1)).afterCall := by
  rcases rejected with ⟨status, failed⟩ | ⟨text, status, answered, schema, refused⟩
  · simp [generateLoop, failed]
  · simp [generateLoop, answered, schema, refused]

theorem generateLoop_yields (remaining : Nat) {attempt : Nat} {output : Bytes}
    (yields : Yields env outputSchema results attempt output) :
    generateLoop env outputSchema results (remaining + 1) attempt = ⟨1, .ok output⟩ := by
  obtain ⟨⟨text, answered, rfl⟩, valid⟩ := yields
  by_cases unchecked : outputSchema = ""
  · simp [generateLoop, answered, unchecked]
  · simp [generateLoop, answered, unchecked, valid unchecked]

-- The loop stops at the first attempt that is not rejected.
theorem generateLoop_stops (index remaining attempt : Nat) {output : Bytes}
    (rejected : ∀ earlier < index, Rejected env outputSchema results (attempt + earlier))
    (yields : Yields env outputSchema results (attempt + index) output) :
    generateLoop env outputSchema results (remaining + index + 1) attempt =
      ⟨index + 1, .ok output⟩ := by
  induction index generalizing attempt with
  | zero => exact generateLoop_yields remaining yields
  | succ index ih =>
    have first : Rejected env outputSchema results attempt := rejected 0 (Nat.succ_pos _)
    have others := ih (attempt + 1)
      (fun earlier smaller => by
        rw [Nat.add_assoc, Nat.add_comm 1]
        exact rejected (earlier + 1) (Nat.succ_lt_succ smaller))
      (by rw [Nat.add_assoc, Nat.add_comm 1]; exact yields)
    rw [← Nat.add_assoc, generateLoop_rejected _ first, others]
    rfl

theorem generateLoop_exhausted (remaining attempt : Nat)
    (rejected : ∀ offset < remaining, Rejected env outputSchema results (attempt + offset)) :
    generateLoop env outputSchema results remaining attempt = ⟨remaining, .ok []⟩ := by
  induction remaining generalizing attempt with
  | zero => rfl
  | succ remaining ih =>
    have first : Rejected env outputSchema results attempt := rejected 0 (Nat.succ_pos _)
    have others := ih (attempt + 1) fun offset smaller => by
      rw [Nat.add_assoc, Nat.add_comm 1]
      exact rejected (offset + 1) (Nat.succ_lt_succ smaller)
    rw [generateLoop_rejected _ first, others]
    rfl

/-- The library reports an empty text as malformed. -/
def Environment.RefusesEmpty (env : Environment) : Prop :=
  ∃ what, env.json.read [] = .malformed what []

theorem Environment.RefusesEmpty.not_valid (refuses : env.RefusesEmpty) :
    validateJsonSchema env.json env.partialMatch [] outputSchema ≠ .ok () := by
  obtain ⟨what, read⟩ := refuses
  have malformed : ∃ message, parseJsonSafely env.json [] = refuse .invalidArgument message := by
    rw [parseJsonSafely_eq, read]
    exact ⟨_, rfl⟩
  obtain ⟨message, malformed⟩ := malformed
  unfold validateJsonSchema
  rw [malformed]
  simp [refuse]

-- An attempt that raises nothing and is not acceptable is rejected, or stops the loop empty.
theorem rejected_of_not_acceptable (refuses : env.RefusesEmpty) (usable : Usable env outputSchema)
    {attempt : Nat}
    (safe : ∀ text, results attempt = .ok text → outputSchema ≠ "" →
      AnswerSafe env outputSchema text)
    (declined : ∀ output, ¬ Acceptable env outputSchema results attempt output) :
    Rejected env outputSchema results attempt ∨
      outputSchema = "" ∧ Yields env outputSchema results attempt [] := by
  cases answered : results attempt with
  | error status => exact .inl (.inl ⟨status, answered⟩)
  | ok text =>
    have empty (yields : Yields env outputSchema results attempt (stripMarkdownCodeFences text)) :
        stripMarkdownCodeFences text = [] := by
      by_contra some
      exact declined _ ⟨yields, some⟩
    by_cases unchecked : outputSchema = ""
    · have yields : Yields env outputSchema results attempt (stripMarkdownCodeFences text) :=
        ⟨⟨text, answered, rfl⟩, fun schema => absurd unchecked schema⟩
      exact .inr ⟨unchecked, empty yields ▸ yields⟩
    · left
      rw [rejected_iff _ _ _ answered]
      cases verdict : validateJsonSchema env.json env.partialMatch (stripMarkdownCodeFences text)
          outputSchema with
      | ok checked =>
        have yields : Yields env outputSchema results attempt (stripMarkdownCodeFences text) :=
          ⟨⟨text, answered, rfl⟩, fun _ => verdict⟩
        rw [empty yields] at verdict
        exact absurd verdict refuses.not_valid
      | error failure =>
        cases failure with
        | status status => exact ⟨unchecked, status, rfl⟩
        | raised exception =>
          have quiet := (answerSafe_iff usable unchecked text).mp (safe text answered unchecked)
          rw [verdict] at quiet
          exact absurd (Outcome.raises_raised exception) quiet

theorem rejected_before (refuses : env.RefusesEmpty) (usable : Usable env outputSchema)
    (safe : AnswersSafe env outputSchema results kMaxLlmRetries 0)
    (continues : ¬ StopsEmpty outputSchema results) {index : Nat} (last : index < kMaxLlmRetries)
    (declined : ∀ earlier < index, ∀ output, ¬ Acceptable env outputSchema results earlier output) :
    ∀ earlier < index, Rejected env outputSchema results earlier := by
  intro earlier
  induction earlier using Nat.strongRecOn with
  | ind earlier ih =>
    intro smaller
    have before : ∀ other < earlier, Rejected env outputSchema results (0 + other) := by
      intro other lower
      rw [Nat.zero_add]
      exact ih other lower (Nat.lt_trans lower smaller)
    have quiet := safe earlier (Nat.lt_trans smaller last) before
    rw [Nat.zero_add] at quiet
    rcases rejected_of_not_acceptable refuses usable quiet (declined earlier smaller) with
      rejected | ⟨unchecked, ⟨text, answered, none⟩, -⟩
    · exact rejected
    · refine absurd ⟨unchecked, earlier, by omega, fun other lower => ?_, text, answered, none.symm⟩
        continues
      rcases ih other lower (Nat.lt_trans lower smaller) with failed | ⟨_, _, _, schema, _⟩
      · exact failed
      · exact absurd unchecked schema

theorem generateLoop_acceptable (refuses : env.RefusesEmpty) (usable : Usable env outputSchema)
    (safe : AnswersSafe env outputSchema results kMaxLlmRetries 0)
    (continues : ¬ StopsEmpty outputSchema results) {index : Nat} (last : index < kMaxLlmRetries)
    (declined : ∀ earlier < index, ∀ output, ¬ Acceptable env outputSchema results earlier output)
    {output : Bytes} (accepted : Acceptable env outputSchema results index output) :
    generateLoop env outputSchema results kMaxLlmRetries 0 = ⟨index + 1, .ok output⟩ := by
  have rejected := rejected_before refuses usable safe continues last declined
  have stops := generateLoop_stops index (kMaxLlmRetries - (index + 1)) 0
    (fun earlier smaller => by rw [Nat.zero_add]; exact rejected earlier smaller)
    (by rw [Nat.zero_add]; exact accepted.1)
  rwa [Nat.add_assoc, Nat.sub_add_cancel last] at stops

theorem generateLoop_unacceptable (refuses : env.RefusesEmpty) (usable : Usable env outputSchema)
    (safe : AnswersSafe env outputSchema results kMaxLlmRetries 0)
    (continues : ¬ StopsEmpty outputSchema results)
    (declined : ∀ index < kMaxLlmRetries, ∀ output,
      ¬ Acceptable env outputSchema results index output) :
    generateLoop env outputSchema results kMaxLlmRetries 0 = ⟨kMaxLlmRetries, .ok []⟩ := by
  have last : 2 < kMaxLlmRetries := by decide
  have rejected : ∀ earlier < 2, Rejected env outputSchema results (0 + earlier) := by
    intro earlier smaller
    rw [Nat.zero_add]
    exact rejected_before refuses usable safe continues last
      (fun other lower => declined other (Nat.lt_trans lower last)) earlier smaller
  have quiet := safe 2 last rejected
  -- The third attempt may strip to nothing: the loop is over then as well.
  rcases rejected_of_not_acceptable refuses usable quiet (declined 2 last) with third | ⟨-, empty⟩
  · refine generateLoop_exhausted kMaxLlmRetries 0 fun offset within => ?_
    obtain smaller | rfl : offset < 2 ∨ offset = 2 := by
      have three : kMaxLlmRetries = 3 := rfl
      omega
    · exact rejected offset smaller
    · exact third
  · exact generateLoop_stops 2 0 0 rejected empty

theorem generateLoop_stopsEmpty (stops : StopsEmpty outputSchema results) :
    ∃ index, index + 1 < kMaxLlmRetries ∧
      (∀ earlier ≤ index, ∀ output, ¬ Acceptable env outputSchema results earlier output) ∧
      (generateLoop env outputSchema results kMaxLlmRetries 0).calls = index + 1 := by
  obtain ⟨unchecked, index, early, failed, text, answered, none⟩ := stops
  have rejected : ∀ earlier < index, Rejected env outputSchema results (0 + earlier) := by
    intro earlier smaller
    rw [Nat.zero_add]
    exact .inl (failed earlier smaller)
  have empty : Yields env outputSchema results (0 + index) [] := by
    rw [Nat.zero_add]
    exact ⟨⟨text, answered, none.symm⟩, fun schema => absurd unchecked schema⟩
  refine ⟨index, early, fun earlier lower output accepted => ?_, ?_⟩
  · obtain ⟨⟨⟨other, there, rfl⟩, -⟩, some⟩ := accepted
    rcases Nat.lt_or_eq_of_le lower with smaller | rfl
    · obtain ⟨status, error⟩ := failed earlier smaller
      cases error.symm.trans there
    · cases answered.symm.trans there
      exact some none
  · have ended := generateLoop_stops index (kMaxLlmRetries - (index + 1)) 0 rejected empty
    rw [Nat.add_assoc, Nat.sub_add_cancel (Nat.le_of_lt early)] at ended
    rw [ended]

end Loop

namespace System

variable {env : Environment} {system : System} {index : Nat} {thread : Thread}
  {outcome : Except Status Bytes}

-- Between the engine and step 3 a thread does nothing but wait for the lock.
theorem step_inferred (fresh : env.NeverRepeats) (reachable : (machine env).Reachable system)
    (here : system.threads[index]? = some thread) (phase : thread.phase = .inferred outcome)
    {action : Action} (other : ∀ now, action ≠ .writeResult index now) :
    (system.step env action).1.threads[index]? = some thread := by
  obtain ⟨bound, -⟩ := List.getElem?_eq_some_iff.mp here
  cases owner_of_reachable fresh reachable action with
  | call id session resolved stored isolated =>
    have silent := Action.thread_of_resolves resolved
    rw [isolated.threads, filed, silent, List.getElem?_append_left bound, here]
  | worker position moved own there isolated =>
    by_cases same : position = index
    · subst same
      cases here.symm.trans there
      have idle : (thread.phase.work env (env.randomHex system.manager.draws)
          (system.manager.sessions.lookup thread.session) action).phase = some thread.phase := by
        rw [phase]
        cases action with
        | writeResult position' now =>
          cases own
          exact absurd rfl (other now)
        | _ => rfl
      simp only [isolated.threads, filed, own, idle, Option.elim_some]
      rw [List.getElem?_set_self bound]
    · simp only [isolated.threads, filed, own]
      cases (moved.phase.work env (env.randomHex system.manager.draws)
          (system.manager.sessions.lookup moved.session) action).phase with
      | none => exact here
      | some next => rw [Option.elim_some, List.getElem?_set_ne same, here]
  | create now request same manager =>
    subst same
    rw [createSession_threads, here]
  | nobody same => rw [same, here]

theorem after_inferred (fresh : env.NeverRepeats) (reachable : (machine env).Reachable system)
    (here : system.threads[index]? = some thread) (phase : thread.phase = .inferred outcome)
    (actions : List Action) (others : ∀ now, .writeResult index now ∉ actions) :
    ((machine env).after system actions).threads[index]? = some thread := by
  induction actions generalizing system with
  | nil => exact here
  | cons action rest ih =>
    have apart : ∀ now, action ≠ .writeResult index now := by
      rintro now rfl
      exact others now List.mem_cons_self
    exact ih (reachable.step action) (step_inferred fresh reachable here phase apart)
      fun now later => others now (List.mem_cons_of_mem _ later)

theorem step_writeResult (running : system.alive = true)
    (here : system.threads[index]? = some thread) (phase : thread.phase = .inferred outcome)
    {session : Session} (stored : system.manager.sessions.lookup thread.session = some session)
    (calculating : session.state = .CALCULATING) (now : Int) :
    (system.step env (.writeResult index now)).1.manager.sessions.lookup thread.session =
      some (session.writeOutcome now outcome) := by
  simp only [step, running, if_true, perform, onThread, here, threadStep, phase, setPhase,
    SessionManager.writeResult, stored, calculating, ne_eq, not_true, if_false]
  exact AList.lookup_insert _

def WritesAs (env : Environment) (system : System) (index : Nat) (id : String)
    (expected : Session → Prop) : Prop :=
  ∀ between now session, (∀ time, .writeResult index time ∉ between) →
    ((machine env).after system between).alive = true →
    ((machine env).after system between).manager.sessions.lookup id = some session →
    session.state = .CALCULATING →
    ∃ written, (((machine env).after system between).step env
        (.writeResult index now)).1.manager.sessions.lookup id = some written ∧ expected written

theorem writesAs_of_inferred (fresh : env.NeverRepeats) (reachable : (machine env).Reachable system)
    (here : system.threads[index]? = some thread) (phase : thread.phase = .inferred outcome)
    {expected : Session → Prop} (fits : ∀ (session : Session) now, expected (session.writeOutcome now outcome)) :
    system.WritesAs env index thread.session expected := by
  intro between now session others running stored calculating
  have waiting := after_inferred fresh reachable here phase between others
  exact ⟨_, step_writeResult running waiting phase stored calculating now, fits session now⟩

theorem step_infer (running : system.alive = true) (here : system.threads[index]? = some thread)
    {prompt outputSchema : String} (phase : thread.phase = .prompted prompt outputSchema)
    {results : Nat → GenerateResult} {resultJson : Bytes}
    (finished : (llmAttempts env outputSchema results).result = .ok resultJson) :
    (system.step env (.infer index results)).1.threads[index]? =
      some { thread with phase := .inferred (processStatus env resultJson) } := by
  obtain ⟨bound, -⟩ := List.getElem?_eq_some_iff.mp here
  simp only [step, running, if_true, perform, onThread, here, threadStep, phase, infer, finished,
    setPhase, record]
  exact List.getElem?_set_self bound

/--
The worker writes the first acceptable answer of the engine's first three and asks no further, or
else aborts the session after all three.
-/
structure WritesFirstAcceptable (env : Environment) (system : System) (index : Nat) (id : String)
    (outputSchema : String) (results : Nat → GenerateResult) : Prop where
  written : system.ReachesStepThree env index results
  closed : ∀ attempt < kMaxLlmRetries, ∀ output,
    (∀ earlier < attempt, ∀ other, ¬ Acceptable env outputSchema results earlier other) →
    Acceptable env outputSchema results attempt output →
      (llmAttempts env outputSchema results).calls = attempt + 1 ∧
        (system.step env (.infer index results)).1.WritesAs env index id fun session =>
          session.state = .CLOSED ∧ session.resultJson = output
  aborted : (∀ attempt < kMaxLlmRetries, ∀ output,
      ¬ Acceptable env outputSchema results attempt output) →
    (llmAttempts env outputSchema results).calls = kMaxLlmRetries ∧
      (system.step env (.infer index results)).1.WritesAs env index id fun session =>
        session.state = .ABORTED ∧ session.errorCode = .LLM_GENERATION_FAILED

end System

/--
The loop and the test after it agree exactly when no answer that the loop gets to makes its check
raise, and no answer before the last attempt is empty where there is no schema to refuse it.
-/
theorem writes_first_acceptable_iff (env : Environment) (fresh : env.NeverRepeats)
    (engine : env.hasEngine = true) (refuses : env.RefusesEmpty) (system : System)
    (reachable : (machine env).Reachable system) (running : system.alive = true) (index : Nat)
    (thread : Thread) (here : system.threads[index]? = some thread) (prompt outputSchema : String)
    (phase : thread.phase = .prompted prompt outputSchema) (results : Nat → GenerateResult) :
    system.WritesFirstAcceptable env index thread.session outputSchema results ↔
      AnswersSafe env outputSchema results kMaxLlmRetries 0 ∧ ¬ StopsEmpty outputSchema results := by
  have usable := (usableSchemas_of_reachable reachable).threads thread (List.mem_of_getElem? here)
    prompt outputSchema phase
  have prompted : system.At index (.prompted prompt outputSchema) := ⟨running, by simp [here, phase]⟩
  have looped : llmAttempts env outputSchema results =
      generateLoop env outputSchema results kMaxLlmRetries 0 := by simp [llmAttempts, engine]
  have survives := llmAttempts_ok_iff env outputSchema results usable
  rw [← prompted.reachesStepThree_iff] at survives
  simp only [engine, true_implies] at survives
  constructor
  · rintro ⟨written, closed, aborted⟩
    refine ⟨survives.mp written, fun stops => ?_⟩
    obtain ⟨last, early, declined, calls⟩ := @generateLoop_stopsEmpty env outputSchema results stops
    rw [looped, calls] at closed aborted
    by_cases some : ∃ attempt, attempt < kMaxLlmRetries ∧
        ∃ output, Acceptable env outputSchema results attempt output
    · -- The first acceptable attempt comes after the one at which the loop stopped.
      classical
      obtain ⟨within, output, accepted⟩ := Nat.find_spec some
      have first : ∀ earlier < Nat.find some, ∀ other,
          ¬ Acceptable env outputSchema results earlier other := by
        intro earlier smaller other found
        exact Nat.find_min some smaller ⟨Nat.lt_trans smaller within, other, found⟩
      have same := (closed _ within output first accepted).1
      exact declined _ (by omega) output accepted
    · have all := (aborted fun attempt within output accepted =>
        some ⟨attempt, within, output, accepted⟩).1
      omega
  · rintro ⟨safe, continues⟩
    have writes {resultJson : Bytes} (calls : Nat)
        (ended : generateLoop env outputSchema results kMaxLlmRetries 0 = ⟨calls, .ok resultJson⟩)
        {expected : Session → Prop}
        (fits : ∀ (session : Session) now,
          expected (session.writeOutcome now (processStatus env resultJson))) :
        (llmAttempts env outputSchema results).calls = calls ∧
          (system.step env (.infer index results)).1.WritesAs env index thread.session expected := by
      have finished : (llmAttempts env outputSchema results).result = .ok resultJson := by
        rw [looped, ended]
      refine ⟨by rw [looped, ended], ?_⟩
      exact System.writesAs_of_inferred fresh (reachable.step (.infer index results))
        (System.step_infer running here phase finished) rfl fits
    refine ⟨survives.mpr safe, fun attempt last output declined accepted => ?_, fun declined => ?_⟩
    · refine writes _ (generateLoop_acceptable refuses usable safe continues last declined accepted)
        fun session now => ?_
      have ok : processStatus env output = .ok output := by
        simp [processStatus, engine, accepted.2]
      rw [ok]
      exact ⟨rfl, rfl⟩
    · refine writes _ (generateLoop_unacceptable refuses usable safe continues declined)
        fun session now => ?_
      have failed : ∃ status, processStatus env [] = .error status := by
        simp [processStatus, engine]
      obtain ⟨status, failed⟩ := failed
      rw [failed]
      exact ⟨rfl, rfl⟩

def freeTextEnv : Environment :=
  countingEnv (AList.insert "calendar" { calendarPolicy with defaultOutputSchemaJson := "" } ∅)

def freeTextPrompted : System :=
  (machine freeTextEnv).after (machine freeTextEnv).initial
    (calendarSubmissions ++ [.spawnSucceeds 0, .preparePrompt 0])

-- The worker of the session, and the schema it has copied.
theorem freeText_thread : ∃ prompt thread, freeTextPrompted.threads[0]? = some thread ∧
    thread.session = "a" ∧ thread.phase = .prompted prompt "" :=
  ⟨_, ⟨"a", .prompted _ ""⟩, rfl, rfl, rfl⟩

theorem freeText_first_written :
    freeTextPrompted.WritesFirstAcceptable freeTextEnv 0 "a" "" (fun _ => .ok (utf8 "[3]")) := by
  obtain ⟨prompt, thread, here, own, phase⟩ := freeText_thread
  have text : stripMarkdownCodeFences (utf8 "[3]") ≠ [] := by decide +kernel
  rw [← own]
  refine (writes_first_acceptable_iff freeTextEnv (countingEnv_neverRepeats _) rfl ⟨_, rfl⟩
    freeTextPrompted ⟨_, rfl⟩ (by decide +kernel) 0 thread here prompt "" phase _).mpr ⟨?_, ?_⟩
  · intro offset within rejected answer answered schema
    exact absurd rfl schema
  · rintro ⟨-, attempt, early, failed, answer, answered, none⟩
    cases answered
    exact text none

def secondTry (attempt : Nat) : GenerateResult :=
  if attempt = 0 then .ok [] else .ok (utf8 "[3]")

/-- The loop stops at the empty answer, and the session is aborted after one call. -/
theorem empty_answer_ends_loop :
    (llmAttempts freeTextEnv "" secondTry).calls = 1 ∧
      ((((machine freeTextEnv).after freeTextPrompted
          [.infer 0 secondTry, .writeResult 0 0]).manager.sessions.lookup "a").map fun session =>
        (session.state, session.errorCode)) = some (.ABORTED, .LLM_GENERATION_FAILED) ∧
      Acceptable freeTextEnv "" secondTry 1 (utf8 "[3]") ∧
      ¬ freeTextPrompted.WritesFirstAcceptable freeTextEnv 0 "a" "" secondTry := by
  have one : (llmAttempts freeTextEnv "" secondTry).calls = 1 := by decide +kernel
  have text : stripMarkdownCodeFences (utf8 "[3]") = utf8 "[3]" := by decide +kernel
  have accepted : Acceptable freeTextEnv "" secondTry 1 (utf8 "[3]") :=
    ⟨⟨⟨_, rfl, text.symm⟩, fun schema => absurd rfl schema⟩, by decide +kernel⟩
  refine ⟨one, by decide +kernel, accepted, fun writes => ?_⟩
  have calls := (writes.closed 1 (by decide) _ ?_ accepted).1
  · rw [one] at calls
    cases calls
  · rintro earlier smaller output ⟨⟨⟨answer, answered, rfl⟩, -⟩, some⟩
    have zero : earlier = 0 := by omega
    subst zero
    cases answered
    exact some (by decide)

end Ztab
