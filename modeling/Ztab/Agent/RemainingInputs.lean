import Ztab.Agent.McpServer
import Ztab.Session.Docket
import Ztab.Session.Submissions

set_option autoImplicit false

/-!
# The inputs that remain

SubmitInput answers with the number of inputs that are still missing, and the agent's tool tells
its caller that all are there when the number is zero. The number is computed in four places.
-/

namespace Ztab

namespace Session

def Provided (session : Session) : Prop := session.Settled ∧ session.remainingInputs = 0

theorem Step.provided {env : Environment} {actor : Actor} {before after : Session}
    (step : before.Step env actor after) (provided : before.Provided) : after.Provided := by
  obtain ⟨settled, complete⟩ := provided
  cases step with
  | same => exact ⟨settled, complete⟩
  | timeout now due => exact ⟨.inr (.inr rfl), complete⟩
  | spawnFailure what => exact ⟨.inr (.inr rfl), complete⟩
  | write now outcome waiting =>
    cases outcome with
    | ok resultJson => exact ⟨.inr (.inl rfl), complete⟩
    | error status => exact ⟨.inr (.inr rfl), complete⟩
  | accept token participant listed waiting missing =>
    simp [Settled, SessionState.Terminal, waiting] at settled
  | sealing now token participant listed waiting full accepted =>
    simp [Settled, SessionState.Terminal, waiting] at settled
  | submit token inputJson canonical participant listed unsubmitted waiting admitted missing =>
    simp [Settled, SessionState.Terminal, waiting] at settled
  | calculate now token inputJson canonical participant listed unsubmitted waiting =>
    simp [Settled, SessionState.Terminal, waiting] at settled

theorem Ready.provided {session : Session} (ready : session.Ready)
    (calculating : session.state = .CALCULATING) : session.Provided :=
  ⟨.inl calculating, (remainingInputs_eq_zero (ready.advanced (.inr (.inl calculating))).1).mpr
    (ready.calculated (.inl calculating))⟩

theorem call_spawning {env : Environment} {fresh : Nat → String} {session : Session} {action : Action}
    {phase : Phase} (spawned : (session.call env fresh action).phase = some phase) :
    ∃ after, (session.call env fresh action).record = some after ∧ after.state = .CALCULATING := by
  cases action with
  | submitInput now request =>
    obtain same | ⟨participant, -, same⟩ := session.withParticipant_cases env now
      request.participantToken (submitInput env now request.participantToken request.inputJson)
    · rw [call, same] at spawned
      cases spawned
    · simp only [call, same, submitted_record] at spawned ⊢
      refine ⟨_, rfl, ?_⟩
      unfold submitted at spawned
      split at spawned
      next => cases spawned
      next => cases spawned
      next sessionId dispatched =>
        obtain ⟨-, -, canonical, changed⟩ := submitInput_dispatched dispatched
        rw [changed]
        rfl
  | _ => cases spawned

end Session

namespace System

variable {env : Environment} {system : System}

theorem step_threads (fresh : env.NeverRepeats) (reachable : (machine env).Reachable system)
    (action : Action) {thread : Thread} (listed : thread ∈ (system.step env action).1.threads) :
    (∃ earlier ∈ system.threads, earlier.session = thread.session) ∨
      ∃ session, (system.step env action).1.manager.sessions.lookup thread.session = some session ∧
        session.state = .CALCULATING := by
  cases owner_of_reachable fresh reachable action with
  | call id session resolved stored isolated =>
    have silent := Action.thread_of_resolves resolved
    rw [isolated.threads, filed, silent] at listed
    rcases List.mem_append.mp listed with earlier | new
    · exact .inl ⟨thread, earlier, rfl⟩
    · obtain ⟨phase, spawned, rfl⟩ := List.mem_map.mp new
      obtain ⟨after, record, calculating⟩ := Session.call_spawning (Option.mem_toList.mp spawned)
      exact .inr ⟨after, isolated.record.trans record, calculating⟩
  | worker index moved own here isolated =>
    left
    simp only [isolated.threads, filed, own] at listed
    cases phase : (moved.phase.work env (env.randomHex system.manager.draws)
        (system.manager.sessions.lookup moved.session) action).phase with
    | none =>
      rw [phase] at listed
      exact ⟨thread, listed, rfl⟩
    | some next =>
      rw [phase] at listed
      rcases List.mem_or_eq_of_mem_set listed with earlier | rfl
      · exact ⟨thread, earlier, rfl⟩
      · exact ⟨moved, List.mem_of_getElem? here, rfl⟩
  | create now request same manager =>
    subst same
    rw [createSession_threads] at listed
    exact .inl ⟨thread, listed, rfl⟩
  | nobody same =>
    rw [same] at listed
    exact .inl ⟨thread, listed, rfl⟩

def Provided (system : System) : Prop :=
  ∀ thread ∈ system.threads, ∀ session,
    system.manager.sessions.lookup thread.session = some session → session.Provided

theorem Provided.step (fresh : env.NeverRepeats) (reachable : (machine env).Reachable system)
    (provided : system.Provided) (action : Action) : (system.step env action).1.Provided := by
  have workers := workers_of_reachable fresh reachable
  intro thread listed session found
  rcases step_threads fresh reachable action listed with ⟨earlier, member, same⟩ | ⟨held, stored, state⟩
  · rw [← same] at found
    have origin := (system.step_manager env action).origin found
    generalize action.actor = actor at origin
    cases origin with
    | stepped stored step => exact step.provided (provided earlier member _ stored)
    | joined token clientNonce stored waiting =>
      have settled := (provided earlier member _ stored).1
      simp [Session.Settled, SessionState.Terminal, waiting] at settled
    | created now creator invitation recent named admitted =>
      exact absurd named ((workers.drawn earlier member).ne_next fresh recent _)
  · cases found.symm.trans stored
    exact ((sound_of_reachable fresh (reachable.step action)).ready _ session stored).provided state

theorem provided_of_reachable (fresh : env.NeverRepeats) (reachable : (machine env).Reachable system) :
    system.Provided := by
  have both := (machine env).reachable_invariant
    (fun system => (machine env).Reachable system ∧ system.Provided)
    ⟨⟨[], rfl⟩, fun thread listed => by cases listed⟩
    (fun system action holds => ⟨holds.1.step action, holds.2.step fresh holds.1 action⟩)
    system reachable
  exact both.2

end System

namespace Session

variable {env : Environment} {session : Session} {participant : Participant}
  {response : SubmitInputResponse}

-- An answered submission counts what is missing, but for a retry outside SEALED.
theorem submitInput_answered {now : Int} {token inputJson : String}
    (answered : (session.submitInput env now token inputJson participant).2 =
      .ok (.answered response)) :
    response.remainingInputs =
        (session.submitInput env now token inputJson participant).1.remainingInputs ∨
      participant.inputSubmitted = true ∧ Repeats env inputJson participant.inputJson ∧
        session.state ≠ .SEALED ∧ response.remainingInputs = 0 ∧
        (session.submitInput env now token inputJson participant).1 = session := by
  by_cases submitted : participant.inputSubmitted = true
  · rw [submitInput_retry now token inputJson session submitted] at answered ⊢
    cases verdict : validateRetryPayload env inputJson participant.inputJson with
    | error failure =>
      rw [verdict] at answered
      cases answered
    | ok accepted =>
      rw [verdict] at answered
      cases answered
      by_cases waiting : session.state = .SEALED
      · left
        simp [acknowledged, waiting]
      · right
        exact ⟨submitted, validateRetryPayload_ok_iff.mp verdict, waiting, by simp [acknowledged, waiting],
          rfl⟩
  · left
    have first : participant.inputSubmitted = false := by simpa using submitted
    unfold submitInput at answered ⊢
    simp only [first, Bool.false_eq_true, if_false] at answered ⊢
    split_ifs at answered ⊢ with moved
    · cases answered
    · cases admitted : session.admitInput env inputJson with
      | error failure => simp [admitted] at answered
      | ok canonical =>
        simp only [admitted] at answered ⊢
        split_ifs at answered ⊢ with complete
        · cases answered
        · cases answered
          rfl

end Session

def Action.spawns : Action → Bool
  | .spawnSucceeds _ => true
  | _ => false

namespace System

variable {env : Environment} {system : System} {now : Int} {request : SubmitInputRequest}
  {id : String} {session : Session} {participant : Participant} {response : SubmitInputResponse}

theorem submitInput_replied (fresh : env.NeverRepeats) (reachable : (machine env).Reachable system)
    (running : system.alive = true)
    (known : system.manager.authenticate request.participantToken = .ok (id, session, participant))
    (answered : (system.step env (.submitInput now request)).2 = .submitInput (.ok response)) :
    ((session.checkAndEnforceTimeout env now).submitInput env now request.participantToken
        request.inputJson participant).2 = .ok (.answered response) ∧
      (system.step env (.submitInput now request)).1.manager.sessions.lookup id =
        some ((session.checkAndEnforceTimeout env now).submitInput env now request.participantToken
          request.inputJson participant).1 := by
  obtain ⟨indexed, stored, listed⟩ := SessionManager.authenticate_ok known
  obtain ⟨held, kept, isolated⟩ :=
    (isolated_of_running fresh reachable running).calls (.submitInput now request) id indexed
  cases stored.symm.trans kept
  have turn : session.call env (env.randomHex system.manager.draws) (.submitInput now request) =
      Session.submitted ((session.checkAndEnforceTimeout env now).submitInput env now
        request.participantToken request.inputJson participant) := by
    simp only [Session.call, Session.withParticipant, listed]
  have reply := isolated.reply
  have record := isolated.record
  rw [turn] at reply record
  refine ⟨?_, record.trans (Session.submitted_record _)⟩
  rw [answered] at reply
  unfold Session.submitted at reply
  split at reply
  next answer found =>
    cases reply
    exact found
  next => cases reply
  next => cases reply

theorem infer_reply (index : Nat) (thread : Thread) (prompt outputSchema : String)
    (results : Nat → GenerateResult) :
    (system.infer env index thread prompt outputSchema results).2 ≠ .submitInput (.ok response) := by
  unfold infer
  simp only
  split <;> simp

theorem threadStep_ok {index : Nat} {thread : Thread} {action : Action}
    (answered : (system.threadStep env index thread action).2 = .submitInput (.ok response)) :
    action.spawns = true ∧ response.remainingInputs = 0 ∧
      (system.threadStep env index thread action).1.manager = system.manager := by
  unfold threadStep at answered ⊢
  split at answered <;> try (split at answered)
  next phase =>
    cases answered
    exact ⟨rfl, rfl, rfl⟩
  all_goals first | cases answered | exact absurd answered (system.infer_reply _ _ _ _ _)

-- Only SubmitInput itself and the end of a successful spawn give this answer.
theorem step_submitInput_ok {action : Action}
    (answered : (system.step env action).2 = .submitInput (.ok response)) :
    system.alive = true ∧
      ((∃ now request, action = .submitInput now request) ∨
        ∃ index thread, action = .spawnSucceeds index ∧ system.threads[index]? = some thread ∧
          response.remainingInputs = 0 ∧ (system.step env action).1.manager = system.manager) := by
  unfold step at answered ⊢
  split at answered
  next running =>
    refine ⟨running, ?_⟩
    -- The step of a thread, on the thread that the action names.
    have onThread_ok (position : Nat)
        (answered : (system.onThread env position action).2 = .submitInput (.ok response)) :
        action.spawns = true ∧ ∃ thread, system.threads[position]? = some thread ∧
          response.remainingInputs = 0 ∧
          (system.onThread env position action).1.manager = system.manager := by
      unfold onThread at answered ⊢
      split at answered
      next => cases answered
      next thread here =>
        obtain ⟨spawned, none, same⟩ := threadStep_ok answered
        exact ⟨spawned, thread, here, none, same⟩
    cases action with
    | submitInput now request => exact .inl ⟨now, request, rfl⟩
    | createSession now request =>
      simp only [perform, createSession] at answered
      split at answered <;> cases answered
    | joinSession now request =>
      simp only [perform, joinSession] at answered
      split at answered <;> cases answered
    | acceptPolicy now request => cases answered
    | getResult now request => cases answered
    | getSessionStatus now request => cases answered
    | spawnSucceeds position =>
      obtain ⟨-, thread, here, none, same⟩ := onThread_ok position answered
      exact .inr ⟨position, thread, rfl, here, none, by rw [if_pos running]; exact same⟩
    | spawnFails position what => cases (onThread_ok position answered).1
    | preparePrompt position => cases (onThread_ok position answered).1
    | infer position results => cases (onThread_ok position answered).1
    | writeResult position now => cases (onThread_ok position answered).1
    | leave position => cases (onThread_ok position answered).1
  next => cases answered

def servedBy (system : System) (action : Action) : Option String :=
  (action.resolves system.manager).or (system.workedOn action)

end System

def allInputsReceived : String := "All inputs received. Call ztab_get_result."

structure Counts (session : Session) (response : SubmitInputResponse) : Prop where
  remaining : response.remainingInputs = session.policy.expectedParticipants - session.submittedCount
  announced : ∀ python request,
    (successResult python (.submitInput request) response).item "instructions" =
        .ok (pyText allInputsReceived) →
      (session.submittedCount : Int) = session.policy.expectedParticipants

theorem announced_iff (python : Python) (request : SubmitInputRequest)
    (response : SubmitInputResponse) :
    (successResult python (.submitInput request) response).item "instructions" =
        .ok (pyText allInputsReceived) ↔ response.remainingInputs = 0 := by
  have chosen : (successResult python (.submitInput request) response).item "instructions" =
      .ok (pyText (if response.remainingInputs = 0 then allInputsReceived
        else "Waiting for " ++ toString response.remainingInputs ++ " more input(s).")) := by
    have status : py "status" ≠ py "instructions" := by decide
    have state : py "state" ≠ py "instructions" := by decide
    have remaining : py "remaining_inputs" ≠ py "instructions" := by decide
    simp [successResult, pyDict, PyValue.item, PyValue.find, status, state, remaining,
      allInputsReceived]
  rw [chosen]
  split_ifs with none
  · simp [none]
  · refine iff_of_false (fun same => ?_) none
    -- The texts differ in their first letter.
    have waits : (py "Waiting for ").head? = some 87 := by decide
    have all : (py allInputsReceived).head? = some 65 := by decide
    simp only [Except.ok.injEq, pyText, PyValue.str.injEq] at same
    have first := congrArg List.head? same
    rw [all, py, String.append_assoc, String.toList_append, List.map_append, List.head?_append] at first
    change (py "Waiting for ").head?.or _ = _ at first
    rw [waits] at first
    cases first

theorem counts_iff {session : Session} {response : SubmitInputResponse} :
    Counts session response ↔ response.remainingInputs = session.remainingInputs := by
  refine ⟨fun counts => counts.remaining, fun same => ⟨same, fun python request announced => ?_⟩⟩
  rw [announced_iff, same, Session.remainingInputs] at announced
  omega

/-- Every response that SubmitInput gives in this step is true of the session after it. -/
def TellsRemaining (env : Environment) (system : System) (action : Action) : Prop :=
  ∀ id response session, system.servedBy action = some id →
    (system.step env action).2 = .submitInput (.ok response) →
      (system.step env action).1.manager.sessions.lookup id = some session → Counts session response

/-- A stored input is submitted again to a session that was aborted before all inputs came. -/
def RetriesPartial (env : Environment) (system : System) (action : Action) : Prop :=
  system.alive = true ∧
    ∃ now request id session participant, action = .submitInput now request ∧
      system.manager.authenticate request.participantToken = .ok (id, session, participant) ∧
      participant.inputSubmitted = true ∧ Repeats env request.inputJson participant.inputJson ∧
      (session.checkAndEnforceTimeout env now).state = .ABORTED ∧
      (session.submittedCount : Int) ≠ session.policy.expectedParticipants

namespace Session

theorem checkAndEnforceTimeout_remaining (env : Environment) (now : Int) (session : Session) :
    (session.checkAndEnforceTimeout env now).remainingInputs = session.remainingInputs := by
  unfold checkAndEnforceTimeout
  split <;> rfl

-- Past SEALED and not aborted, nothing remains; before it, nobody has submitted.
theorem Ready.remaining_of_not_aborted {session : Session} (ready : session.Ready) {token : String}
    {participant : Participant} (listed : session.participants.lookup token = some participant)
    (submitted : participant.inputSubmitted = true) (moved : session.state ≠ .SEALED)
    (alive : session.state ≠ .ABORTED) : session.remainingInputs = 0 := by
  have done : session.state = .CALCULATING ∨ session.state = .CLOSED := by
    cases state : session.state with
    | OPEN =>
      have empty := ready.openEmpty state token participant listed
      rw [submitted] at empty
      cases empty
    | SEALED => exact absurd state moved
    | ABORTED => exact absurd state alive
    | CALCULATING => exact .inl rfl
    | CLOSED => exact .inr rfl
  exact (remainingInputs_eq_zero (ready.advanced (.inr done)).1).mpr (ready.calculated done)

end Session

section Telling

variable {env : Environment} {system : System} {action : Action}

theorem tellsRemaining_of_not_partial (fresh : env.NeverRepeats)
    (reachable : (machine env).Reachable system) (whole : ¬ RetriesPartial env system action) :
    TellsRemaining env system action := by
  intro id response session served answered found
  rw [counts_iff]
  obtain ⟨running, ⟨now, request, rfl⟩ | ⟨index, thread, rfl, here, zero, same⟩⟩ :=
    System.step_submitInput_ok answered
  · have served : system.manager.participantToSession.lookup request.participantToken = some id := by
      simpa [System.servedBy, Action.resolves, System.workedOn, Action.thread] using served
    have sound := sound_of_reachable fresh reachable
    obtain ⟨held, participant, known⟩ := (SessionManager.authenticate_ok_iff sound.toIndexed _ id).mpr
      ((sound.toIndexed.participants _ _).mp served)
    obtain ⟨-, -, listed⟩ := SessionManager.authenticate_ok known
    obtain ⟨replied, stored⟩ := System.submitInput_replied fresh reachable running known answered
    cases found.symm.trans stored
    rcases Session.submitInput_answered replied with counted | ⟨submitted, repeats, moved, zero, same⟩
    · exact counted
    · rw [same] at stored ⊢
      rw [zero]
      have ready := (sound_of_reachable fresh (reachable.step (.submitInput now request))).ready id _ stored
      by_cases aborted : (held.checkAndEnforceTimeout env now).state = .ABORTED
      · have complete : (held.submittedCount : Int) = held.policy.expectedParticipants := by
          by_contra partly
          exact whole ⟨running, now, request, id, held, participant, rfl, known, submitted, repeats,
            aborted, partly⟩
        rw [Session.checkAndEnforceTimeout_remaining, Session.remainingInputs]
        omega
      · rw [← Session.checkAndEnforceTimeout_participants env now held] at listed
        exact (ready.remaining_of_not_aborted listed submitted moved aborted).symm
  · have own : id = thread.session := by
      simpa [System.servedBy, Action.resolves, System.workedOn, Action.thread, here] using served.symm
    subst own
    rw [same] at found
    have provided := System.provided_of_reachable fresh reachable thread (List.mem_of_getElem? here)
      session found
    rw [zero, provided.2]

theorem not_tellsRemaining (retries : RetriesPartial env system action) :
    ¬ TellsRemaining env system action := by
  obtain ⟨running, now, request, id, session, participant, rfl, known, submitted, repeats, aborted,
    partly⟩ := retries
  obtain ⟨indexed, -, -⟩ := SessionManager.authenticate_ok known
  have step := System.submitInput_retry env running now known submitted
  rw [validateRetryPayload_ok_iff.mpr repeats] at step
  intro tells
  have served : system.servedBy (.submitInput now request) = some id := by
    simp [System.servedBy, Action.resolves, indexed]
  have counts := tells id _ (session.checkAndEnforceTimeout env now) served (by rw [step]; rfl)
    (by rw [step]; exact AList.lookup_insert _)
  rw [counts_iff, Session.checkAndEnforceTimeout_remaining, Session.remainingInputs] at counts
  simp only [Session.acknowledged, aborted] at counts
  apply partly
  simp only [reduceCtorEq, if_false] at counts
  omega

end Telling

/--
Along every run, each answer of SubmitInput says how many inputs are missing, except the answers to
retries in sessions that were aborted with inputs missing.
-/
theorem remaining_inputs_told_iff (env : Environment) (fresh : env.NeverRepeats)
    (earlier : List Action) (action : Action) :
    TellsRemaining env ((machine env).after (machine env).initial earlier) action ↔
      ¬ RetriesPartial env ((machine env).after (machine env).initial earlier) action :=
  ⟨fun tells retries => not_tellsRemaining retries tells,
    tellsRemaining_of_not_partial fresh ⟨earlier, rfl⟩⟩

def Reply.submission : Reply → Option SubmitInputResponse
  | .submitInput (.ok response) => some response
  | _ => none

theorem Reply.of_submission {reply : Reply} {response : SubmitInputResponse}
    (said : reply.submission = some response) : reply = .submitInput (.ok response) := by
  unfold submission at said
  split at said
  next =>
    cases said
    rfl
  next => cases said

-- One of two inputs is there.
def calendarHalf : System :=
  (machine calendarEnv).after (machine calendarEnv).initial (calendarSubmissions.take 4)

theorem calendar_retry_told :
    (calendarHalf.step calendarEnv (.submitInput 0 ⟨"aa", "[1]"⟩)).2 =
        .submitInput (.ok { state := .SEALED, remainingInputs := 1 }) ∧
      TellsRemaining calendarEnv calendarHalf (.submitInput 0 ⟨"aa", "[1]"⟩) := by
  have waiting : ∀ found ∈ (calendarHalf.manager.authenticate "aa").toOption,
      (found.2.1.checkAndEnforceTimeout calendarEnv 0).state ≠ .ABORTED := by decide +kernel
  refine ⟨Reply.of_submission (by decide +kernel), ?_⟩
  refine (remaining_inputs_told_iff calendarEnv (countingEnv_neverRepeats _)
    (calendarSubmissions.take 4) _).mpr ?_
  rintro ⟨-, now, request, id, session, participant, same, known, -, -, aborted, -⟩
  cases same
  have found : (id, session, participant) ∈ (calendarHalf.manager.authenticate "aa").toOption :=
    congrArg Except.toOption known
  exact waiting _ found aborted

/-- After the time for inputs the same call aborts the session and says that none is missing. -/
theorem aborted_retry_told_complete :
    (∃ session, (calendarHalf.step calendarEnv
        (.submitInput (seconds 601) ⟨"aa", "[1]"⟩)).1.manager.sessions.lookup "a" = some session ∧
      session.submittedCount = 1 ∧ session.policy.expectedParticipants = 2) ∧
      (calendarHalf.step calendarEnv (.submitInput (seconds 601) ⟨"aa", "[1]"⟩)).2 =
        .submitInput (.ok { state := .ABORTED, remainingInputs := 0 }) ∧
      ¬ TellsRemaining calendarEnv calendarHalf (.submitInput (seconds 601) ⟨"aa", "[1]"⟩) := by
  have present : ((calendarHalf.step calendarEnv
      (.submitInput (seconds 601) ⟨"aa", "[1]"⟩)).1.manager.sessions.lookup "a").isSome = true := by
    decide +kernel
  have counted : ∀ session ∈ (calendarHalf.step calendarEnv
      (.submitInput (seconds 601) ⟨"aa", "[1]"⟩)).1.manager.sessions.lookup "a",
      session.submittedCount = 1 ∧ session.policy.expectedParticipants = 2 := by decide +kernel
  have reply : (calendarHalf.step calendarEnv (.submitInput (seconds 601) ⟨"aa", "[1]"⟩)).2 =
      .submitInput (.ok { state := .ABORTED, remainingInputs := 0 }) :=
    Reply.of_submission (by decide +kernel)
  obtain ⟨session, stored⟩ := Option.isSome_iff_exists.mp present
  obtain ⟨one, two⟩ := counted session stored
  refine ⟨⟨session, stored, one, two⟩, reply, fun tells => ?_⟩
  have counts := (tells "a" _ session (by decide +kernel) reply stored).remaining
  simp [one, two] at counts

end Ztab
