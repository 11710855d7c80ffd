import Ztab.Session.System

set_option autoImplicit false

/-!
# What a step can do

One relation lists every way an action changes a stored session, a second one
every way it changes the manager. Invariants are proved by cases on the two. All
actions but CreateSession and JoinSession take a local step.
-/

namespace Ztab

-- Who writes to the store: an RPC handler, an inference worker, or the handler of a failed spawn.
inductive Actor where
  | rpc
  | worker
  | spawner
  deriving DecidableEq

namespace Session

inductive Step (env : Environment) (before : Session) : Actor → Session → Prop
  | same {actor : Actor} : Step env before actor before
  | timeout (now : Int) (due : before.TimedOut env now) :
      Step env before .rpc (before.abortOnTimeout env now)
  | accept (token : String) (participant : Participant)
      (listed : before.participants.lookup token = some participant)
      (waiting : before.state = .OPEN)
      (missing : ¬ (((before.markAccepted token participant).size : Int) =
          before.policy.expectedParticipants ∧ (before.markAccepted token participant).allAccepted)) :
      Step env before .rpc (before.markAccepted token participant)
  | sealing (now : Int) (token : String) (participant : Participant)
      (listed : before.participants.lookup token = some participant)
      (waiting : before.state = .OPEN)
      (full : ((before.markAccepted token participant).size : Int) =
          before.policy.expectedParticipants)
      (accepted : (before.markAccepted token participant).allAccepted = true) :
      Step env before .rpc ((before.markAccepted token participant).sealed now)
  | submit (token inputJson canonical : String) (participant : Participant)
      (listed : before.participants.lookup token = some participant)
      (unsubmitted : participant.inputSubmitted = false)
      (waiting : before.state = .SEALED)
      (admitted : before.admitInput env inputJson = .ok canonical)
      (missing : (before.storeInput token participant canonical).remainingInputs ≠ 0) :
      Step env before .rpc (before.storeInput token participant canonical)
  | calculate (now : Int) (token inputJson canonical : String) (participant : Participant)
      (listed : before.participants.lookup token = some participant)
      (unsubmitted : participant.inputSubmitted = false)
      (waiting : before.state = .SEALED)
      (admitted : before.admitInput env inputJson = .ok canonical)
      (complete : (before.storeInput token participant canonical).remainingInputs = 0) :
      Step env before .rpc ((before.storeInput token participant canonical).calculating now)
  | write (now : Int) (outcome : Except Status Bytes) (waiting : before.state = .CALCULATING) :
      Step env before .worker (before.writeOutcome now outcome)
  | spawnFailure (what : String) : Step env before .spawner (before.abortSpawn what)

theorem checkAndEnforceTimeout_step (env : Environment) (now : Int) (session : Session) :
    Step env session .rpc (session.checkAndEnforceTimeout env now) := by
  unfold checkAndEnforceTimeout
  split
  next due => exact .timeout now due
  next => exact .same

-- A session still in a non-terminal state was not touched by the check.
theorem checkAndEnforceTimeout_of_not_aborted (env : Environment) (now : Int) (session : Session)
    (alive : (session.checkAndEnforceTimeout env now).state ≠ .ABORTED) :
    session.checkAndEnforceTimeout env now = session := by
  unfold checkAndEnforceTimeout at alive ⊢
  split
  next due => simp [due, abortOnTimeout] at alive
  next => rfl

@[simp] theorem checkAndEnforceTimeout_nonceToToken (env : Environment) (now : Int)
    (session : Session) :
    (session.checkAndEnforceTimeout env now).nonceToToken = session.nonceToToken := by
  unfold checkAndEnforceTimeout
  split <;> rfl

@[simp] theorem checkAndEnforceTimeout_participants (env : Environment) (now : Int) (session : Session) :
    (session.checkAndEnforceTimeout env now).participants = session.participants := by
  unfold checkAndEnforceTimeout
  split <;> rfl

@[simp] theorem checkAndEnforceTimeout_policy (env : Environment) (now : Int) (session : Session) :
    (session.checkAndEnforceTimeout env now).policy = session.policy := by
  unfold checkAndEnforceTimeout
  split <;> rfl

-- On a checked session the body either leaves it alone or found the timeout not due.
theorem acceptPolicy_step (env : Environment) (now : Int) (token : String) (session : Session)
    (participant : Participant) (listed : session.participants.lookup token = some participant) :
    Step env session .rpc
      ((session.checkAndEnforceTimeout env now).acceptPolicy now token participant).1 := by
  unfold acceptPolicy
  split_ifs with already closed
  · exact checkAndEnforceTimeout_step env now session
  · exact checkAndEnforceTimeout_step env now session
  · have waiting : (session.checkAndEnforceTimeout env now).state = .OPEN := not_not.mp closed
    have same := checkAndEnforceTimeout_of_not_aborted env now session (by simp [waiting])
    rw [same] at waiting ⊢
    simp only
    split_ifs with full
    · exact .sealing now token participant listed waiting full.1 full.2
    · exact .accept token participant listed waiting full

theorem retryInput_fst (env : Environment) (inputJson : String) (session : Session)
    (participant : Participant) (remaining : Int) :
    (session.retryInput env inputJson participant remaining).1 = session := by
  unfold retryInput
  split <;> rfl

theorem submitInput_step (env : Environment) (now : Int) (token inputJson : String)
    (session : Session) (participant : Participant)
    (listed : session.participants.lookup token = some participant) :
    Step env session .rpc
      ((session.checkAndEnforceTimeout env now).submitInput env now token inputJson participant).1 := by
  unfold submitInput
  split_ifs with closed submitted
  · rw [retryInput_fst]
    exact checkAndEnforceTimeout_step env now session
  · exact checkAndEnforceTimeout_step env now session
  · rw [retryInput_fst]
    exact checkAndEnforceTimeout_step env now session
  · have waiting : (session.checkAndEnforceTimeout env now).state = .SEALED := not_not.mp closed
    have same := checkAndEnforceTimeout_of_not_aborted env now session (by simp [waiting])
    rw [same] at waiting ⊢
    cases admitted : session.admitInput env inputJson with
    | error failure => exact .same
    | ok canonical =>
      simp only
      split_ifs with complete
      · exact .calculate now token inputJson canonical participant listed
          (by simpa using ‹¬ participant.inputSubmitted = true›) waiting admitted complete
      · exact .submit token inputJson canonical participant listed
          (by simpa using ‹¬ participant.inputSubmitted = true›) waiting admitted complete

end Session

namespace SessionManager

-- What CreateSession has checked when it goes on to create a session.
structure Admitted (env : Environment) (manager : SessionManager) (request : CreateSessionRequest)
    (policyDef : PolicyDefinition) : Prop where
  room : (FlatHashMap.size manager.sessions : Int) < env.options.maxSessions
  registered : env.registry.lookup request.policy.policyClass = some policyDef
  expectedBounds : 2 ≤ request.policy.expectedParticipants ∧
    request.policy.expectedParticipants ≤ 100
  inputSchema : checkBuiltInSchema env "input_schema_json" policyDef.defaultInputSchemaJson = .ok ()
  outputSchema :
    checkBuiltInSchema env "output_schema_json" policyDef.defaultOutputSchemaJson = .ok ()
  unanswered : replayCreate manager request = .ok none

theorem getPolicy_ok {registry : PolicyRegistry} {policyClass : String} {policyDef : PolicyDefinition}
    (found : registry.getPolicy policyClass = .ok policyDef) :
    registry.lookup policyClass = some policyDef := by
  unfold PolicyRegistry.getPolicy at found
  split at found
  next definition listed =>
    cases found
    exact listed
  next => cases found

theorem replayCreate_some {manager : SessionManager} {request : CreateSessionRequest}
    {response : CreateSessionResponse} (replayed : replayCreate manager request = .ok (some response)) :
    ∃ id session, manager.creatorNonceToSession.lookup request.clientNonce = some id ∧
      manager.sessions.lookup id = some session ∧
      response = ⟨session.invitationToken, session.state, session.participantTokens.headD ""⟩ := by
  unfold replayCreate at replayed
  simp only [refuse] at replayed
  split at replayed
  next => cases replayed
  next =>
    split at replayed
    next => cases replayed
    next =>
      split at replayed
      next => cases replayed
      next session found =>
        obtain ⟨id, indexed, stored⟩ := Option.bind_eq_some_iff.mp found
        split_ifs at replayed
        cases replayed
        exact ⟨id, session, indexed, stored, rfl⟩

theorem admitSession_ok {env : Environment} {manager : SessionManager}
    {request : CreateSessionRequest} {granted : CreateSessionResponse ⊕ PolicyDefinition}
    (admitted : manager.admitSession env request = .ok granted) :
    (∃ response, granted = .inl response ∧ replayCreate manager request = .ok (some response)) ∨
      ∃ policyDef, granted = .inr policyDef ∧ Admitted env manager request policyDef := by
  unfold admitSession at admitted
  simp only [refuse] at admitted
  split at admitted
  next => cases admitted
  next vacant =>
    split at admitted
    next => cases admitted
    next definition found =>
      split_ifs at admitted with few many long
      split at admitted
      next => cases admitted
      next inputSchema =>
        split at admitted
        next => cases admitted
        next outputSchema =>
          split at admitted
          next => cases admitted
          next response replayed =>
            cases admitted
            exact .inl ⟨response, rfl, replayed⟩
          next unanswered =>
            cases admitted
            exact .inr ⟨definition, rfl, not_le.mp vacant, getPolicy_ok found,
              ⟨not_lt.mp few, not_lt.mp many⟩, inputSchema, outputSchema, unanswered⟩

theorem createSession_cases (env : Environment) (now : Int) (manager : SessionManager)
    (request : CreateSessionRequest) :
    (∃ failure, manager.createSession env now request =
        (manager.sweepTerminalSessions env now, .error failure)) ∨
      (∃ response, replayCreate (manager.sweepTerminalSessions env now) request = .ok (some response) ∧
        manager.createSession env now request =
          (manager.sweepTerminalSessions env now, .ok response)) ∨
      ∃ policyDef, Admitted env (manager.sweepTerminalSessions env now) request policyDef ∧
        manager.createSession env now request =
          (((manager.sweepTerminalSessions env now).openSession env now request policyDef).1,
            .ok ((manager.sweepTerminalSessions env now).openSession env now request policyDef).2) := by
  unfold createSession
  simp only
  cases admitted : (manager.sweepTerminalSessions env now).admitSession env request with
  | error failure => exact .inl ⟨failure, rfl⟩
  | ok granted =>
    obtain ⟨response, rfl, replayed⟩ | ⟨policyDef, rfl, checked⟩ := admitSession_ok admitted
    · exact .inr (.inl ⟨response, replayed, rfl⟩)
    · exact .inr (.inr ⟨policyDef, checked, rfl⟩)

theorem replayJoin_some {session : Session} {clientNonce token : String}
    (replayed : replayJoin session clientNonce = .ok (some token)) :
    session.nonceToToken.lookup clientNonce = some token := by
  unfold replayJoin at replayed
  simp only [refuse] at replayed
  split_ifs at replayed
  · cases replayed
  · exact Except.ok.inj replayed

-- A refusal and a replay store the checked session; a newcomer finds it unchanged.
theorem joinSession_cases (env : Environment) (now : Int) (manager : SessionManager)
    (request : JoinSessionRequest) :
    manager.joinSession env now request = (manager, invalidToken) ∨
      ∃ id found, manager.invitationToSession.lookup request.invitationToken = some id ∧
        manager.sessions.lookup id = some found ∧
        ((∃ failure, manager.joinSession env now request =
            (manager.putSession id (found.checkAndEnforceTimeout env now), .error failure)) ∨
          (∃ token, found.nonceToToken.lookup request.clientNonce = some token ∧
            manager.joinSession env now request =
              (manager.putSession id (found.checkAndEnforceTimeout env now),
                .ok ⟨(found.checkAndEnforceTimeout env now).state, found.policy, token⟩)) ∨
          (found.state = .OPEN ∧ (found.size : Int) < found.policy.expectedParticipants ∧
            manager.joinSession env now request =
              ((manager.admitParticipant env id found request.clientNonce).1,
                .ok (manager.admitParticipant env id found request.clientNonce).2))) := by
  unfold joinSession
  split
  next => exact .inl rfl
  next id indexed =>
    split
    next => exact .inl rfl
    next found stored =>
      refine .inr ⟨id, found, indexed, stored, ?_⟩
      unfold joinChecked
      cases replayed : replayJoin (found.checkAndEnforceTimeout env now) request.clientNonce with
      | error failure => exact .inl ⟨failure, rfl⟩
      | ok answered =>
        cases answered with
        | some token =>
          refine .inr (.inl ⟨token, ?_, ?_⟩)
          · simpa using replayJoin_some replayed
          · simp
        | none =>
          simp only
          split_ifs with closed crowded
          · exact .inl ⟨_, rfl⟩
          · exact .inl ⟨_, rfl⟩
          · have waiting : (found.checkAndEnforceTimeout env now).state = .OPEN := not_not.mp closed
            have same := found.checkAndEnforceTimeout_of_not_aborted env now (by simp [waiting])
            rw [same] at waiting crowded ⊢
            exact .inr (.inr ⟨waiting, not_le.mp crowded, rfl⟩)

end SessionManager

inductive LocalStep (env : Environment) (actor : Actor) (before : SessionManager) :
    SessionManager → Prop
  | keep (count : Int) (draws : Nat) (later : before.draws ≤ draws) :
      LocalStep env actor before { before with activeAsyncThreads := count, draws }
  | update (id : String) (session after : Session) (count : Int)
      (stored : before.sessions.lookup id = some session) (step : session.Step env actor after) :
      LocalStep env actor before { before.putSession id after with activeAsyncThreads := count }

inductive ManagerStep (env : Environment) (before : SessionManager) : Actor → SessionManager → Prop
  | within {actor : Actor} {after : SessionManager} (step : LocalStep env actor before after) :
      ManagerStep env before actor after
  | join (id clientNonce : String) (session : Session)
      (stored : before.sessions.lookup id = some session) (waiting : session.state = .OPEN)
      (room : (session.size : Int) < session.policy.expectedParticipants) :
      ManagerStep env before .rpc (before.admitParticipant env id session clientNonce).1
  | sweep (now : Int) : ManagerStep env before .rpc (before.sweepTerminalSessions env now)
  | create (now : Int) (request : CreateSessionRequest) (policyDef : PolicyDefinition)
      (admitted : SessionManager.Admitted env (before.sweepTerminalSessions env now) request policyDef) :
      ManagerStep env before .rpc
        ((before.sweepTerminalSessions env now).openSession env now request policyDef).1

namespace LocalStep

variable {env : Environment} {actor : Actor} {manager : SessionManager}

theorem refl : LocalStep env actor manager manager := .keep _ _ le_rfl

theorem put {id : String} {session after : Session}
    (stored : manager.sessions.lookup id = some session) (step : session.Step env actor after) :
    LocalStep env actor manager (manager.putSession id after) :=
  .update id session after manager.activeAsyncThreads stored step

end LocalStep

namespace ManagerStep

variable {env : Environment} {manager : SessionManager}

theorem refl {actor : Actor} : ManagerStep env manager actor manager := .within .refl

theorem createSession (now : Int) (request : CreateSessionRequest) :
    ManagerStep env manager .rpc (manager.createSession env now request).1 := by
  obtain ⟨failure, result⟩ | ⟨response, -, result⟩ | ⟨policyDef, admitted, result⟩ :=
    manager.createSession_cases env now request
  · rw [result]
    exact .sweep now
  · rw [result]
    exact .sweep now
  · rw [result]
    exact .create now request policyDef admitted

theorem joinSession (now : Int) (request : JoinSessionRequest) :
    ManagerStep env manager .rpc (manager.joinSession env now request).1 := by
  obtain result | ⟨id, found, -, stored, outcome⟩ := manager.joinSession_cases env now request
  · rw [result]
    exact refl
  · have checked : ManagerStep env manager .rpc _ :=
      .within (.put stored (found.checkAndEnforceTimeout_step env now))
    obtain ⟨failure, result⟩ | ⟨token, -, result⟩ | ⟨waiting, room, result⟩ := outcome
    · rw [result]
      exact checked
    · rw [result]
      exact checked
    · rw [result]
      exact .join id request.clientNonce found stored waiting room

end ManagerStep

namespace SessionManager

variable {manager : SessionManager}

theorem authenticate_ok {token id : String} {session : Session} {participant : Participant}
    (known : manager.authenticate token = .ok (id, session, participant)) :
    manager.participantToSession.lookup token = some id ∧
      manager.sessions.lookup id = some session ∧
      session.participants.lookup token = some participant := by
  unfold authenticate at known
  split at known
  next => cases known
  next found indexed =>
    split at known
    next => cases known
    next held stored =>
      split at known
      next => cases known
      next member listed =>
        cases known
        exact ⟨indexed, stored, listed⟩

theorem withSession_cases {α : Type} (env : Environment) (now : Int) (token : String)
    (body : Session → Participant → Session × Outcome α) :
    manager.withSession env now token body = (manager, invalidToken) ∨
      ∃ id session participant, manager.authenticate token = .ok (id, session, participant) ∧
        manager.withSession env now token body =
          (manager.putSession id (body (session.checkAndEnforceTimeout env now) participant).1,
            (body (session.checkAndEnforceTimeout env now) participant).2) := by
  unfold withSession
  cases known : manager.authenticate token with
  | error failure => exact .inl rfl
  | ok found =>
    obtain ⟨id, session, participant⟩ := found
    exact .inr ⟨id, session, participant, rfl, rfl⟩

end SessionManager

namespace LocalStep

variable {env : Environment} {manager : SessionManager}

theorem withSession {α : Type} (now : Int) (token : String)
    (body : Session → Participant → Session × Outcome α)
    (step : ∀ (session : Session) (participant : Participant),
      session.participants.lookup token = some participant →
        session.Step env .rpc (body (session.checkAndEnforceTimeout env now) participant).1) :
    LocalStep env .rpc manager (manager.withSession env now token body).1 := by
  obtain same | ⟨id, session, participant, known, changed⟩ :=
    manager.withSession_cases env now token body
  · rw [same]
    exact refl
  · obtain ⟨-, stored, listed⟩ := SessionManager.authenticate_ok known
    rw [changed]
    exact put stored (step session participant listed)

theorem acceptPolicy (now : Int) (request : TokenRequest) :
    LocalStep env .rpc manager (manager.acceptPolicy env now request).1 :=
  withSession now _ _ fun session participant listed =>
    session.acceptPolicy_step env now _ participant listed

theorem getResult (now : Int) (request : TokenRequest) :
    LocalStep env .rpc manager (manager.getResult env now request).1 :=
  withSession now _ _ fun session _ _ => session.checkAndEnforceTimeout_step env now

theorem getSessionStatus (now : Int) (request : TokenRequest) :
    LocalStep env .rpc manager (manager.getSessionStatus env now request).1 :=
  withSession now _ _ fun session _ _ => session.checkAndEnforceTimeout_step env now

theorem submitInput (now : Int) (request : SubmitInputRequest) :
    LocalStep env .rpc manager (manager.submitInput env now request).1 := by
  unfold SessionManager.submitInput
  obtain same | ⟨id, session, participant, known, changed⟩ :=
    manager.withSession_cases env now request.participantToken
      (Session.submitInput env now request.participantToken request.inputJson)
  · rw [same]
    exact refl
  · obtain ⟨-, stored, listed⟩ := SessionManager.authenticate_ok known
    have step := session.submitInput_step env now request.participantToken request.inputJson
      participant listed
    rw [changed]
    simp only
    split
    next => exact .update id session _ _ stored step
    next => exact put stored step

theorem preparePrompt {actor : Actor} (id : String) :
    LocalStep env actor manager (manager.preparePrompt env id).1 := by
  unfold SessionManager.preparePrompt
  split
  next => exact refl
  next =>
    split_ifs
    · exact refl
    · exact .keep _ _ (Nat.le_succ _)

theorem writeResult (now : Int) (id : String) (outcome : Except Status Bytes) :
    LocalStep env .worker manager (manager.writeResult now id outcome) := by
  unfold SessionManager.writeResult
  split
  next => exact refl
  next session stored =>
    split_ifs with moved
    · exact refl
    · exact put stored (.write now outcome (not_not.mp moved))

theorem releaseThread {actor : Actor} : LocalStep env actor manager manager.releaseThread := .keep _ _ le_rfl

theorem handleSpawnFailure (id what : String) :
    LocalStep env .spawner manager (manager.handleSpawnFailure id what) := by
  unfold SessionManager.handleSpawnFailure
  split
  next => exact releaseThread
  next session stored => exact .update id session _ _ stored (.spawnFailure what)

end LocalStep

def Action.HandsOutToken : Action → Prop
  | .createSession .. | .joinSession .. => True
  | _ => False

def Action.actor : Action → Actor
  | .spawnFails .. => .spawner
  | .spawnSucceeds _ | .preparePrompt _ | .infer .. | .writeResult .. | .leave _ => .worker
  | _ => .rpc

namespace System

@[simp] theorem issue_manager (system : System) (invitation token : String) :
    (system.issue invitation token).manager = system.manager := by
  unfold issue
  split <;> rfl

@[simp] theorem issue_threads (system : System) (invitation token : String) :
    (system.issue invitation token).threads = system.threads := by
  unfold issue
  split <;> rfl

@[simp] theorem issue_alive (system : System) (invitation token : String) :
    (system.issue invitation token).alive = system.alive := by
  unfold issue
  split <;> rfl

@[simp] theorem issue_generations (system : System) (invitation token : String) :
    (system.issue invitation token).history.generations = system.history.generations := by
  unfold issue
  split <;> rfl

@[simp] theorem invite_manager (system : System) (invitation : String) :
    (system.invite invitation).manager = system.manager := rfl

@[simp] theorem setPhase_manager (system : System) (index : Nat) (thread : Thread) (phase : Phase) :
    (system.setPhase index thread phase).manager = system.manager := rfl

-- A local step also hands out no token.
structure Quiet (env : Environment) (actor : Actor) (before after : System) : Prop where
  manager : LocalStep env actor before.manager after.manager
  issued : after.history.issued = before.history.issued
  invitations : after.history.invitations = before.history.invitations

theorem Quiet.refl {env : Environment} {actor : Actor} (system : System) :
    Quiet env actor system system :=
  ⟨.refl, rfl, rfl⟩

theorem threadStep_quiet (env : Environment) (system : System) (index : Nat) (thread : Thread)
    (action : Action) :
    Quiet env action.actor system (system.threadStep env index thread action).1 := by
  unfold threadStep
  split <;> try split
  all_goals first
    | exact .refl system
    | exact ⟨.handleSpawnFailure _ _, rfl, rfl⟩
    | exact ⟨.writeResult _ _ _, rfl, rfl⟩
    | exact ⟨.releaseThread, rfl, rfl⟩
    | exact ⟨.refl, rfl, rfl⟩
    | skip
  · unfold preparePrompt
    have step : LocalStep env .worker system.manager _ := .preparePrompt thread.session
    simp only
    split <;> exact ⟨step, rfl, rfl⟩
  · unfold infer
    simp only
    split <;> exact ⟨.refl, rfl, rfl⟩

theorem onThread_quiet (env : Environment) (system : System) (index : Nat) (action : Action) :
    Quiet env action.actor system (system.onThread env index action).1 := by
  unfold onThread
  split
  next => exact .refl system
  next thread _ => exact system.threadStep_quiet env index thread action

theorem perform_quiet (env : Environment) (system : System) (action : Action)
    (silent : ¬ action.HandsOutToken) :
    Quiet env action.actor system (system.perform env action).1 := by
  cases action with
  | createSession now request => exact absurd trivial silent
  | joinSession now request => exact absurd trivial silent
  | acceptPolicy now request => exact ⟨.acceptPolicy now request, rfl, rfl⟩
  | submitInput now request =>
    have step : LocalStep env .rpc system.manager _ := .submitInput now request
    simp only [perform, submitInput]
    split <;> exact ⟨step, rfl, rfl⟩
  | getResult now request => exact ⟨.getResult now request, rfl, rfl⟩
  | getSessionStatus now request => exact ⟨.getSessionStatus now request, rfl, rfl⟩
  | spawnSucceeds index => exact system.onThread_quiet env index _
  | spawnFails index what => exact system.onThread_quiet env index _
  | preparePrompt index => exact system.onThread_quiet env index _
  | infer index results => exact system.onThread_quiet env index _
  | writeResult index now => exact system.onThread_quiet env index _
  | leave index => exact system.onThread_quiet env index _

theorem perform_manager (env : Environment) (system : System) (action : Action) :
    ManagerStep env system.manager action.actor (system.perform env action).1.manager := by
  by_cases silent : action.HandsOutToken
  · cases action with
    | createSession now request =>
      have step : ManagerStep env system.manager .rpc _ := ManagerStep.createSession now request
      simp only [perform, createSession]
      split <;> simpa [Action.actor] using step
    | joinSession now request =>
      have step : ManagerStep env system.manager .rpc _ := ManagerStep.joinSession now request
      simp only [perform, joinSession]
      split <;> simpa [Action.actor] using step
    | _ => exact absurd silent id
  · exact .within (system.perform_quiet env action silent).manager

theorem step_manager (env : Environment) (system : System) (action : Action) :
    ManagerStep env system.manager action.actor (system.step env action).1.manager := by
  unfold step
  split
  next => exact system.perform_manager env action
  next => exact ManagerStep.refl

end System

end Ztab
