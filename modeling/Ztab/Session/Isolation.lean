import Ztab.Session.Frame
import Ztab.Session.Workers

set_option autoImplicit false

/-!
# Session isolation

Every call but CreateSession, and every step of a worker, as a function of the one
session it belongs to: its record, the worker's own variables, and the next random
value. The store as a whole only files the result.
-/

namespace Ztab

-- What a step makes of its session: the record, where the worker that took the step or
-- is to be spawned stands afterwards, and the reply.
structure Turn where
  record : Option Session
  phase : Option Phase
  reply : Reply

namespace Session

def join (token clientNonce : String) (session : Session) : Session × Outcome JoinSessionResponse :=
  match SessionManager.replayJoin session clientNonce with
  | .error failure => (session, .error failure)
  | .ok (some held) =>
    (session, .ok { state := session.state, policy := session.policy, participantToken := held })
  | .ok none =>
    if session.state = .OPEN ∧ (session.size : Int) < session.policy.expectedParticipants then
      (session.addParticipant token clientNonce,
        .ok { state := session.state, policy := session.policy, participantToken := token })
    else (session, invalidToken)

def withParticipant {α : Type} (env : Environment) (now : Int) (token : String)
    (body : Session → Participant → Session × Outcome α) (session : Session) : Session × Outcome α :=
  match session.participants.lookup token with
  | none => (session, invalidToken)
  | some participant => body (session.checkAndEnforceTimeout env now) participant

-- A last submission is answered by the thread that spawns its worker.
def submitted (result : Session × Outcome Submission) : Turn :=
  match result.2 with
  | .ok (.answered response) => ⟨some result.1, none, .submitInput (.ok response)⟩
  | .error failure => ⟨some result.1, none, .submitInput (.error failure)⟩
  | .ok (.dispatched _) => ⟨some result.1, some .spawning, .silent⟩

/-- A call on the session it resolves to; `fresh` gives the next random value of any size. -/
def call (env : Environment) (fresh : Nat → String) (session : Session) : Action → Turn
  | .joinSession now request =>
    let result := (session.checkAndEnforceTimeout env now).join (fresh kParticipantTokenBytes)
      request.clientNonce
    ⟨some result.1, none, .joinSession result.2⟩
  | .acceptPolicy now request =>
    let result := session.withParticipant env now request.participantToken
      (acceptPolicy now request.participantToken)
    ⟨some result.1, none, .acceptPolicy result.2⟩
  | .submitInput now request =>
    submitted (session.withParticipant env now request.participantToken
      (submitInput env now request.participantToken request.inputJson))
  | .getResult now request =>
    let result := session.withParticipant env now request.participantToken getResult
    ⟨some result.1, none, .getResult result.2⟩
  | .getSessionStatus now request =>
    let result := session.withParticipant env now request.participantToken getSessionStatus
    ⟨some result.1, none, .getSessionStatus result.2⟩
  | _ => ⟨some session, none, .silent⟩

-- What a worker copies under its first lock.
def prepared (suffix : String) (session : Session) : Phase :=
  if session.state = .CALCULATING then .prompted (session.buildPrompt suffix) session.outputSchema
  else .leaving

def written (now : Int) (outcome : Except Status Bytes) (session : Session) : Session :=
  if session.state = .CALCULATING then session.writeOutcome now outcome else session

end Session

def Phase.work (env : Environment) (fresh : Nat → String) (record : Option Session) :
    Phase → Action → Turn
  | .spawning, .spawnSucceeds _ =>
    ⟨record, some .started, .submitInput (.ok { state := .CALCULATING, remainingInputs := 0 })⟩
  | .spawning, .spawnFails _ what =>
    ⟨record.map (fun session => session.abortSpawn what), some .finished,
      .submitInput (refuse .internal "Failed to spawn LLM background thread: resource exhausted")⟩
  | .started, .preparePrompt _ =>
    ⟨record, some (record.elim .leaving (Session.prepared (fresh 8))), .silent⟩
  | .prompted prompt outputSchema, .infer _ results =>
    match (llmAttempts env outputSchema results).result with
    | .ok resultJson => ⟨record, some (.inferred (processStatus env resultJson)), .silent⟩
    | .error _ => ⟨record, some (.prompted prompt outputSchema), .terminated⟩
  | .inferred outcome, .writeResult _ now =>
    ⟨record.map (Session.written now outcome), some .leaving, .silent⟩
  | .leaving, .leave _ => ⟨record, some .finished, .silent⟩
  | phase, _ => ⟨record, some phase, .silent⟩

theorem Phase.work_step {env : Environment} {fresh : Nat → String} {before : Option Session}
    {after : Session} {phase : Phase} {action : Action}
    (record : (phase.work env fresh before action).record = some after) :
    ∃ session actor, before = some session ∧ session.Step env actor after := by
  revert record
  fun_cases Phase.work env fresh before phase action
  case case2 what =>
    intro record
    obtain ⟨session, held, rfl⟩ := Option.map_eq_some_iff.mp record
    exact ⟨session, .spawner, held, .spawnFailure what⟩
  case case6 outcome position now =>
    intro record
    obtain ⟨session, held, rfl⟩ := Option.map_eq_some_iff.mp record
    refine ⟨session, .worker, held, ?_⟩
    unfold Session.written
    split_ifs with waiting
    · exact .write now outcome waiting
    · exact .same
  all_goals exact fun record => ⟨after, .worker, record, .same⟩

def Action.resolves (manager : SessionManager) : Action → Option String
  | .joinSession _ request => manager.invitationToSession.lookup request.invitationToken
  | .submitInput _ request => manager.participantToSession.lookup request.participantToken
  | .acceptPolicy _ request | .getResult _ request | .getSessionStatus _ request =>
    manager.participantToSession.lookup request.participantToken
  | _ => none

def Action.thread : Action → Option Nat
  | .spawnSucceeds index | .spawnFails index _ | .preparePrompt index | .infer index _
  | .writeResult index _ | .leave index => some index
  | _ => none

theorem Action.thread_of_resolves {action : Action} {manager : SessionManager} {id : String}
    (resolved : action.resolves manager = some id) : action.thread = none := by
  cases action <;> first | rfl | cases resolved

def System.filed (system : System) (action : Action) (id : String) (phase : Option Phase) :
    List Thread :=
  match action.thread with
  | none => system.threads ++ phase.toList.map (Thread.mk id)
  | some index => phase.elim system.threads fun phase => system.threads.set index ⟨id, phase⟩

/-- The step has this effect on session `id`, and none on any other. -/
structure Isolated (env : Environment) (system : System) (action : Action) (id : String)
    (turn : Turn) : Prop where
  record : (system.step env action).1.manager.sessions.lookup id = turn.record
  reply : (system.step env action).2 = turn.reply
  threads : (system.step env action).1.threads = system.filed action id turn.phase
  records : ∀ other, other ≠ id →
    (system.step env action).1.manager.sessions.lookup other = system.manager.sessions.lookup other
  invitations : ∀ key other, other ≠ id →
    ((system.step env action).1.manager.invitationToSession.lookup key = some other ↔
      system.manager.invitationToSession.lookup key = some other)
  participants : ∀ key other, other ≠ id →
    ((system.step env action).1.manager.participantToSession.lookup key = some other ↔
      system.manager.participantToSession.lookup key = some other)
  creatorNonces : ∀ key other, other ≠ id →
    ((system.step env action).1.manager.creatorNonceToSession.lookup key = some other ↔
      system.manager.creatorNonceToSession.lookup key = some other)

namespace SessionManager

variable {manager : SessionManager}

theorem withSession_resolved {α : Type} (env : Environment) (now : Int) (indexed : Indexed manager)
    {token id : String} {session : Session} (body : Session → Participant → Session × Outcome α)
    (resolved : manager.participantToSession.lookup token = some id)
    (stored : manager.sessions.lookup id = some session) :
    manager.withSession env now token body =
      (manager.putSession id (session.withParticipant env now token body).1,
        (session.withParticipant env now token body).2) := by
  obtain ⟨held, found, member⟩ := (indexed.participants token id).mp resolved
  cases stored.symm.trans found
  obtain ⟨participant, listed⟩ := (FlatHashMap.mem_iff_lookup _ _).mp member
  simp [withSession, authenticate_listed indexed stored listed, Session.withParticipant, listed]

theorem joinChecked_snd (env : Environment) (manager : SessionManager) (id clientNonce : String) (session : Session) :
    (manager.joinChecked env id session clientNonce).2 =
      (session.join (env.randomHex manager.draws kParticipantTokenBytes) clientNonce).2 := by
  unfold joinChecked Session.join
  cases replayed : replayJoin session clientNonce with
  | error failure => rfl
  | ok answered =>
    cases answered with
    | some token => rfl
    | none =>
      simp only
      split_ifs <;> grind [admitParticipant, generateRandomHex]

theorem joinChecked_sessions (env : Environment) (manager : SessionManager) (id clientNonce : String) (session : Session) :
    (manager.joinChecked env id session clientNonce).1.sessions =
      manager.sessions.insert id
        (session.join (env.randomHex manager.draws kParticipantTokenBytes) clientNonce).1 := by
  unfold joinChecked Session.join
  cases replayed : replayJoin session clientNonce with
  | error failure => rfl
  | ok answered =>
    cases answered with
    | some token => rfl
    | none =>
      simp only
      split_ifs <;> grind [admitParticipant, generateRandomHex, putSession]

end SessionManager

namespace Session

theorem withParticipant_cases {α : Type} (env : Environment) (now : Int) (token : String)
    (body : Session → Participant → Session × Outcome α) (session : Session) :
    session.withParticipant env now token body = (session, invalidToken) ∨
      ∃ participant, session.participants.lookup token = some participant ∧
        session.withParticipant env now token body =
          body (session.checkAndEnforceTimeout env now) participant := by
  unfold withParticipant
  cases listed : session.participants.lookup token with
  | none => exact .inl rfl
  | some participant => exact .inr ⟨participant, rfl, rfl⟩

@[simp] theorem submitted_record (result : Session × Outcome Submission) :
    (submitted result).record = some result.1 := by
  unfold submitted
  split <;> rfl

theorem withParticipant_dispatched {env : Environment} {now : Int} {token inputJson sessionId : String}
    {session : Session}
    (dispatched : (session.withParticipant env now token (submitInput env now token inputJson)).2 =
      .ok (.dispatched sessionId)) : sessionId = session.id := by
  obtain same | ⟨participant, -, same⟩ := session.withParticipant_cases env now token
    (submitInput env now token inputJson)
  · rw [same] at dispatched
    cases dispatched
  · rw [same] at dispatched
    obtain ⟨-, named, -⟩ := submitInput_dispatched dispatched
    exact named.trans (session.checkAndEnforceTimeout_step env now).identity.id

end Session

-- Where a call puts its turn.
structure Answered (env : Environment) (system : System) (action : Action) (id : String)
    (session : Session) : Prop where
  sessions : ∃ after, (session.call env (env.randomHex system.manager.draws) action).record = some after ∧
    (system.perform env action).1.manager.sessions = system.manager.sessions.insert id after
  reply : (system.perform env action).2 =
    (session.call env (env.randomHex system.manager.draws) action).reply
  threads : (system.perform env action).1.threads = system.filed action id
    (session.call env (env.randomHex system.manager.draws) action).phase

namespace System

variable {env : Environment} {system : System}

theorem joinSession_answered {now : Int} {request : JoinSessionRequest} {id : String}
    {session : Session}
    (resolved : system.manager.invitationToSession.lookup request.invitationToken = some id)
    (stored : system.manager.sessions.lookup id = some session) :
    Answered env system (.joinSession now request) id session := by
  have reply := SessionManager.joinChecked_snd env system.manager id request.clientNonce
    (session.checkAndEnforceTimeout env now)
  have sessions := SessionManager.joinChecked_sessions env system.manager id request.clientNonce
    (session.checkAndEnforceTimeout env now)
  rw [← SessionManager.joinSession_stored resolved stored] at reply sessions
  constructor
  · refine ⟨_, rfl, ?_⟩
    rw [← sessions]
    simp only [perform, joinSession]
    split <;> simp
  · simp only [perform, joinSession, Session.call]
    rw [← reply]
    split <;> rfl
  · simp only [perform, joinSession, filed, Action.thread, Session.call, Option.toList_none, List.map_nil,
      List.append_nil]
    split <;> simp

theorem submitInput_answered (sound : SessionManager.Sound env system.manager) {now : Int}
    {request : SubmitInputRequest} {id : String} {session : Session}
    (resolved : system.manager.participantToSession.lookup request.participantToken = some id)
    (stored : system.manager.sessions.lookup id = some session) :
    Answered env system (.submitInput now request) id session := by
  have body := SessionManager.withSession_resolved env now sound.toIndexed
    (Session.submitInput env now request.participantToken request.inputJson) resolved stored
  cases outcome : (session.withParticipant env now request.participantToken
      (Session.submitInput env now request.participantToken request.inputJson)).2 with
  | error failure =>
    constructor <;> simp [perform, submitInput, SessionManager.submitInput, body, outcome, Session.call,
      Session.submitted, filed, Action.thread, SessionManager.putSession]
  | ok submission =>
    cases submission with
    | answered response =>
      constructor <;> simp [perform, submitInput, SessionManager.submitInput, body, outcome,
        Session.call, Session.submitted, filed, Action.thread, SessionManager.putSession]
    | dispatched sessionId =>
      have same : sessionId = id :=
        (Session.withParticipant_dispatched outcome).trans (sound.named id session stored)
      constructor <;> simp [perform, submitInput, SessionManager.submitInput, body, outcome,
        Session.call, Session.submitted, filed, Action.thread, SessionManager.putSession, same]

theorem perform_answered (sound : SessionManager.Sound env system.manager) {action : Action}
    {id : String} {session : Session} (resolved : action.resolves system.manager = some id)
    (stored : system.manager.sessions.lookup id = some session) :
    Answered env system action id session := by
  cases action with
  | joinSession now request => exact joinSession_answered resolved stored
  | submitInput now request => exact submitInput_answered sound resolved stored
  | acceptPolicy now request =>
    have body := SessionManager.withSession_resolved env now sound.toIndexed
      (Session.acceptPolicy now request.participantToken) resolved stored
    constructor <;> simp [perform, SessionManager.acceptPolicy, body, Session.call, filed,
      Action.thread, SessionManager.putSession]
  | getResult now request =>
    have body := SessionManager.withSession_resolved env now sound.toIndexed
      Session.getResult resolved stored
    constructor <;> simp [perform, SessionManager.getResult, body, Session.call, filed,
      Action.thread, SessionManager.putSession]
  | getSessionStatus now request =>
    have body := SessionManager.withSession_resolved env now sound.toIndexed
      Session.getSessionStatus resolved stored
    constructor <;> simp [perform, SessionManager.getSessionStatus, body, Session.call, filed,
      Action.thread, SessionManager.putSession]
  | _ => cases resolved

end System

-- Where a worker's step puts its turn.
structure Worked (env : Environment) (system : System) (action : Action) (thread : Thread)
    (result : System × Reply) : Prop where
  record : result.1.manager.sessions.lookup thread.session =
    (thread.phase.work env (env.randomHex system.manager.draws)
      (system.manager.sessions.lookup thread.session) action).record
  reply : result.2 = (thread.phase.work env (env.randomHex system.manager.draws)
      (system.manager.sessions.lookup thread.session) action).reply
  threads : result.1.threads = system.filed action thread.session
    (thread.phase.work env (env.randomHex system.manager.draws)
      (system.manager.sessions.lookup thread.session) action).phase
  records : ∀ other, other ≠ thread.session →
    result.1.manager.sessions.lookup other = system.manager.sessions.lookup other

namespace System

variable {env : Environment} {system : System} {index : Nat} {thread : Thread}

theorem set_same (here : system.threads[index]? = some thread) :
    system.threads.set index ⟨thread.session, thread.phase⟩ = system.threads := by
  obtain ⟨within, found⟩ := List.getElem?_eq_some_iff.mp here
  rw [← found]
  exact List.set_getElem_self within

theorem idle_worked (env : Environment) (here : system.threads[index]? = some thread) {action : Action}
    (own : action.thread = some index)
    (idle : ∀ record, thread.phase.work env (env.randomHex system.manager.draws) record action =
      ⟨record, some thread.phase, .silent⟩) :
    Worked env system action thread (system, .silent) := by
  constructor <;> simp [idle, filed, own, set_same here]

theorem spawnFails_worked {id : String} (what : String) :
    Worked env system (.spawnFails index what) ⟨id, .spawning⟩
      (system.spawnFails index ⟨id, .spawning⟩ what) := by
  unfold spawnFails SessionManager.handleSpawnFailure
  cases stored : system.manager.sessions.lookup id with
  | none =>
    constructor <;> simp [SessionManager.releaseThread, stored, Phase.work, setPhase, filed,
      Action.thread]
  | some session =>
    constructor
    all_goals simp [SessionManager.releaseThread, SessionManager.putSession, stored, Phase.work,
      setPhase, filed, Action.thread]
    exact fun other apart => AList.lookup_insert_ne apart

theorem preparePrompt_worked {id : String} :
    Worked env system (.preparePrompt index) ⟨id, .started⟩
      (system.preparePrompt env index ⟨id, .started⟩, .silent) := by
  unfold preparePrompt SessionManager.preparePrompt
  cases stored : system.manager.sessions.lookup id with
  | none => constructor <;> simp [stored, Phase.work, setPhase, filed, Action.thread]
  | some session =>
    by_cases waiting : session.state = .CALCULATING
    · constructor <;> simp [stored, waiting, Phase.work, setPhase, filed, Action.thread,
        Session.prepared, SessionManager.generateRandomHex]
    · constructor <;> simp [stored, waiting, Phase.work, setPhase, filed, Action.thread,
        Session.prepared]

theorem infer_worked {id prompt outputSchema : String}
    (here : system.threads[index]? = some ⟨id, .prompted prompt outputSchema⟩)
    (results : Nat → GenerateResult) :
    Worked env system (.infer index results) ⟨id, .prompted prompt outputSchema⟩
      (system.infer env index ⟨id, .prompted prompt outputSchema⟩ prompt outputSchema results) := by
  unfold infer
  cases finished : (llmAttempts env outputSchema results).result with
  | ok resultJson =>
    constructor <;> simp [finished, Phase.work, record, setPhase, filed, Action.thread]
  | error exception =>
    constructor <;> simp [finished, Phase.work, record, filed, Action.thread, set_same here]

theorem writeResult_worked {id : String} (outcome : Except Status Bytes) (now : Int) :
    Worked env system (.writeResult index now) ⟨id, .inferred outcome⟩
      ({ system with manager := system.manager.writeResult now id outcome }.setPhase
        index ⟨id, .inferred outcome⟩ .leaving, .silent) := by
  unfold SessionManager.writeResult
  cases stored : system.manager.sessions.lookup id with
  | none => constructor <;> simp [stored, Phase.work, setPhase, filed, Action.thread]
  | some session =>
    by_cases waiting : session.state = .CALCULATING
    · constructor
      all_goals simp [stored, waiting, Phase.work, setPhase, filed, Action.thread, Session.written,
        SessionManager.putSession]
      exact fun other apart => AList.lookup_insert_ne apart
    · constructor <;> simp [stored, waiting, Phase.work, setPhase, filed, Action.thread,
        Session.written]

theorem threadStep_worked (env : Environment) (here : system.threads[index]? = some thread) {action : Action}
    (own : action.thread = some index) :
    Worked env system action thread (system.threadStep env index thread action) := by
  -- An action for another point of the worker's program does nothing.
  have idle := idle_worked env here own
  obtain ⟨id, phase⟩ := thread
  cases action with
  | spawnSucceeds position =>
    cases own
    cases phase with
    | spawning =>
      constructor <;> simp [threadStep, Phase.work, spawnSucceeds, setPhase, filed, Action.thread]
    | _ => exact idle fun _ => rfl
  | spawnFails position what =>
    cases own
    cases phase with
    | spawning => exact spawnFails_worked what
    | _ => exact idle fun _ => rfl
  | preparePrompt position =>
    cases own
    cases phase with
    | started => exact preparePrompt_worked
    | _ => exact idle fun _ => rfl
  | infer position results =>
    cases own
    cases phase with
    | prompted prompt outputSchema => exact infer_worked here results
    | _ => exact idle fun _ => rfl
  | writeResult position now =>
    cases own
    cases phase with
    | inferred outcome => exact writeResult_worked outcome now
    | _ => exact idle fun _ => rfl
  | leave position =>
    cases own
    cases phase with
    | leaving =>
      constructor <;> simp [threadStep, Phase.work, setPhase, filed, Action.thread,
        SessionManager.releaseThread]
    | _ => exact idle fun _ => rfl
  | _ => cases own

end System

-- The indexes say what the records say, so they change where the records do.
theorem Isolated.of_records {env : Environment} {system : System} {action : Action} {id : String}
    {turn : Turn} (before : system.manager.Indexed)
    (after : (system.step env action).1.manager.Indexed)
    (record : (system.step env action).1.manager.sessions.lookup id = turn.record)
    (reply : (system.step env action).2 = turn.reply)
    (threads : (system.step env action).1.threads = system.filed action id turn.phase)
    (records : ∀ other, other ≠ id → (system.step env action).1.manager.sessions.lookup other =
      system.manager.sessions.lookup other) :
    Isolated env system action id turn where
  record := record
  reply := reply
  threads := threads
  records := records
  invitations key other apart := by
    rw [after.invitations, before.invitations, records other apart]
  participants key other apart := by
    rw [after.participants, before.participants, records other apart]
  creatorNonces key other apart := by
    rw [after.creatorNonces, before.creatorNonces, records other apart]

-- CreateSession leaves a stored session as its own record and the clock decide.
theorem createSession_swept {env : Environment} (fresh : env.NeverRepeats) {system : System}
    (sound : SessionManager.Sound env system.manager) (now : Int) (request : CreateSessionRequest)
    {id : String} {session : Session} (stored : system.manager.sessions.lookup id = some session) :
    (system.manager.createSession env now request).1.sessions.lookup id = session.swept env now := by
  have swept : (system.manager.sweepTerminalSessions env now).sessions.lookup id =
      session.swept env now := by
    simp [SessionManager.lookup_sweep, stored]
  obtain ⟨failure, result⟩ | ⟨response, -, result⟩ | ⟨policyDef, -, result⟩ :=
    system.manager.createSession_cases env now request
  · rw [result]
    exact swept
  · rw [result]
    exact swept
  · have apart : id ≠ env.randomHex system.manager.draws kSessionIdBytes :=
      (sound.idsDrawn id session stored).ne_next fresh le_rfl _
    rw [result, ← swept]
    rw [← draws_sweep env now system.manager] at apart
    exact AList.lookup_insert_ne apart

def SessionManager.opened (env : Environment) (now : Int) (manager : SessionManager)
    (request : CreateSessionRequest) (policyDef : PolicyDefinition) : Session :=
  newSession now request policyDef (env.randomHex manager.draws kSessionIdBytes)
    (env.randomHex (manager.draws + 1) kParticipantTokenBytes)
    (env.randomHex (manager.draws + 2) kParticipantTokenBytes)

-- A session found after CreateSession is one the sweep kept, or the new one.
theorem SessionManager.createSession_origin {env : Environment} {now : Int}
    {manager : SessionManager} {request : CreateSessionRequest} {id : String} {session : Session}
    (found : (manager.createSession env now request).1.sessions.lookup id = some session) :
    (∃ held, manager.sessions.lookup id = some held ∧ held.swept env now = some session) ∨
      ∃ policyDef, Admitted env (manager.sweepTerminalSessions env now) request policyDef ∧
        id = env.randomHex manager.draws kSessionIdBytes ∧
        session = manager.opened env now request policyDef := by
  have kept (stored : (manager.sweepTerminalSessions env now).sessions.lookup id = some session) :
      ∃ held, manager.sessions.lookup id = some held ∧ held.swept env now = some session := by
    rw [lookup_sweep] at stored
    exact Option.bind_eq_some_iff.mp stored
  obtain ⟨failure, result⟩ | ⟨response, -, result⟩ | ⟨policyDef, admitted, result⟩ :=
    manager.createSession_cases env now request
  · rw [result] at found
    exact .inl (kept found)
  · rw [result] at found
    exact .inl (kept found)
  · rw [result] at found
    replace found : ((manager.sweepTerminalSessions env now).sessions.insert _ _).lookup id =
      some session := found
    have drawn := draws_sweep env now manager
    rw [FlatHashMap.lookup_insert_ite] at found
    split_ifs at found with same
    · cases found
      refine .inr ⟨policyDef, admitted, ?_, ?_⟩
      · rw [← drawn]
        exact same
      · rw [opened, ← drawn]
    · exact .inl (kept found)

theorem System.step_createSession {env : Environment} {system : System}
    (running : system.alive = true) (now : Int) (request : CreateSessionRequest) :
    (system.step env (.createSession now request)).1.manager =
      (system.manager.createSession env now request).1 := by
  simp only [System.step, running, if_true, System.perform, System.createSession]
  split <;> simp

theorem System.joinSession_succeeded {env : Environment} {system : System} {now : Int}
    {request : JoinSessionRequest} {response : JoinSessionResponse}
    (answered : (system.step env (.joinSession now request)).2 = .joinSession (.ok response)) :
    system.alive = true ∧ ∃ id session,
      system.manager.invitationToSession.lookup request.invitationToken = some id ∧
      system.manager.sessions.lookup id = some session ∧
      ((session.checkAndEnforceTimeout env now).join
        (env.randomHex system.manager.draws kParticipantTokenBytes) request.clientNonce).2 =
          .ok response := by
  by_cases running : system.alive = true
  · refine ⟨running, ?_⟩
    have outcome : (system.manager.joinSession env now request).2 = .ok response := by
      simp only [System.step, running, if_true, System.perform, System.joinSession] at answered
      cases result : (system.manager.joinSession env now request).2 with
      | ok other => simpa [result] using answered
      | error failure => simp [result] at answered
    cases known : system.manager.invitationToSession.lookup request.invitationToken with
    | none => simp [SessionManager.joinSession, known, invalidToken, refuse] at outcome
    | some id =>
      cases stored : system.manager.sessions.lookup id with
      | none => simp [SessionManager.joinSession, known, stored, invalidToken, refuse] at outcome
      | some session =>
        rw [SessionManager.joinSession_stored known stored, SessionManager.joinChecked_snd] at outcome
        exact ⟨id, session, rfl, stored, outcome⟩
  · simp [System.step, running] at answered

structure SessionsIsolated (env : Environment) (system : System) : Prop where
  calls : ∀ action id, action.resolves system.manager = some id →
    ∃ session, system.manager.sessions.lookup id = some session ∧
      Isolated env system action id
        (session.call env (env.randomHex system.manager.draws) action)
  workers : ∀ action index thread, action.thread = some index →
    system.threads[index]? = some thread →
      Isolated env system action thread.session
        (thread.phase.work env (env.randomHex system.manager.draws)
          (system.manager.sessions.lookup thread.session) action)
  creations : ∀ now request id session, system.manager.sessions.lookup id = some session →
    (system.step env (.createSession now request)).1.manager.sessions.lookup id =
      session.swept env now

theorem resolves_stored {manager : SessionManager} (indexed : manager.Indexed) {action : Action}
    {id : String} (resolved : action.resolves manager = some id) :
    ∃ session, manager.sessions.lookup id = some session := by
  have participant {token : String} (known : manager.participantToSession.lookup token = some id) :
      ∃ session, manager.sessions.lookup id = some session := by
    obtain ⟨session, stored, -⟩ := (indexed.participants token id).mp known
    exact ⟨session, stored⟩
  cases action with
  | joinSession now request =>
    obtain ⟨session, stored, -⟩ := (indexed.invitations request.invitationToken id).mp resolved
    exact ⟨session, stored⟩
  | acceptPolicy now request => exact participant resolved
  | submitInput now request => exact participant resolved
  | getResult now request => exact participant resolved
  | getSessionStatus now request => exact participant resolved
  | _ => cases resolved

theorem System.perform_thread {env : Environment} {system : System} {action : Action} {index : Nat}
    {thread : Thread} (own : action.thread = some index)
    (here : system.threads[index]? = some thread) :
    system.perform env action = system.threadStep env index thread action := by
  cases action <;> cases own <;> simp [System.perform, System.onThread, here]

theorem isolated_of_running {env : Environment} (fresh : env.NeverRepeats) {system : System}
    (reachable : (machine env).Reachable system) (running : system.alive = true) :
    SessionsIsolated env system := by
  have sound := sound_of_reachable fresh reachable
  have later (action : Action) : (system.step env action).1.manager.Indexed :=
    (sound_of_reachable fresh (reachable.step action)).toIndexed
  have step (action : Action) : system.step env action = system.perform env action := by
    simp [System.step, running]
  constructor
  · intro action id resolved
    obtain ⟨session, stored⟩ := resolves_stored sound.toIndexed resolved
    obtain ⟨⟨after, record, sessions⟩, reply, threads⟩ := System.perform_answered sound resolved stored
    rw [← step] at sessions reply threads
    refine ⟨session, stored, .of_records sound.toIndexed (later action) ?_ reply threads ?_⟩
    · rw [sessions, record, AList.lookup_insert]
    · intro other apart
      rw [sessions, AList.lookup_insert_ne apart]
  · intro action index thread own here
    have worked := System.threadStep_worked env here own
    rw [← System.perform_thread own here, ← step] at worked
    exact .of_records sound.toIndexed (later action) worked.record worked.reply worked.threads
      worked.records
  · intro now request id session stored
    rw [← createSession_swept fresh sound now request stored,
      system.step_createSession running now request]

/-- Session isolation. -/
theorem sessions_isolated_of_reachable (env : Environment) (fresh : env.NeverRepeats)
    (system : System) (reachable : (machine env).Reachable system)
    (running : system.alive = true) : SessionsIsolated env system :=
  isolated_of_running fresh reachable running

theorem two_calendars_isolated :
    ∃ system, system = (machine calendarEnv).after (machine calendarEnv).initial
        (calendarSubmissions ++
          [.createSession 0 { policy := { policyClass := "calendar", expectedParticipants := 2 } }]) ∧
      system.manager.sessions.keys = ["aaaaa", "a"] ∧ SessionsIsolated calendarEnv system :=
  ⟨_, rfl, by decide +kernel, sessions_isolated_of_reachable calendarEnv
    (countingEnv_neverRepeats _) _ ⟨_, rfl⟩ (by decide +kernel)⟩

namespace System

variable {env : Environment} {system : System}

theorem perform_unresolved {action : Action}
    (kind : ∀ now request, action ≠ .createSession now request)
    (unknown : action.resolves system.manager = none)
    (absent : ∀ index, action.thread = some index → system.threads[index]? = none) :
    (system.perform env action).1 = system := by
  have refused {token : String} (missing : system.manager.participantToSession.lookup token = none) :
      system.manager.authenticate token = .error .unknownToken := by
    simp [SessionManager.authenticate, missing]
  cases action with
  | createSession now request => exact absurd rfl (kind now request)
  | joinSession now request =>
    simp only [Action.resolves] at unknown
    simp [perform, joinSession, SessionManager.joinSession, unknown, invalidToken, refuse]
  | acceptPolicy now request =>
    simp [perform, SessionManager.acceptPolicy, SessionManager.withSession, refused unknown]
  | submitInput now request =>
    simp [perform, submitInput, SessionManager.submitInput, SessionManager.withSession,
      refused unknown, invalidToken, refuse]
  | getResult now request =>
    simp [perform, SessionManager.getResult, SessionManager.withSession, refused unknown]
  | getSessionStatus now request =>
    simp [perform, SessionManager.getSessionStatus, SessionManager.withSession, refused unknown]
  | spawnSucceeds index => simp [perform, onThread, absent index rfl]
  | spawnFails index what => simp [perform, onThread, absent index rfl]
  | preparePrompt index => simp [perform, onThread, absent index rfl]
  | infer index results => simp [perform, onThread, absent index rfl]
  | writeResult index now => simp [perform, onThread, absent index rfl]
  | leave index => simp [perform, onThread, absent index rfl]

end System

inductive Owner (env : Environment) (system : System) (action : Action) : Prop
  | call (id : String) (session : Session) (resolved : action.resolves system.manager = some id)
      (stored : system.manager.sessions.lookup id = some session)
      (isolated : Isolated env system action id
        (session.call env (env.randomHex system.manager.draws) action))
  | worker (index : Nat) (thread : Thread) (own : action.thread = some index)
      (here : system.threads[index]? = some thread)
      (isolated : Isolated env system action thread.session
        (thread.phase.work env (env.randomHex system.manager.draws)
          (system.manager.sessions.lookup thread.session) action))
  | create (now : Int) (request : CreateSessionRequest) (same : action = .createSession now request)
      (manager : (system.step env action).1.manager = (system.manager.createSession env now request).1)
  | nobody (same : (system.step env action).1 = system)

theorem owner_of_reachable {env : Environment} (fresh : env.NeverRepeats) {system : System}
    (reachable : (machine env).Reachable system) (action : Action) : Owner env system action := by
  by_cases running : system.alive = true
  · obtain ⟨calls, workers, -⟩ := isolated_of_running fresh reachable running
    by_cases kind : ∃ now request, action = .createSession now request
    · obtain ⟨now, request, rfl⟩ := kind
      exact .create now request rfl (system.step_createSession running now request)
    · cases resolved : action.resolves system.manager with
      | some id =>
        obtain ⟨session, stored, isolated⟩ := calls action id resolved
        exact .call id session resolved stored isolated
      | none =>
        by_cases owned : ∃ index thread, action.thread = some index ∧
            system.threads[index]? = some thread
        · obtain ⟨index, thread, own, here⟩ := owned
          exact .worker index thread own here (workers action index thread own here)
        · refine .nobody ?_
          simp only [System.step, running, if_true]
          refine System.perform_unresolved (fun now request same => kind ⟨now, request, same⟩)
            resolved fun index own => ?_
          by_contra present
          obtain ⟨thread, here⟩ := Option.ne_none_iff_exists'.mp present
          exact owned ⟨index, thread, own, here⟩
  · exact .nobody (by simp [System.step, running])

end Ztab
