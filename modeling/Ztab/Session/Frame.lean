import Ztab.Session.Tokens

set_option autoImplicit false

/-!
# What a step leaves alone

A call that fails does its housekeeping and nothing else. A call or a worker step
that belongs to one session sees and changes nothing of the others.
-/

namespace Ztab

namespace SessionManager

def checkTimeoutOf (env : Environment) (now : Int) (manager : SessionManager) (id : String) :
    SessionManager :=
  match manager.sessions.lookup id with
  | none => manager
  | some session => manager.putSession id (session.checkAndEnforceTimeout env now)

def checkAddressed (env : Environment) (now : Int) (manager : SessionManager)
    (address : Option String) : SessionManager :=
  address.elim manager (manager.checkTimeoutOf env now)

end SessionManager

def Action.housekeeping (env : Environment) (manager : SessionManager) : Action → SessionManager
  | .createSession now _ => manager.sweepTerminalSessions env now
  | .joinSession now request =>
    manager.checkAddressed env now (manager.invitationToSession.lookup request.invitationToken)
  | .submitInput now request =>
    manager.checkAddressed env now (manager.participantToSession.lookup request.participantToken)
  | .acceptPolicy now request | .getResult now request | .getSessionStatus now request =>
    manager.checkAddressed env now (manager.participantToSession.lookup request.participantToken)
  | _ => manager

def Reply.failed : Reply → Bool
  | .createSession (.error _) | .joinSession (.error _) | .acceptPolicy (.error _)
  | .submitInput (.error _) | .getResult (.error _) | .getSessionStatus (.error _) => true
  | _ => false

namespace SessionManager

variable {env : Environment} {manager : SessionManager}

theorem checkAddressed_stored (now : Int) {address : Option String} {id : String} {session : Session}
    (indexed : address = some id) (stored : manager.sessions.lookup id = some session) :
    manager.checkAddressed env now address =
      manager.putSession id (session.checkAndEnforceTimeout env now) := by
  simp [checkAddressed, indexed, checkTimeoutOf, stored]

theorem authenticate_listed (indexed : Indexed manager) {token id : String} {session : Session}
    {participant : Participant} (stored : manager.sessions.lookup id = some session)
    (listed : session.participants.lookup token = some participant) :
    manager.authenticate token = .ok (id, session, participant) := by
  have member : token ∈ session.participants :=
    (FlatHashMap.mem_iff_lookup _ _).mpr ⟨participant, listed⟩
  have known : manager.participantToSession.lookup token = some id :=
    (indexed.participants token id).mpr ⟨session, stored, member⟩
  simp [authenticate, known, stored, listed]

theorem createSession_failed {now : Int} {request : CreateSessionRequest} {failure : Failure}
    (failed : (manager.createSession env now request).2 = .error failure) :
    (manager.createSession env now request).1 = manager.sweepTerminalSessions env now := by
  obtain ⟨other, result⟩ | ⟨response, -, result⟩ | ⟨policyDef, -, result⟩ :=
    manager.createSession_cases env now request
  · rw [result]
  · rw [result]
  · rw [result] at failed
    cases failed

theorem joinSession_stored {now : Int} {request : JoinSessionRequest} {id : String} {session : Session}
    (indexed : manager.invitationToSession.lookup request.invitationToken = some id)
    (stored : manager.sessions.lookup id = some session) :
    manager.joinSession env now request =
      manager.joinChecked env id (session.checkAndEnforceTimeout env now) request.clientNonce := by
  simp [joinSession, indexed, stored]

theorem joinChecked_failed {id clientNonce : String} {session : Session} {failure : Failure}
    (failed : (manager.joinChecked env id session clientNonce).2 = .error failure) :
    (manager.joinChecked env id session clientNonce).1 = manager.putSession id session := by
  unfold joinChecked at failed ⊢
  cases replayed : replayJoin session clientNonce with
  | error other => rfl
  | ok answered =>
    cases answered with
    | some token => rfl
    | none =>
      simp only [replayed] at failed ⊢
      split_ifs at failed ⊢
      · rfl
      · rfl

theorem joinSession_failed (indexed : Indexed manager) {now : Int} {request : JoinSessionRequest}
    {failure : Failure} (failed : (manager.joinSession env now request).2 = .error failure) :
    (manager.joinSession env now request).1 =
      manager.checkAddressed env now
        (manager.invitationToSession.lookup request.invitationToken) := by
  cases known : manager.invitationToSession.lookup request.invitationToken with
  | none => simp [joinSession, known, checkAddressed]
  | some id =>
    obtain ⟨session, stored, -⟩ := (indexed.invitations _ id).mp known
    rw [joinSession_stored known stored] at failed ⊢
    rw [joinChecked_failed failed, checkAddressed_stored now rfl stored]

theorem withSession_failed {α : Type} (indexed : Indexed manager) {now : Int} {token : String}
    {body : Session → Participant → Session × Outcome α} {failure : Failure}
    (restores : ∀ session participant failure,
      (body session participant).2 = .error failure → (body session participant).1 = session)
    (failed : (manager.withSession env now token body).2 = .error failure) :
    (manager.withSession env now token body).1 =
      manager.checkAddressed env now (manager.participantToSession.lookup token) := by
  obtain ⟨refused, unknown⟩ | ⟨id, session, participant, known, addressed⟩ :=
    authenticate_eq indexed token
  · simp [withSession, refused, unknown, checkAddressed]
  · obtain ⟨-, stored, -⟩ := authenticate_ok known
    simp only [withSession, known] at failed ⊢
    rw [restores _ _ failure failed, checkAddressed_stored now addressed stored]

end SessionManager

namespace Session

theorem acceptPolicy_failed {now : Int} {token : String} (session : Session)
    (participant : Participant) (failure : Failure)
    (failed : (session.acceptPolicy now token participant).2 = .error failure) :
    (session.acceptPolicy now token participant).1 = session := by
  unfold acceptPolicy at failed ⊢
  simp only at failed ⊢
  split_ifs at failed ⊢
  · rfl

theorem submitInput_failed {env : Environment} {now : Int} {token inputJson : String}
    (session : Session) (participant : Participant) (failure : Failure)
    (failed : (session.submitInput env now token inputJson participant).2 = .error failure) :
    (session.submitInput env now token inputJson participant).1 = session := by
  unfold submitInput at failed ⊢
  split_ifs at failed ⊢
  · exact retryInput_fst ..
  · rfl
  · exact retryInput_fst ..
  · cases admitted : session.admitInput env inputJson with
    | error other => rfl
    | ok canonical =>
      simp only [admitted] at failed
      split_ifs at failed
      cases failed

end Session

theorem SessionManager.submitInput_failed {env : Environment} {manager : SessionManager}
    (indexed : Indexed manager) {now : Int} {request : SubmitInputRequest} {failure : Failure}
    (failed : (manager.submitInput env now request).2 = .error failure) :
    (manager.submitInput env now request).1 =
      manager.checkAddressed env now
        (manager.participantToSession.lookup request.participantToken) := by
  unfold submitInput at failed ⊢
  simp only at failed ⊢
  split at failed
  next sessionId dispatched => cases dispatched.symm.trans failed
  next => exact withSession_failed indexed Session.submitInput_failed failed

namespace System

variable {env : Environment} {system : System}

-- The step lemma: a call that fails leaves the system as its housekeeping does.
theorem perform_failed (indexed : system.manager.Indexed) {action : Action}
    (call : action.actor = .rpc) (failed : (system.perform env action).2.failed = true) :
    (system.perform env action).1 =
      { system with manager := action.housekeeping env system.manager } := by
  cases action with
  | createSession now request =>
    simp only [perform, createSession] at failed ⊢
    cases outcome : (system.manager.createSession env now request).2 with
    | ok response => simp [outcome, Reply.failed] at failed
    | error failure =>
      simp only [Action.housekeeping]
      rw [SessionManager.createSession_failed outcome]
  | joinSession now request =>
    simp only [perform, joinSession] at failed ⊢
    cases outcome : (system.manager.joinSession env now request).2 with
    | ok response => simp [outcome, Reply.failed] at failed
    | error failure =>
      simp only [Action.housekeeping]
      rw [SessionManager.joinSession_failed indexed outcome]
  | acceptPolicy now request =>
    simp only [perform, Action.housekeeping] at failed ⊢
    cases outcome : (system.manager.acceptPolicy env now request).2 with
    | ok response => simp [outcome, Reply.failed] at failed
    | error failure =>
      rw [SessionManager.acceptPolicy] at outcome ⊢
      rw [SessionManager.withSession_failed indexed Session.acceptPolicy_failed outcome]
  | submitInput now request =>
    simp only [perform, submitInput] at failed ⊢
    cases outcome : (system.manager.submitInput env now request).2 with
    | ok submission => cases submission <;> simp [outcome, Reply.failed] at failed
    | error failure =>
      simp only [Action.housekeeping]
      rw [SessionManager.submitInput_failed indexed outcome]
  | getResult now request =>
    simp only [perform, Action.housekeeping] at failed ⊢
    cases outcome : (system.manager.getResult env now request).2 with
    | ok response => simp [outcome, Reply.failed] at failed
    | error failure =>
      rw [SessionManager.getResult] at outcome ⊢
      rw [SessionManager.withSession_failed indexed (fun _ _ _ _ => rfl) outcome]
  | getSessionStatus now request =>
    simp only [perform, Action.housekeeping] at failed ⊢
    cases outcome : (system.manager.getSessionStatus env now request).2 with
    | ok response => simp [outcome, Reply.failed] at failed
    | error failure =>
      rw [SessionManager.getSessionStatus] at outcome ⊢
      rw [SessionManager.withSession_failed indexed (fun _ _ _ _ => rfl) outcome]
  | _ => cases call

end System

/-- Failed calls leave no trace. -/
theorem failed_call_leaves_no_trace (env : Environment) (fresh : env.NeverRepeats) (system : System)
    (reachable : (machine env).Reachable system) (action : Action) (call : action.actor = .rpc)
    (failed : (system.step env action).2.failed = true) :
    (system.step env action).1 =
      { system with manager := action.housekeeping env system.manager } := by
  unfold System.step at failed ⊢
  split_ifs at failed ⊢ with alive
  · exact System.perform_failed (sound_of_reachable fresh reachable).toIndexed call failed
  · cases failed

-- The invitation is refused because the session timed out, and the timeout stays.
theorem calendar_late_join :
    ∃ system, system = (machine calendarEnv).after (machine calendarEnv).initial
        [.createSession 0 { policy := { policyClass := "calendar", expectedParticipants := 2 } }] ∧
      (system.step calendarEnv (.joinSession (seconds 301) { invitationToken := "aaa" })).1 =
        { system with
          manager := (Action.joinSession (seconds 301) { invitationToken := "aaa" }).housekeeping
            calendarEnv system.manager } ∧
      ((system.step calendarEnv (.joinSession (seconds 301)
          { invitationToken := "aaa" })).1.manager.sessions.lookup "a").map Session.state =
        some .ABORTED :=
  ⟨_, rfl, failed_call_leaves_no_trace calendarEnv (countingEnv_neverRepeats _) _ ⟨_, rfl⟩
    (.joinSession (seconds 301) { invitationToken := "aaa" }) rfl (by decide +kernel),
    by decide +kernel⟩

end Ztab
