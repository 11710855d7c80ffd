import Ztab.Session.Steps

set_option autoImplicit false

/-!
# Private inputs

Every answer but those to one participant's own submissions is computed from a
state in which that participant's stored text has been redacted. Two runs that
differ in that text alone have the same redacted states, hence the same answers.
-/

namespace Ztab

def Participant.redact (who token : String) (participant : Participant) : Participant :=
  if token = who then { participant with inputJson := "" } else participant

namespace Participant

variable (who token : String) (participant : Participant)

@[simp] theorem redact_accepted : (participant.redact who token).accepted = participant.accepted := by
  unfold redact
  split_ifs <;> rfl

@[simp] theorem redact_inputSubmitted :
    (participant.redact who token).inputSubmitted = participant.inputSubmitted := by
  unfold redact
  split_ifs <;> rfl

theorem redact_accept :
    ({ participant with accepted := true } : Participant).redact who token =
      { participant.redact who token with accepted := true } := by
  unfold redact
  split_ifs <;> rfl

theorem redact_of_ne {who token : String} (other : token ≠ who) (participant : Participant) :
    participant.redact who token = participant := if_neg other

theorem redact_empty (empty : participant.inputJson = "") :
    participant.redact who token = participant := by
  unfold redact
  split_ifs
  · rw [← empty]
  · rfl

end Participant

namespace Session

def redact (who : String) (session : Session) : Session :=
  { session with
    participants := FlatHashMap.mapValues (Participant.redact who) session.participants }

variable (who : String) (session : Session)

@[simp] theorem redact_id : (session.redact who).id = session.id := rfl

@[simp] theorem redact_state : (session.redact who).state = session.state := rfl

@[simp] theorem redact_policy : (session.redact who).policy = session.policy := rfl

@[simp] theorem size_redact : (session.redact who).size = session.size :=
  FlatHashMap.size_mapValues _ _

@[simp] theorem allAccepted_redact : (session.redact who).allAccepted = session.allAccepted :=
  FlatHashMap.all_mapValues (fun token participant => participant.redact_accepted who token) _

@[simp] theorem acceptedCount_redact : (session.redact who).acceptedCount = session.acceptedCount :=
  FlatHashMap.countP_mapValues (fun token participant => participant.redact_accepted who token) _

@[simp] theorem submittedCount_redact : (session.redact who).submittedCount = session.submittedCount :=
  FlatHashMap.countP_mapValues
    (fun token participant => participant.redact_inputSubmitted who token) _

theorem checkAndEnforceTimeout_redact (env : Environment) (now : Int) :
    (session.redact who).checkAndEnforceTimeout env now =
      (session.checkAndEnforceTimeout env now).redact who := by
  have due : (session.redact who).TimedOut env now ↔ session.TimedOut env now := Iff.rfl
  unfold checkAndEnforceTimeout
  by_cases timedOut : session.TimedOut env now
  · rw [if_pos timedOut, if_pos (due.mpr timedOut)]
    rfl
  · rw [if_neg timedOut, if_neg (timedOut ∘ due.mp)]

theorem addParticipant_redact (token clientNonce : String) :
    (session.redact who).addParticipant token clientNonce =
      (session.addParticipant token clientNonce).redact who := by
  unfold addParticipant redact
  rw [FlatHashMap.insert_mapValues, Participant.redact_empty _ _ _ rfl]
  simp only [size, FlatHashMap.size_mapValues]

theorem markAccepted_redact (token : String) (participant : Participant) :
    (session.redact who).markAccepted token (participant.redact who token) =
      (session.markAccepted token participant).redact who := by
  unfold markAccepted redact
  rw [FlatHashMap.insert_mapValues, Participant.redact_accept]

theorem acceptPolicy_redact (now : Int) (token : String) (participant : Participant) :
    (session.redact who).acceptPolicy now token (participant.redact who token) =
      (((session.acceptPolicy now token participant).1.redact who),
        (session.acceptPolicy now token participant).2) := by
  unfold acceptPolicy
  rw [Participant.redact_accepted, markAccepted_redact]
  simp only [allAccepted_redact, size_redact, redact_state, redact_policy]
  split_ifs <;> rfl

theorem getResult_redact (participant participant' : Participant) :
    (session.redact who).getResult participant' =
      ((session.getResult participant).1.redact who, (session.getResult participant).2) := rfl

theorem getSessionStatus_redact (participant participant' : Participant) :
    (session.redact who).getSessionStatus participant' =
      ((session.getSessionStatus participant).1.redact who,
        (session.getSessionStatus participant).2) := by
  simp only [getSessionStatus, redact_state, size_redact, acceptedCount_redact,
    submittedCount_redact]

theorem admitInput_redact (env : Environment) (inputJson : String) :
    (session.redact who).admitInput env inputJson = session.admitInput env inputJson := rfl

theorem retryInput_redact (env : Environment) (inputJson : String) (participant : Participant)
    (remaining : Int) :
    (session.redact who).retryInput env inputJson participant remaining =
      ((session.retryInput env inputJson participant remaining).1.redact who,
        (session.retryInput env inputJson participant remaining).2) := by
  unfold retryInput
  split <;> rfl

theorem remainingInputs_redact : (session.redact who).remainingInputs = session.remainingInputs := by
  simp only [remainingInputs, redact_policy, submittedCount_redact]

theorem storeInput_redact {who token : String} (other : token ≠ who) (session : Session)
    (participant : Participant) (canonical : String) :
    (session.redact who).storeInput token participant canonical =
      (session.storeInput token participant canonical).redact who := by
  unfold storeInput redact
  rw [FlatHashMap.insert_mapValues, Participant.redact_of_ne other]

theorem submitInput_redact {who token : String} (other : token ≠ who) (env : Environment) (now : Int)
    (inputJson : String) (session : Session) (participant : Participant) :
    (session.redact who).submitInput env now token inputJson (participant.redact who token) =
      ((session.submitInput env now token inputJson participant).1.redact who,
        (session.submitInput env now token inputJson participant).2) := by
  rw [Participant.redact_of_ne other]
  unfold submitInput
  rw [redact_state, retryInput_redact, retryInput_redact, remainingInputs_redact, admitInput_redact]
  split_ifs
  · rfl
  · rfl
  · rfl
  · cases session.admitInput env inputJson with
    | error failure => rfl
    | ok canonical =>
      simp only
      rw [storeInput_redact other, remainingInputs_redact]
      split_ifs <;> rfl

theorem storeInput_own (participant : Participant) (canonical : String) :
    (session.storeInput who participant canonical).redact who =
      { session.redact who with
        participants := (session.redact who).participants.insert who
          { participant.redact who who with inputSubmitted := true } } := by
  unfold storeInput redact
  rw [FlatHashMap.insert_mapValues]
  simp [Participant.redact]

theorem submitInput_own {who : String} (env : Environment) (now : Int) (text text' : String)
    {left right : Session} {held held' : Participant} (alike : left.redact who = right.redact who)
    (alikeHeld : held.redact who who = held'.redact who who)
    (accepted : text = text' ∨ (left.submitInput env now who text held).2.isOk =
      (right.submitInput env now who text' held').2.isOk) :
    (left.submitInput env now who text held).1.redact who =
        (right.submitInput env now who text' held').1.redact who ∧
      ∀ sessionId, (left.submitInput env now who text held).2 = .ok (.dispatched sessionId) ↔
        (right.submitInput env now who text' held').2 = .ok (.dispatched sessionId) := by
  have states : left.state = right.state := by
    rw [← redact_state who left, alike, redact_state]
  have ids : left.id = right.id := by
    rw [← redact_id who left, alike, redact_id]
  have submitted : held.inputSubmitted = held'.inputSubmitted := by
    simpa using congrArg Participant.inputSubmitted alikeHeld
  have retried (session : Session) (participant : Participant) (inputJson sessionId : String)
      (remaining : Int) :
      (session.retryInput env inputJson participant remaining).1 = session ∧
        (session.retryInput env inputJson participant remaining).2 ≠ .ok (.dispatched sessionId) := by
    unfold retryInput
    split <;> exact ⟨rfl, fun same => by cases same⟩
  unfold submitInput at accepted ⊢
  rw [← states, ← submitted] at accepted ⊢
  split_ifs at accepted ⊢ with moved already again
  · refine ⟨?_, fun sessionId => ?_⟩
    · rw [(retried left held text "" 0).1, (retried right held' text' "" 0).1, alike]
    · exact iff_of_false (retried left held text sessionId 0).2
        (retried right held' text' sessionId 0).2
  · exact ⟨alike, fun sessionId => iff_of_false (fun same => by cases same)
      (fun same => by cases same)⟩
  · refine ⟨?_, fun sessionId => ?_⟩
    · rw [(retried left held text "" _).1, (retried right held' text' "" _).1, alike]
    · exact iff_of_false (retried left held text sessionId _).2
        (retried right held' text' sessionId _).2
  · have admitted : (left.admitInput env text).isOk = (right.admitInput env text').isOk := by
      rcases accepted with rfl | accepted
      · rw [← admitInput_redact who left, alike, admitInput_redact]
      · cases first : left.admitInput env text <;> cases second : right.admitInput env text' <;>
          simp only [first, second] at accepted
        · rfl
        · split_ifs at accepted <;> cases accepted
        · split_ifs at accepted <;> cases accepted
        · rfl
    cases first : left.admitInput env text with
    | error failure =>
      cases second : right.admitInput env text' with
      | error failure' =>
        exact ⟨alike, fun sessionId => iff_of_false (fun same => by cases same)
          (fun same => by cases same)⟩
      | ok canonical' =>
        rw [first, second] at admitted
        cases admitted
    | ok canonical =>
      cases second : right.admitInput env text' with
      | error failure' =>
        rw [first, second] at admitted
        cases admitted
      | ok canonical' =>
        have stored : (left.storeInput who held canonical).redact who =
            (right.storeInput who held' canonical').redact who := by
          rw [storeInput_own, storeInput_own, alike, alikeHeld]
        have remaining : (left.storeInput who held canonical).remainingInputs =
            (right.storeInput who held' canonical').remainingInputs := by
          rw [← remainingInputs_redact who, stored, remainingInputs_redact]
        simp only [remaining]
        split_ifs
        · refine ⟨congrArg (calculating now) stored, fun sessionId => ?_⟩
          have named : (left.storeInput who held canonical).id =
            (right.storeInput who held' canonical').id := ids
          rw [named]
        · exact ⟨stored, fun sessionId => iff_of_false (fun same => by cases same)
            (fun same => by cases same)⟩

end Session

namespace SessionManager

def redact (who : String) (manager : SessionManager) : SessionManager :=
  { manager with
    sessions := FlatHashMap.mapValues (fun _ session => session.redact who) manager.sessions }

variable (who : String) (manager : SessionManager)

@[simp] theorem redact_participantToSession :
    (manager.redact who).participantToSession = manager.participantToSession := rfl

@[simp] theorem redact_invitationToSession :
    (manager.redact who).invitationToSession = manager.invitationToSession := rfl

@[simp] theorem redact_creatorNonceToSession :
    (manager.redact who).creatorNonceToSession = manager.creatorNonceToSession := rfl

theorem lookup_redact (id : String) :
    (manager.redact who).sessions.lookup id =
      (manager.sessions.lookup id).map (fun session => session.redact who) :=
  FlatHashMap.lookup_mapValues _ _ _

theorem putSession_redact (id : String) (session : Session) :
    (manager.redact who).putSession id (session.redact who) =
      (manager.putSession id session).redact who := by
  unfold putSession redact
  rw [FlatHashMap.insert_mapValues]

theorem eraseSession_redact (id : String) (session : Session) :
    (manager.redact who).eraseSession id (session.redact who) =
      (manager.eraseSession id session).redact who := by
  unfold eraseSession redact
  rw [FlatHashMap.erase_mapValues]
  rfl

theorem authenticate_redact (token : String) :
    (manager.redact who).authenticate token =
      (manager.authenticate token).map
        (fun found => (found.1, found.2.1.redact who, found.2.2.redact who token)) := by
  unfold authenticate
  rw [redact_participantToSession]
  cases manager.participantToSession.lookup token with
  | none => rfl
  | some id =>
    simp only [lookup_redact]
    cases manager.sessions.lookup id with
    | none => rfl
    | some session =>
      simp only [Option.map_some, Session.redact, FlatHashMap.lookup_mapValues]
      cases session.participants.lookup token <;> rfl

theorem withSession_redact {α : Type} (env : Environment) (now : Int) (token : String)
    (body : Session → Participant → Session × Outcome α)
    (redacts : ∀ session participant, body (session.redact who) (participant.redact who token) =
      ((body session participant).1.redact who, (body session participant).2)) :
    (manager.redact who).withSession env now token body =
      ((manager.withSession env now token body).1.redact who,
        (manager.withSession env now token body).2) := by
  unfold withSession
  rw [authenticate_redact]
  cases manager.authenticate token with
  | error failure => rfl
  | ok found =>
    obtain ⟨id, session, participant⟩ := found
    simp only [Except.map, Session.checkAndEnforceTimeout_redact, redacts, putSession_redact]

theorem sweepSession_redact (env : Environment) (now : Int) (id : String) :
    (manager.redact who).sweepSession env now id = (manager.sweepSession env now id).redact who := by
  unfold sweepSession
  rw [lookup_redact]
  cases manager.sessions.lookup id with
  | none => rfl
  | some session =>
    simp only [Option.map_some, Session.checkAndEnforceTimeout_redact, eraseSession_redact,
      putSession_redact]
    have due : ((session.checkAndEnforceTimeout env now).redact who).ShouldErase env now ↔
      (session.checkAndEnforceTimeout env now).ShouldErase env now := Iff.rfl
    simp only [due]
    split_ifs <;> rfl

theorem sweepTerminalSessions_redact (env : Environment) (now : Int) :
    (manager.redact who).sweepTerminalSessions env now =
      (manager.sweepTerminalSessions env now).redact who := by
  unfold sweepTerminalSessions
  have keys : (manager.redact who).sessions.keys = manager.sessions.keys :=
    FlatHashMap.keys_mapValues _ _
  rw [keys]
  clear keys
  generalize manager.sessions.keys = ids
  induction ids generalizing manager with
  | nil => rfl
  | cons id rest ih =>
    rw [List.foldl_cons, List.foldl_cons, sweepSession_redact, ih]

theorem admitSession_redact (env : Environment) (request : CreateSessionRequest) :
    (manager.redact who).admitSession env request = manager.admitSession env request := by
  have replayed : replayCreate (manager.redact who) request = replayCreate manager request := by
    unfold replayCreate
    simp only [lookup_redact, redact_creatorNonceToSession]
    cases manager.creatorNonceToSession.lookup request.clientNonce with
    | none => rfl
    | some id =>
      simp only [Option.bind_some]
      cases manager.sessions.lookup id <;> rfl
  have size : FlatHashMap.size (manager.redact who).sessions = FlatHashMap.size manager.sessions :=
    FlatHashMap.size_mapValues _ _
  unfold admitSession
  rw [replayed, size]

theorem newSession_redact (now : Int) (request : CreateSessionRequest)
    (policyDef : PolicyDefinition) (id creatorToken invitationToken : String) :
    (newSession now request policyDef id creatorToken invitationToken).redact who =
      newSession now request policyDef id creatorToken invitationToken := by
  unfold newSession Session.redact
  rw [FlatHashMap.insert_mapValues, FlatHashMap.mapValues_empty, Participant.redact_empty _ _ _ rfl]

theorem openSession_redact (env : Environment) (now : Int) (request : CreateSessionRequest)
    (policyDef : PolicyDefinition) :
    (manager.redact who).openSession env now request policyDef =
      ((manager.openSession env now request policyDef).1.redact who,
        (manager.openSession env now request policyDef).2) := by
  unfold openSession generateRandomHex insertSession redact
  simp only [FlatHashMap.insert_mapValues, newSession_redact]

theorem createSession_redact (env : Environment) (now : Int) (request : CreateSessionRequest) :
    (manager.redact who).createSession env now request =
      ((manager.createSession env now request).1.redact who,
        (manager.createSession env now request).2) := by
  unfold createSession
  rw [sweepTerminalSessions_redact]
  simp only [admitSession_redact]
  split
  next => rfl
  next => rfl
  next => rw [openSession_redact]

theorem admitParticipant_redact (env : Environment) (id : String) (session : Session)
    (clientNonce : String) :
    (manager.redact who).admitParticipant env id (session.redact who) clientNonce =
      ((manager.admitParticipant env id session clientNonce).1.redact who,
        (manager.admitParticipant env id session clientNonce).2) := by
  unfold admitParticipant generateRandomHex
  simp only [Session.addParticipant_redact, putSession, redact, FlatHashMap.insert_mapValues]
  rfl

theorem joinChecked_redact (env : Environment) (id : String) (session : Session)
    (clientNonce : String) :
    (manager.redact who).joinChecked env id (session.redact who) clientNonce =
      ((manager.joinChecked env id session clientNonce).1.redact who,
        (manager.joinChecked env id session clientNonce).2) := by
  have replayed : replayJoin (session.redact who) clientNonce = replayJoin session clientNonce := rfl
  unfold joinChecked
  rw [replayed, putSession_redact, admitParticipant_redact]
  simp only [Session.redact_state, Session.redact_policy, Session.size_redact]
  cases replayJoin session clientNonce with
  | error failure => rfl
  | ok answered =>
    cases answered with
    | some token => rfl
    | none =>
      simp only
      split_ifs <;> rfl

theorem joinSession_redact (env : Environment) (now : Int) (request : JoinSessionRequest) :
    (manager.redact who).joinSession env now request =
      ((manager.joinSession env now request).1.redact who,
        (manager.joinSession env now request).2) := by
  unfold joinSession
  rw [redact_invitationToSession]
  cases manager.invitationToSession.lookup request.invitationToken with
  | none => rfl
  | some id =>
    simp only [lookup_redact]
    cases manager.sessions.lookup id with
    | none => rfl
    | some found =>
      simp only [Option.map_some, Session.checkAndEnforceTimeout_redact, joinChecked_redact]

theorem submitInput_redact {who : String} (env : Environment) (now : Int)
    {request : SubmitInputRequest} (other : request.participantToken ≠ who)
    (manager : SessionManager) :
    (manager.redact who).submitInput env now request =
      ((manager.submitInput env now request).1.redact who,
        (manager.submitInput env now request).2) := by
  unfold submitInput
  rw [withSession_redact who manager env now _ _
    (fun session participant => session.submitInput_redact other env now _ participant)]
  simp only
  split <;> rfl

theorem writeResult_redact (now : Int) (id : String) (outcome : Except Status Bytes) :
    (manager.redact who).writeResult now id outcome =
      (manager.writeResult now id outcome).redact who := by
  unfold writeResult
  rw [lookup_redact]
  cases manager.sessions.lookup id with
  | none => rfl
  | some session =>
    have written : (session.redact who).writeOutcome now outcome =
      (session.writeOutcome now outcome).redact who := by cases outcome <;> rfl
    simp only [Option.map_some, Session.redact_state, written, putSession_redact]
    split_ifs <;> rfl

theorem handleSpawnFailure_redact (id what : String) :
    (manager.redact who).handleSpawnFailure id what =
      (manager.handleSpawnFailure id what).redact who := by
  have released : (manager.redact who).releaseThread = manager.releaseThread.redact who := rfl
  unfold handleSpawnFailure
  rw [released, lookup_redact]
  cases manager.releaseThread.sessions.lookup id with
  | none => rfl
  | some session => exact putSession_redact who manager.releaseThread id (session.abortSpawn what)

-- The prompt is the one thing that depends on the stored texts.
theorem preparePrompt_redact (env : Environment) (id : String) :
    ((manager.redact who).preparePrompt env id).1 = (manager.preparePrompt env id).1.redact who ∧
      ((manager.redact who).preparePrompt env id).2.map Prod.snd =
        (manager.preparePrompt env id).2.map Prod.snd := by
  unfold preparePrompt
  rw [lookup_redact]
  cases manager.sessions.lookup id with
  | none => exact ⟨rfl, rfl⟩
  | some session =>
    have states : (session.redact who).state ≠ .CALCULATING ↔ session.state ≠ .CALCULATING := Iff.rfl
    by_cases moved : session.state ≠ .CALCULATING
    · simp only [Option.map_some, if_pos moved, if_pos (states.mpr moved)]
      trivial
    · simp only [Option.map_some, if_neg moved, if_neg (moved ∘ states.mp)]
      exact ⟨rfl, rfl⟩

variable {who : String} {left right : SessionManager}

theorem authenticate_alike (alike : left.redact who = right.redact who) (token : String) :
    (∃ failure, left.authenticate token = .error failure ∧
        right.authenticate token = .error failure) ∨
      ∃ id session session' held held', left.authenticate token = .ok (id, session, held) ∧
        right.authenticate token = .ok (id, session', held') ∧
        session.redact who = session'.redact who ∧
        held.redact who token = held'.redact who token := by
  have same := congrArg (fun manager => manager.authenticate token) alike
  simp only [authenticate_redact] at same
  cases first : left.authenticate token with
  | error failure =>
    cases second : right.authenticate token with
    | error failure' =>
      rw [first, second] at same
      cases same
      exact .inl ⟨failure, rfl, rfl⟩
    | ok found' =>
      rw [first, second] at same
      cases same
  | ok found =>
    cases second : right.authenticate token with
    | error failure' =>
      rw [first, second] at same
      cases same
    | ok found' =>
      obtain ⟨id, session, held⟩ := found
      obtain ⟨id', session', held'⟩ := found'
      rw [first, second] at same
      simp only [Except.map, Except.ok.injEq, Prod.mk.injEq] at same
      obtain ⟨rfl, sessions, participants⟩ := same
      exact .inr ⟨id, session, session', held, held', rfl, rfl, sessions, participants⟩

def threadsAfter (count : Int) : Outcome Submission → Int
  | .ok (.dispatched _) => count + 1
  | _ => count

theorem submitInput_eq (env : Environment) (now : Int) (manager : SessionManager)
    (request : SubmitInputRequest) :
    manager.submitInput env now request =
      ({ (manager.withSession env now request.participantToken
          (Session.submitInput env now request.participantToken request.inputJson)).1 with
        activeAsyncThreads := threadsAfter
          (manager.withSession env now request.participantToken
            (Session.submitInput env now request.participantToken
              request.inputJson)).1.activeAsyncThreads
          (manager.withSession env now request.participantToken
            (Session.submitInput env now request.participantToken request.inputJson)).2 },
        (manager.withSession env now request.participantToken
          (Session.submitInput env now request.participantToken request.inputJson)).2) := by
  unfold submitInput
  generalize manager.withSession env now request.participantToken
    (Session.submitInput env now request.participantToken request.inputJson) = result
  obtain ⟨after, failure | response | sessionId⟩ := result <;> rfl

theorem threadsAfter_congr (count : Int) {first second : Outcome Submission}
    (alike : ∀ sessionId, first = .ok (.dispatched sessionId) ↔
      second = .ok (.dispatched sessionId)) :
    threadsAfter count first = threadsAfter count second := by
  unfold threadsAfter
  split
  next sessionId => rw [(alike sessionId).mp rfl]
  next undispatched =>
    split
    next sessionId => exact absurd ((alike sessionId).mpr rfl) (undispatched sessionId)
    next => rfl

theorem submitInput_own (env : Environment) (now : Int) (text text' : String)
    (alike : left.redact who = right.redact who)
    (accepted : text = text' ∨ (left.submitInput env now ⟨who, text⟩).2.isOk =
      (right.submitInput env now ⟨who, text'⟩).2.isOk) :
    (left.submitInput env now ⟨who, text⟩).1.redact who =
        (right.submitInput env now ⟨who, text'⟩).1.redact who ∧
      ∀ sessionId, (left.submitInput env now ⟨who, text⟩).2 = .ok (.dispatched sessionId) ↔
        (right.submitInput env now ⟨who, text'⟩).2 = .ok (.dispatched sessionId) := by
  rw [submitInput_eq, submitInput_eq] at accepted ⊢
  obtain ⟨failure, first, second⟩ | ⟨id, session, session', held, held', first, second, sessions,
    participants⟩ := authenticate_alike alike who
  · simp only [withSession, first, second]
    exact ⟨alike, fun _ => trivial⟩
  · simp only [withSession, first, second] at accepted ⊢
    have checked : (session.checkAndEnforceTimeout env now).redact who =
        (session'.checkAndEnforceTimeout env now).redact who := by
      rw [← Session.checkAndEnforceTimeout_redact, sessions, Session.checkAndEnforceTimeout_redact]
    obtain ⟨stored, dispatched⟩ :=
      Session.submitInput_own env now text text' checked participants accepted
    refine ⟨?_, dispatched⟩
    have puts := putSession_redact who left id
      ((session.checkAndEnforceTimeout env now).submitInput env now who text held).1
    rw [alike, stored, putSession_redact] at puts
    rw [threadsAfter_congr _ dispatched]
    exact congrArg (fun manager : SessionManager =>
      { manager with
        activeAsyncThreads := threadsAfter manager.activeAsyncThreads
          ((session'.checkAndEnforceTimeout env now).submitInput env now who text' held').2 })
      puts.symm

end SessionManager

def Phase.redact : Phase → Phase
  | .prompted _ outputSchema => .prompted "" outputSchema
  | other => other

def Thread.redact (thread : Thread) : Thread := { thread with phase := thread.phase.redact }

structure Alike (who : String) (left right : System) : Prop where
  manager : left.manager.redact who = right.manager.redact who
  threads : left.threads.map Thread.redact = right.threads.map Thread.redact
  alive : left.alive = right.alive

namespace Alike

variable {who : String} {left right : System}

-- A handler that commutes with redaction gives alike systems the same answer.
theorem handle {α : Type} (alike : Alike who left right)
    (handler : SessionManager → SessionManager × α)
    (redacts : ∀ manager : SessionManager,
      handler (manager.redact who) = ((handler manager).1.redact who, (handler manager).2)) :
    (handler left.manager).1.redact who = (handler right.manager).1.redact who ∧
      (handler left.manager).2 = (handler right.manager).2 := by
  have same := congrArg handler alike.manager
  rw [redacts, redacts] at same
  exact Prod.mk.inj same

theorem thread (alike : Alike who left right) (index : Nat) :
    (left.threads[index]? = none ∧ right.threads[index]? = none) ∨
      ∃ thread thread', left.threads[index]? = some thread ∧
        right.threads[index]? = some thread' ∧ thread.session = thread'.session ∧
        thread.phase.redact = thread'.phase.redact := by
  have same := congrArg (fun threads : List Thread => threads[index]?) alike.threads
  simp only [List.getElem?_map] at same
  cases first : left.threads[index]? with
  | none =>
    rw [first] at same
    simp only [Option.map_none] at same
    exact .inl ⟨rfl, Option.map_eq_none_iff.mp same.symm⟩
  | some thread =>
    rw [first] at same
    simp only [Option.map_some] at same
    obtain ⟨thread', second, redacted⟩ := Option.map_eq_some_iff.mp same.symm
    have sessions : thread.redact.session = thread'.redact.session := by rw [redacted]
    have phases : thread.redact.phase = thread'.redact.phase := by rw [redacted]
    exact .inr ⟨thread, thread', rfl, second, sessions, phases⟩

theorem setPhase (alike : Alike who left right) {manager manager' : SessionManager}
    (managers : manager.redact who = manager'.redact who) (index : Nat) {thread thread' : Thread}
    (sessions : thread.session = thread'.session) {phase phase' : Phase}
    (phases : phase.redact = phase'.redact) {history history' : History} :
    Alike who ({ left with manager, history }.setPhase index thread phase)
      ({ right with manager := manager', history := history' }.setPhase index thread' phase') where
  manager := managers
  threads := by
    have redacted : ({ thread with phase } : Thread).redact =
        ({ thread' with phase := phase' } : Thread).redact := by
      simp only [Thread.redact, sessions, phases]
    simp only [System.setPhase, List.map_set, alike.threads, redacted]
  alive := alike.alive

theorem preparePrompt (alike : Alike who left right) (env : Environment) (index : Nat)
    {thread thread' : Thread} (sessions : thread.session = thread'.session) :
    Alike who (left.preparePrompt env index thread) (right.preparePrompt env index thread') := by
  have redacts := fun manager : SessionManager =>
    SessionManager.preparePrompt_redact who manager env thread'.session
  have managers : (left.manager.preparePrompt env thread'.session).1.redact who =
      (right.manager.preparePrompt env thread'.session).1.redact who := by
    rw [← (redacts left.manager).1, ← (redacts right.manager).1, alike.manager]
  have schemas : (left.manager.preparePrompt env thread'.session).2.map Prod.snd =
      (right.manager.preparePrompt env thread'.session).2.map Prod.snd := by
    rw [← (redacts left.manager).2, ← (redacts right.manager).2, alike.manager]
  unfold System.preparePrompt
  rw [sessions]
  cases first : (left.manager.preparePrompt env thread'.session).2 with
  | none =>
    rw [first] at schemas
    have second := Option.map_eq_none_iff.mp schemas.symm
    simp only [first, second]
    exact alike.setPhase managers index sessions rfl
  | some prepared =>
    rw [first] at schemas
    obtain ⟨prepared', second, schema⟩ := Option.map_eq_some_iff.mp schemas.symm
    simp only [first, second]
    exact alike.setPhase managers index sessions (by simp only [Phase.redact, schema])

theorem infer (alike : Alike who left right) (env : Environment) (index : Nat)
    {thread thread' : Thread} (sessions : thread.session = thread'.session)
    (prompt prompt' outputSchema : String) (results : Nat → GenerateResult) :
    Alike who (left.infer env index thread prompt outputSchema results).1
        (right.infer env index thread' prompt' outputSchema results).1 ∧
      (left.infer env index thread prompt outputSchema results).2 =
        (right.infer env index thread' prompt' outputSchema results).2 := by
  unfold System.infer
  simp only
  split
  next => exact ⟨alike.setPhase alike.manager index sessions rfl, rfl⟩
  next => exact ⟨⟨alike.manager, alike.threads, rfl⟩, rfl⟩

-- Phases that redact alike are equal, or differ in the prompt.
theorem phase_cases {phase phase' : Phase} (alike : phase.redact = phase'.redact) :
    phase = phase' ∨ ∃ prompt prompt' outputSchema,
      phase = .prompted prompt outputSchema ∧ phase' = .prompted prompt' outputSchema := by
  cases phase <;> cases phase' <;> simp_all [Phase.redact]

theorem threadStep (alike : Alike who left right) (env : Environment) (index : Nat)
    {thread thread' : Thread} (sessions : thread.session = thread'.session)
    (phases : thread.phase.redact = thread'.phase.redact) (action : Action) :
    Alike who (left.threadStep env index thread action).1
        (right.threadStep env index thread' action).1 ∧
      (left.threadStep env index thread action).2 =
        (right.threadStep env index thread' action).2 := by
  obtain same | ⟨prompt, prompt', outputSchema, first, second⟩ := phase_cases phases
  · unfold System.threadStep
    rw [same]
    cases action with
    | spawnSucceeds position =>
      cases thread'.phase with
      | spawning => exact ⟨alike.setPhase alike.manager index sessions rfl, rfl⟩
      | _ => exact ⟨alike, rfl⟩
    | spawnFails position what =>
      cases thread'.phase with
      | spawning =>
        refine ⟨alike.setPhase ?_ index sessions rfl, rfl⟩
        rw [sessions, ← SessionManager.handleSpawnFailure_redact, alike.manager,
          SessionManager.handleSpawnFailure_redact]
      | _ => exact ⟨alike, rfl⟩
    | preparePrompt position =>
      cases thread'.phase with
      | started => exact ⟨alike.preparePrompt env index sessions, rfl⟩
      | _ => exact ⟨alike, rfl⟩
    | infer position results =>
      cases thread'.phase with
      | prompted prompt outputSchema =>
        exact alike.infer env index sessions prompt prompt outputSchema results
      | _ => exact ⟨alike, rfl⟩
    | writeResult position now =>
      cases thread'.phase with
      | inferred outcome =>
        refine ⟨alike.setPhase ?_ index sessions rfl, rfl⟩
        rw [sessions, ← SessionManager.writeResult_redact, alike.manager,
          SessionManager.writeResult_redact]
      | _ => exact ⟨alike, rfl⟩
    | leave position =>
      cases thread'.phase with
      | leaving =>
        refine ⟨alike.setPhase ?_ index sessions rfl, rfl⟩
        exact congrArg SessionManager.releaseThread alike.manager
      | _ => exact ⟨alike, rfl⟩
    | _ => exact ⟨alike, rfl⟩
  · unfold System.threadStep
    rw [first, second]
    cases action with
    | infer position results =>
      exact alike.infer env index sessions prompt prompt' outputSchema results
    | _ => exact ⟨alike, rfl⟩

theorem onThread (alike : Alike who left right) (env : Environment) (index : Nat) (action : Action) :
    Alike who (left.onThread env index action).1 (right.onThread env index action).1 ∧
      (left.onThread env index action).2 = (right.onThread env index action).2 := by
  unfold System.onThread
  obtain ⟨first, second⟩ | ⟨thread, thread', first, second, sessions, phases⟩ := alike.thread index
  · rw [first, second]
    exact ⟨alike, rfl⟩
  · rw [first, second]
    exact alike.threadStep env index sessions phases action

end Alike

def Action.SubmitsAs (who : String) : Action → Prop
  | .submitInput _ request => request.participantToken = who
  | _ => False

namespace Alike

variable {who : String} {left right : System}

theorem issue {invitation token : String} (managers : left.manager.redact who = right.manager.redact who)
    (threads : left.threads.map Thread.redact = right.threads.map Thread.redact)
    (alive : left.alive = right.alive) :
    Alike who (left.issue invitation token) (right.issue invitation token) := by
  constructor <;> simpa

theorem createSession (alike : Alike who left right) (env : Environment) (now : Int)
    (request : CreateSessionRequest) :
    Alike who (left.createSession env now request).1 (right.createSession env now request).1 ∧
      (left.createSession env now request).2 = (right.createSession env now request).2 := by
  obtain ⟨managers, answers⟩ := alike.handle
    (fun manager => manager.createSession env now request)
    (fun manager => manager.createSession_redact who env now request)
  unfold System.createSession
  simp only [answers]
  split
  next => exact ⟨issue managers alike.threads alike.alive, rfl⟩
  next => exact ⟨⟨managers, alike.threads, alike.alive⟩, rfl⟩

theorem joinSession (alike : Alike who left right) (env : Environment) (now : Int)
    (request : JoinSessionRequest) :
    Alike who (left.joinSession env now request).1 (right.joinSession env now request).1 ∧
      (left.joinSession env now request).2 = (right.joinSession env now request).2 := by
  obtain ⟨managers, answers⟩ := alike.handle
    (fun manager => manager.joinSession env now request)
    (fun manager => manager.joinSession_redact who env now request)
  unfold System.joinSession
  simp only [answers]
  split
  next => exact ⟨issue managers alike.threads alike.alive, rfl⟩
  next => exact ⟨⟨managers, alike.threads, alike.alive⟩, rfl⟩

theorem submitInput (alike : Alike who left right) (env : Environment) (now : Int)
    {request : SubmitInputRequest} (other : request.participantToken ≠ who) :
    Alike who (left.submitInput env now request).1 (right.submitInput env now request).1 ∧
      (left.submitInput env now request).2 = (right.submitInput env now request).2 := by
  obtain ⟨managers, answers⟩ := alike.handle
    (fun manager => manager.submitInput env now request)
    (fun manager => SessionManager.submitInput_redact env now other manager)
  unfold System.submitInput
  simp only [answers]
  split
  next => exact ⟨⟨managers, alike.threads, alike.alive⟩, rfl⟩
  next => exact ⟨⟨managers, alike.threads, alike.alive⟩, rfl⟩
  next =>
    refine ⟨⟨managers, ?_, alike.alive⟩, rfl⟩
    simp only [List.map_append, alike.threads]

theorem perform (alike : Alike who left right) (env : Environment) (action : Action)
    (other : ¬ action.SubmitsAs who) :
    Alike who (left.perform env action).1 (right.perform env action).1 ∧
      (left.perform env action).2 = (right.perform env action).2 := by
  cases action with
  | createSession now request => exact alike.createSession env now request
  | joinSession now request => exact alike.joinSession env now request
  | acceptPolicy now request =>
    obtain ⟨managers, answers⟩ := alike.handle
      (fun manager => manager.acceptPolicy env now request)
      (fun manager => manager.withSession_redact who env now _ _
        (fun session participant => session.acceptPolicy_redact who now _ participant))
    exact ⟨⟨managers, alike.threads, alike.alive⟩, congrArg Reply.acceptPolicy answers⟩
  | submitInput now request => exact alike.submitInput env now other
  | getResult now request =>
    obtain ⟨managers, answers⟩ := alike.handle
      (fun manager => manager.getResult env now request)
      (fun manager => manager.withSession_redact who env now _ _
        (fun session participant => session.getResult_redact who participant _))
    exact ⟨⟨managers, alike.threads, alike.alive⟩, congrArg Reply.getResult answers⟩
  | getSessionStatus now request =>
    obtain ⟨managers, answers⟩ := alike.handle
      (fun manager => manager.getSessionStatus env now request)
      (fun manager => manager.withSession_redact who env now _ _
        (fun session participant => session.getSessionStatus_redact who participant _))
    exact ⟨⟨managers, alike.threads, alike.alive⟩, congrArg Reply.getSessionStatus answers⟩
  | spawnSucceeds index => exact alike.onThread env index _
  | spawnFails index what => exact alike.onThread env index _
  | preparePrompt index => exact alike.onThread env index _
  | infer index results => exact alike.onThread env index _
  | writeResult index now => exact alike.onThread env index _
  | leave index => exact alike.onThread env index _

end Alike

def Reply.accepted : Reply → Bool
  | .submitInput (.error _) => false
  | _ => true

/-- The same request of both runs, or two texts of one participant with the same fate. -/
inductive SameRequest (who : String) : Action × Reply → Action × Reply → Prop
  | same (action : Action) (reply reply' : Reply) : SameRequest who (action, reply) (action, reply')
  | texts (now : Int) (text text' : String) (reply reply' : Reply)
      (accepted : reply.accepted = reply'.accepted) :
      SameRequest who (.submitInput now ⟨who, text⟩, reply) (.submitInput now ⟨who, text'⟩, reply')

/-- The answer is the same, unless it is one to the participant's own submission. -/
def SameAnswer (who : String) (left right : Action × Reply) : Prop :=
  ¬ left.1.SubmitsAs who → left = right

namespace Alike

variable {who : String} {left right : System}

theorem accepted_eq (system : System) (env : Environment) (now : Int)
    (request : SubmitInputRequest) :
    (system.submitInput env now request).2.accepted =
      (system.manager.submitInput env now request).2.isOk := by
  unfold System.submitInput
  generalize system.manager.submitInput env now request = result
  obtain ⟨after, failure | response | sessionId⟩ := result <;> rfl

theorem submitInput_own (alike : Alike who left right) (env : Environment) (now : Int)
    (text text' : String)
    (accepted : text = text' ∨ (left.submitInput env now ⟨who, text⟩).2.accepted =
      (right.submitInput env now ⟨who, text'⟩).2.accepted) :
    Alike who (left.submitInput env now ⟨who, text⟩).1
      (right.submitInput env now ⟨who, text'⟩).1 := by
  rw [accepted_eq, accepted_eq] at accepted
  obtain ⟨managers, dispatched⟩ :=
    SessionManager.submitInput_own env now text text' alike.manager accepted
  unfold System.submitInput
  cases first : left.manager.submitInput env now ⟨who, text⟩ with
  | mk manager outcome =>
    cases second : right.manager.submitInput env now ⟨who, text'⟩ with
    | mk manager' outcome' =>
      rw [first, second] at managers dispatched
      simp only at managers dispatched ⊢
      by_cases spawns : ∃ sessionId, outcome = .ok (.dispatched sessionId)
      · obtain ⟨sessionId, rfl⟩ := spawns
        rw [(dispatched sessionId).mp rfl]
        refine ⟨managers, ?_, alike.alive⟩
        simp only [List.map_append, alike.threads]
      · have quiet : ∀ sessionId, outcome ≠ .ok (.dispatched sessionId) :=
          fun sessionId same => spawns ⟨sessionId, same⟩
        have quiet' : ∀ sessionId, outcome' ≠ .ok (.dispatched sessionId) :=
          fun sessionId same => quiet sessionId ((dispatched sessionId).mpr same)
        rcases outcome with failure | response | sessionId
        · rcases outcome' with failure' | response' | sessionId'
          · exact ⟨managers, alike.threads, alike.alive⟩
          · exact ⟨managers, alike.threads, alike.alive⟩
          · exact absurd rfl (quiet' sessionId')
        · rcases outcome' with failure' | response' | sessionId'
          · exact ⟨managers, alike.threads, alike.alive⟩
          · exact ⟨managers, alike.threads, alike.alive⟩
          · exact absurd rfl (quiet' sessionId')
        · exact absurd rfl (quiet sessionId)

theorem step (alike : Alike who left right) (env : Environment) {action action' : Action}
    (request : SameRequest who (action, (left.step env action).2)
      (action', (right.step env action').2)) :
    Alike who (left.step env action).1 (right.step env action').1 ∧
      SameAnswer who (action, (left.step env action).2) (action', (right.step env action').2) := by
  by_cases running : left.alive = true
  · have first : left.step env action = left.perform env action := if_pos running
    have second : right.step env action' = right.perform env action' :=
      if_pos (alike.alive ▸ running)
    rw [first, second] at request ⊢
    generalize answer : (left.perform env action).2 = reply at request
    generalize answer' : (right.perform env action').2 = reply' at request
    cases request with
    | same =>
      by_cases own : action.SubmitsAs who
      · cases action with
        | submitInput now submission =>
          obtain ⟨token, text⟩ := submission
          cases own
          exact ⟨alike.submitInput_own env now text text (.inl rfl), fun other => absurd rfl other⟩
        | _ => exact absurd own id
      · obtain ⟨next, answers⟩ := alike.perform env action own
        refine ⟨next, fun _ => ?_⟩
        rw [← answer, ← answer', answers]
    | texts now text text' _ _ accepted =>
      rw [← answer, ← answer'] at accepted
      exact ⟨alike.submitInput_own env now text text' (.inr accepted), fun other => absurd rfl other⟩
  · have first : left.step env action = (left, .terminated) := if_neg running
    have second : right.step env action' = (right, .terminated) :=
      if_neg (alike.alive ▸ running)
    rw [first, second] at request ⊢
    refine ⟨alike, fun other => ?_⟩
    cases request with
    | same => rfl
    | texts now text text' _ _ accepted => exact absurd rfl other

end Alike

/--
Two runs with the same requests, clock readings, random values and engine
outputs, except for the texts one participant submits: every other answer is the
same in both.
-/
theorem other_answers_agree (env : Environment) (who : String) (left right : List Action)
    (requests : List.Forall₂ (SameRequest who) ((machine env).log (machine env).initial left)
      ((machine env).log (machine env).initial right)) :
    List.Forall₂ (SameAnswer who) ((machine env).log (machine env).initial left)
      ((machine env).log (machine env).initial right) :=
  (machine env).paired_logs (Alike who) (SameRequest who) (SameAnswer who)
    (fun _ _ _ _ alike request => alike.step env request) _ _ ⟨rfl, rfl, rfl⟩ left right requests

-- The creator submits a text and sends it again after the session is closed.
def calendarRetry (text : String) : List Action :=
  [.createSession 0 { policy := { policyClass := "calendar", expectedParticipants := 2 } },
    .joinSession 0 { invitationToken := "aaa" },
    .acceptPolicy 0 ⟨"aaaa"⟩,
    .submitInput 0 ⟨"aa", text⟩,
    .submitInput 0 ⟨"aaaa", "[2]"⟩] ++
    calendarInference "\x7b\x7d" ++
    [.submitInput 0 ⟨"aa", text⟩, .getResult 0 ⟨"aaaa"⟩]

theorem calendar_answers_agree :
    List.Forall₂ (SameAnswer "aa")
      ((machine calendarEnv).log (machine calendarEnv).initial (calendarRetry "[1]"))
      ((machine calendarEnv).log (machine calendarEnv).initial (calendarRetry "[ 7, 8 ]")) := by
  refine other_answers_agree calendarEnv "aa" _ _ ?_
  refine .cons (.same ..) (.cons (.same ..) (.cons (.same ..) (.cons (.texts _ _ _ _ _ ?_)
    (.cons (.same ..) (.cons (.same ..) (.cons (.same ..) (.cons (.same ..) (.cons (.same ..)
      (.cons (.texts _ _ _ _ _ ?_) (.cons (.same ..) .nil))))))))))
  · decide +kernel
  · decide +kernel

end Ztab
