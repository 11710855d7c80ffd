import Ztab.Session.Model

set_option autoImplicit false

/-!
# Session RPCs

The lock-held bodies of `SessionManager`, each with the one clock reading of its
step. A body that fails after the timeout check returns the checked state.
-/

namespace Ztab

structure CreateSessionRequest where
  policy : SessionPolicy := {}
  clientNonce : String := ""

structure CreateSessionResponse where
  invitationToken : String
  state : SessionState
  participantToken : String := ""
  deriving DecidableEq, Repr

structure JoinSessionRequest where
  invitationToken : String
  role : String := ""
  clientNonce : String := ""

structure JoinSessionResponse where
  state : SessionState
  policy : SessionPolicy
  participantToken : String
  deriving DecidableEq, Repr

structure TokenRequest where
  participantToken : String

structure AcceptPolicyResponse where
  state : SessionState
  deriving DecidableEq, Repr

structure SubmitInputRequest where
  participantToken : String
  inputJson : String

structure SubmitInputResponse where
  state : SessionState
  remainingInputs : Int
  deriving DecidableEq, Repr

structure GetResultResponse where
  state : SessionState
  resultJson : Bytes := []
  errorCode : SessionError := .SESSION_ERROR_UNSPECIFIED
  errorDetail : String := ""
  deriving DecidableEq, Repr

structure GetSessionStatusResponse where
  state : SessionState
  participantsJoined : Nat
  participantsAccepted : Nat
  inputsReceived : Nat
  deriving DecidableEq, Repr

namespace Session

def effectiveTimeout (env : Environment) (session : Session) : Int :=
  match session.state with
  | .OPEN => min session.timeout (seconds kMaxOpenSeconds)
  | .SEALED => min session.timeout (seconds kMaxSealedSeconds)
  | .CALCULATING => seconds env.options.maxCalculatingSeconds
  | .CLOSED | .ABORTED => session.timeout

def timeoutError : SessionState → SessionError
  | .OPEN => .JOIN_TIMEOUT
  | .SEALED => .INPUT_TIMEOUT
  | .CALCULATING => .LLM_GENERATION_FAILED
  | .CLOSED | .ABORTED => .SESSION_ERROR_UNSPECIFIED

def TimedOut (env : Environment) (now : Int) (session : Session) : Prop :=
  ¬ session.state.Terminal ∧ now - session.stateEnteredAt > session.effectiveTimeout env

instance (env : Environment) (now : Int) (session : Session) : Decidable (session.TimedOut env now) :=
  inferInstanceAs (Decidable (_ ∧ _))

def abortOnTimeout (env : Environment) (now : Int) (session : Session) : Session :=
  { session with
    state := .ABORTED
    errorCode := timeoutError session.state
    errorDetail := "Session timed out in state " ++ session.state.name ++ " after " ++
      env.formatDuration (now - session.stateEnteredAt)
    stateEnteredAt := now }

def checkAndEnforceTimeout (env : Environment) (now : Int) (session : Session) : Session :=
  if session.TimedOut env now then session.abortOnTimeout env now else session

-- SweepTerminalSessions' decision, made on the session as the timeout check leaves it.
def ShouldErase (env : Environment) (now : Int) (session : Session) : Prop :=
  session.state.Terminal ∧
    ((session.state = .ABORTED ∧
        (session.errorCode = .JOIN_TIMEOUT ∨ session.errorCode = .INPUT_TIMEOUT)) ∨
      now - session.stateEnteredAt > seconds env.options.terminalRetentionSeconds)

instance (env : Environment) (now : Int) (session : Session) :
    Decidable (session.ShouldErase env now) :=
  inferInstanceAs (Decidable (_ ∧ _))

def addParticipant (session : Session) (token clientNonce : String) : Session :=
  { session with
    participants := session.participants.insert token { token, joinIndex := session.size }
    participantTokens := session.participantTokens ++ [token]
    nonceToToken :=
      if clientNonce = "" then session.nonceToToken
      else session.nonceToToken.insert clientNonce token }

end Session

def invalidToken {α : Type} : Outcome α := refuse .permissionDenied "Invalid token"

-- The three ways a token can fail are told apart here; callers see one status.
inductive AuthFailure where
  | unknownToken
  | sessionMissing
  | participantMissing
  deriving DecidableEq

namespace SessionManager

def generateRandomHex (env : Environment) (manager : SessionManager) (bytes : Nat) :
    String × SessionManager :=
  (env.randomHex manager.draws bytes, { manager with draws := manager.draws + 1 })

def putSession (manager : SessionManager) (id : String) (session : Session) : SessionManager :=
  { manager with sessions := manager.sessions.insert id session }

def authenticate (manager : SessionManager) (token : String) :
    Except AuthFailure (String × Session × Participant) :=
  match manager.participantToSession.lookup token with
  | none => .error .unknownToken
  | some id =>
    match manager.sessions.lookup id with
    | none => .error .sessionMissing
    | some session =>
      match session.participants.lookup token with
      | none => .error .participantMissing
      | some participant => .ok (id, session, participant)

-- Authenticate, check the timeout, run the body on the checked session.
def withSession {α : Type} (env : Environment) (now : Int) (manager : SessionManager) (token : String)
    (body : Session → Participant → Session × Outcome α) : SessionManager × Outcome α :=
  match manager.authenticate token with
  | .error _ => (manager, invalidToken)
  | .ok (id, session, participant) =>
    let result := body (session.checkAndEnforceTimeout env now) participant
    (manager.putSession id result.1, result.2)

def eraseSession (manager : SessionManager) (id : String) (session : Session) : SessionManager :=
  { manager with
    sessions := manager.sessions.erase id
    invitationToSession := manager.invitationToSession.erase session.invitationToken
    creatorNonceToSession :=
      if session.creatorNonce = "" then manager.creatorNonceToSession
      else manager.creatorNonceToSession.erase session.creatorNonce
    participantToSession :=
      FlatHashMap.eraseAll session.participantTokens manager.participantToSession }

def sweepSession (env : Environment) (now : Int) (manager : SessionManager) (id : String) :
    SessionManager :=
  match manager.sessions.lookup id with
  | none => manager
  | some found =>
    let session := found.checkAndEnforceTimeout env now
    if session.ShouldErase env now then manager.eraseSession id session
    else manager.putSession id session

def sweepTerminalSessions (env : Environment) (now : Int) (manager : SessionManager) :
    SessionManager :=
  manager.sessions.keys.foldl (sweepSession env now) manager

def checkBuiltInSchema (env : Environment) (name schema : String) : Outcome Unit :=
  if schema = "" then .ok ()
  else
    match parseJsonSafely env.json (utf8 schema) with
    | .ok _ => .ok ()
    | .error (.status status) =>
      refuse .internal ("Malformed built-in " ++ name ++ ": " ++ status.message)
    | .error raised => .error raised

def timeoutSecondsOf (policy : SessionPolicy) : Int :=
  if policy.timeoutSeconds > 0 then policy.timeoutSeconds else kDefaultTimeoutSeconds

-- The answer to a nonce already in use, if its session is still stored.
def replayCreate (manager : SessionManager) (request : CreateSessionRequest) :
    Outcome (Option CreateSessionResponse) :=
  if request.clientNonce = "" then .ok none
  else if ¬ isValidUuidV4 request.clientNonce then
    refuse .invalidArgument "client_nonce must be a valid UUIDv4"
  else
    match (manager.creatorNonceToSession.lookup request.clientNonce).bind
        (fun id => manager.sessions.lookup id) with
    | none => .ok none
    | some session =>
      let normalized : SessionPolicy :=
        { request.policy with
          inputSchemaJson := session.policy.inputSchemaJson
          outputSchemaJson := session.policy.outputSchemaJson
          timeoutSeconds := timeoutSecondsOf request.policy }
      if session.policy ≠ normalized then
        refuse .invalidArgument "Idempotency key reused with different parameters"
      else .ok (some
        { invitationToken := session.invitationToken
          state := session.state
          participantToken := session.participantTokens.headD "" })

-- Everything CreateSession checks after the sweep: the definition to create a session
-- with, or the response to replay.
def admitSession (env : Environment) (manager : SessionManager) (request : CreateSessionRequest) :
    Outcome (CreateSessionResponse ⊕ PolicyDefinition) :=
  let policy := request.policy
  if (FlatHashMap.size manager.sessions : Int) ≥ env.options.maxSessions then
    refuse .resourceExhausted ("Server at session capacity (" ++
      toString env.options.maxSessions ++ "). Try again later.")
  else
    match env.registry.getPolicy policy.policyClass with
    | .error status => refuse .invalidArgument status.message
    | .ok policyDef =>
      if policy.expectedParticipants < 2 then
        refuse .invalidArgument "expected_participants must be at least 2"
      else if policy.expectedParticipants > kMaxParticipants then
        refuse .invalidArgument ("expected_participants exceeds maximum (" ++
          toString kMaxParticipants ++ ")")
      else if policy.timeoutSeconds > kMaxTimeoutSeconds then
        refuse .invalidArgument ("timeout_seconds exceeds maximum (" ++
          toString kMaxTimeoutSeconds ++ ")")
      else
        match checkBuiltInSchema env "input_schema_json" policyDef.defaultInputSchemaJson with
        | .error failure => .error failure
        | .ok () =>
          match checkBuiltInSchema env "output_schema_json" policyDef.defaultOutputSchemaJson with
          | .error failure => .error failure
          | .ok () =>
            match replayCreate manager request with
            | .error failure => .error failure
            | .ok (some response) => .ok (.inl response)
            | .ok none => .ok (.inr policyDef)

def newSession (now : Int) (request : CreateSessionRequest) (policyDef : PolicyDefinition)
    (id creatorToken invitationToken : String) : Session :=
  { id
    policy :=
      { request.policy with
        inputSchemaJson := policyDef.defaultInputSchemaJson
        outputSchemaJson := policyDef.defaultOutputSchemaJson
        timeoutSeconds := timeoutSecondsOf request.policy }
    policyDef
    participants := AList.insert creatorToken { token := creatorToken, accepted := true } ∅
    stateEnteredAt := now
    timeout := seconds (timeoutSecondsOf request.policy)
    invitationToken
    participantTokens := [creatorToken]
    creatorNonce := request.clientNonce }

def insertSession (manager : SessionManager) (session : Session) (creatorToken : String) :
    SessionManager :=
  { manager with
    sessions := manager.sessions.insert session.id session
    invitationToSession := manager.invitationToSession.insert session.invitationToken session.id
    participantToSession := manager.participantToSession.insert creatorToken session.id
    creatorNonceToSession :=
      if session.creatorNonce = "" then manager.creatorNonceToSession
      else manager.creatorNonceToSession.insert session.creatorNonce session.id }

def openSession (env : Environment) (now : Int) (manager : SessionManager)
    (request : CreateSessionRequest) (policyDef : PolicyDefinition) :
    SessionManager × CreateSessionResponse :=
  let (id, manager) := manager.generateRandomHex env kSessionIdBytes
  let (creatorToken, manager) := manager.generateRandomHex env kParticipantTokenBytes
  let (invitationToken, manager) := manager.generateRandomHex env kParticipantTokenBytes
  let session := newSession now request policyDef id creatorToken invitationToken
  (manager.insertSession session creatorToken,
    { invitationToken, state := .OPEN, participantToken := creatorToken })

def createSession (env : Environment) (now : Int) (manager : SessionManager)
    (request : CreateSessionRequest) : SessionManager × Outcome CreateSessionResponse :=
  let swept := manager.sweepTerminalSessions env now
  match swept.admitSession env request with
  | .error failure => (swept, .error failure)
  | .ok (.inl response) => (swept, .ok response)
  | .ok (.inr policyDef) =>
    let (manager, response) := swept.openSession env now request policyDef
    (manager, .ok response)

def replayJoin (session : Session) (clientNonce : String) : Outcome (Option String) :=
  if clientNonce = "" then .ok none
  else if ¬ isValidUuidV4 clientNonce then
    refuse .invalidArgument "client_nonce must be a valid UUIDv4"
  else .ok (session.nonceToToken.lookup clientNonce)

def admitParticipant (env : Environment) (manager : SessionManager) (id : String)
    (session : Session) (clientNonce : String) : SessionManager × JoinSessionResponse :=
  let (token, manager) := manager.generateRandomHex env kParticipantTokenBytes
  ({ manager.putSession id (session.addParticipant token clientNonce) with
      participantToSession := manager.participantToSession.insert token session.id },
    { state := session.state, policy := session.policy, participantToken := token })

-- The rest of JoinSession, on the session as the timeout check leaves it.
def joinChecked (env : Environment) (manager : SessionManager) (id : String) (session : Session)
    (clientNonce : String) : SessionManager × Outcome JoinSessionResponse :=
  match replayJoin session clientNonce with
  | .error failure => (manager.putSession id session, .error failure)
  | .ok (some token) =>
    (manager.putSession id session,
      .ok { state := session.state, policy := session.policy, participantToken := token })
  | .ok none =>
    -- Both refusals are the status of an unknown token, to prevent session enumeration.
    if session.state ≠ .OPEN then (manager.putSession id session, invalidToken)
    else if (session.size : Int) ≥ session.policy.expectedParticipants then
      (manager.putSession id session, invalidToken)
    else
      let (manager, response) := manager.admitParticipant env id session clientNonce
      (manager, .ok response)

def joinSession (env : Environment) (now : Int) (manager : SessionManager)
    (request : JoinSessionRequest) : SessionManager × Outcome JoinSessionResponse :=
  match manager.invitationToSession.lookup request.invitationToken with
  | none => (manager, invalidToken)
  | some id =>
    match manager.sessions.lookup id with
    | none => (manager, invalidToken)
    | some found =>
      manager.joinChecked env id (found.checkAndEnforceTimeout env now) request.clientNonce

end SessionManager

namespace Session

def markAccepted (session : Session) (token : String) (participant : Participant) : Session :=
  { session with
    participants := session.participants.insert token { participant with accepted := true } }

def sealed (now : Int) (session : Session) : Session :=
  { session with state := .SEALED, stateEnteredAt := now }

def acceptPolicy (now : Int) (token : String) (session : Session) (participant : Participant) :
    Session × Outcome AcceptPolicyResponse :=
  if participant.accepted then (session, .ok { state := session.state })
  else if session.state ≠ .OPEN then
    (session, refuse .failedPrecondition
      ("Session is not OPEN (state=" ++ session.state.name ++ ")"))
  else
    let marked := session.markAccepted token participant
    if (marked.size : Int) = marked.policy.expectedParticipants ∧ marked.allAccepted then
      (marked.sealed now, .ok { state := .SEALED })
    else (marked, .ok { state := marked.state })

def report (session : Session) : GetResultResponse :=
  match session.state with
  | .CLOSED => { state := session.state, resultJson := session.resultJson }
  | .ABORTED =>
    { state := session.state, errorCode := session.errorCode, errorDetail := session.errorDetail }
  | .OPEN | .SEALED | .CALCULATING => { state := session.state }

def getResult (session : Session) (_ : Participant) : Session × Outcome GetResultResponse :=
  (session, .ok session.report)

def getSessionStatus (session : Session) (_ : Participant) :
    Session × Outcome GetSessionStatusResponse :=
  (session, .ok
    { state := session.state
      participantsJoined := session.size
      participantsAccepted := session.acceptedCount
      inputsReceived := session.submittedCount })

end Session

def payloadTooLarge {α : Type} (text : String) : Outcome α :=
  refuse .invalidArgument ("Input payload too large (" ++ toString text.utf8ByteSize ++
    " bytes, max " ++ toString kMaxInputBytes ++ ")")

def validateRetryPayload (env : Environment) (retryJson storedJson : String) : Outcome Unit :=
  if retryJson.utf8ByteSize > kMaxInputBytes then payloadTooLarge retryJson
  else
    match parseJsonSafely env.json (utf8 retryJson) with
    | .error (.status status) => refuse .invalidArgument status.message
    | .error raised => .error raised
    | .ok parsed =>
      if env.json.dump parsed ≠ storedJson then
        refuse .failedPrecondition "Input already submitted with different content"
      else .ok ()

-- A submission is answered at once, or it was the last one and a worker is to be spawned.
inductive Submission where
  | answered (response : SubmitInputResponse)
  | dispatched (sessionId : String)
  deriving DecidableEq

namespace Session

def inputSchema (session : Session) : String :=
  if session.policy.inputSchemaJson = "" then session.policyDef.defaultInputSchemaJson
  else session.policy.inputSchemaJson

def validateInput (env : Environment) (session : Session) (canonical : String) : Outcome Unit :=
  if session.inputSchema = "" then .ok ()
  else (validateJsonSchema env.json env.partialMatch (utf8 canonical) session.inputSchema).within
    "Input schema violation: "

-- The canonical text of a first submission that passes every check.
def admitInput (env : Environment) (session : Session) (inputJson : String) : Outcome String :=
  if inputJson.utf8ByteSize > kMaxInputBytes then payloadTooLarge inputJson
  else
    match parseJsonSafely env.json (utf8 inputJson) with
    | .error failure => .error failure
    | .ok parsed =>
      match session.validateInput env (env.json.dump parsed) with
      | .error failure => .error failure
      | .ok () => .ok (env.json.dump parsed)

def storeInput (session : Session) (token : String) (participant : Participant)
    (canonical : String) : Session :=
  { session with
    participants := session.participants.insert token
      { participant with inputJson := canonical, inputSubmitted := true } }

def remainingInputs (session : Session) : Int :=
  session.policy.expectedParticipants - session.submittedCount

def calculating (now : Int) (session : Session) : Session :=
  { session with state := .CALCULATING, stateEnteredAt := now }

def answer (session : Session) (remaining : Int) : Session × Outcome Submission :=
  (session, .ok (.answered { state := session.state, remainingInputs := remaining }))

def retryInput (env : Environment) (inputJson : String) (session : Session)
    (participant : Participant) (remaining : Int) : Session × Outcome Submission :=
  match validateRetryPayload env inputJson participant.inputJson with
  | .error failure => (session, .error failure)
  | .ok () => session.answer remaining

def submitInput (env : Environment) (now : Int) (token inputJson : String) (session : Session)
    (participant : Participant) : Session × Outcome Submission :=
  if session.state ≠ .SEALED then
    if participant.inputSubmitted then session.retryInput env inputJson participant 0
    else (session, refuse .failedPrecondition
      ("Session is not SEALED (state=" ++ session.state.name ++ ")"))
  else if participant.inputSubmitted then
    session.retryInput env inputJson participant session.remainingInputs
  else
    match session.admitInput env inputJson with
    | .error failure => (session, .error failure)
    | .ok canonical =>
      let stored := session.storeInput token participant canonical
      if stored.remainingInputs = 0 then (stored.calculating now, .ok (.dispatched stored.id))
      else stored.answer stored.remainingInputs

end Session

namespace SessionManager

def acceptPolicy (env : Environment) (now : Int) (manager : SessionManager)
    (request : TokenRequest) : SessionManager × Outcome AcceptPolicyResponse :=
  manager.withSession env now request.participantToken
    (Session.acceptPolicy now request.participantToken)

-- The part of SubmitInput under its first lock.
def submitInput (env : Environment) (now : Int) (manager : SessionManager)
    (request : SubmitInputRequest) : SessionManager × Outcome Submission :=
  let result := manager.withSession env now request.participantToken
    (Session.submitInput env now request.participantToken request.inputJson)
  match result.2 with
  | .ok (.dispatched _) =>
    ({ result.1 with activeAsyncThreads := result.1.activeAsyncThreads + 1 }, result.2)
  | _ => result

def getResult (env : Environment) (now : Int) (manager : SessionManager)
    (request : TokenRequest) : SessionManager × Outcome GetResultResponse :=
  manager.withSession env now request.participantToken Session.getResult

def getSessionStatus (env : Environment) (now : Int) (manager : SessionManager)
    (request : TokenRequest) : SessionManager × Outcome GetSessionStatusResponse :=
  manager.withSession env now request.participantToken Session.getSessionStatus

end SessionManager

end Ztab
