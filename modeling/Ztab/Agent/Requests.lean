import Ztab.Agent.McpServer
import Ztab.Session.Seats

set_option autoImplicit false

/-!
# What a tool call asks of the server

A handler over the cached stub makes at most one RPC. Its request is made from the
arguments and a fresh UUID, and the tokens in its result are those of the response.
-/

namespace Ztab

open Effect

def Event.request : Event → Option RpcRequest
  | .called _ request => some request
  | _ => none

def McpState.calls (state : McpState) : List RpcRequest := state.history.filterMap Event.request

def Quiet {Value : Type} (program : Mcp Value) : Prop :=
  ∀ holds : List RpcRequest → Prop, Ensures (fun state => holds state.calls) program
    (fun _ state => holds state.calls) (fun state => holds state.calls)

section Quiet

variable {Value Result : Type}

theorem quiet_pure (value : Value) : Quiet (pure value) := fun _ => ensures_pure fun _ kept => kept

theorem quiet_throw (error : PyException) : Quiet (throw error : Mcp Value) :=
  fun _ => ensures_throw fun _ kept => kept

theorem quiet_ofExcept (outcome : Except PyException Value) : Quiet (Effect.ofExcept outcome) :=
  fun _ => ensures_ofExcept (fun _ _ _ kept => kept) fun _ kept => kept

theorem quiet_get : Quiet (get : Mcp McpState) := fun _ _ kept => kept

theorem quiet_modify {change : McpState → McpState}
    (silent : ∀ state, (change state).calls = state.calls) : Quiet (modify change) := by
  intro holds state kept
  rw [exec_modify]
  simpa only [silent] using kept

theorem Quiet.bind {program : Mcp Value} {next : Value → Mcp Result} (first : Quiet program)
    (rest : ∀ value, Quiet (next value)) : Quiet (program >>= next) :=
  fun holds => ensures_bind (first holds) fun value => rest value holds

theorem quiet_record {event : Event} (other : event.request = none) : Quiet (record event) :=
  quiet_modify fun state => by simp [McpState.calls, other]

end Quiet

theorem getBackends_quiet (env : AgentEnv) (file : FileView) : Quiet (getBackends env file) := by
  cases file with
  | absent => exact quiet_pure _
  | inaccessible => exact quiet_throw _
  | present mtimeNs content =>
    apply quiet_get.bind
    intro state
    split
    · apply (quiet_ofExcept _).bind
      intro newConfig
      exact (quiet_modify (by intro _; rfl)).bind fun _ => quiet_pure _
    · exact quiet_pure _

theorem getBackendInfo_quiet (env : AgentEnv) (file : FileView) (backendId : PyValue) :
    Quiet (getBackendInfo env file backendId) :=
  (getBackends_quiet env file).bind fun _ => quiet_ofExcept _

theorem connect_quiet (env : AgentEnv) (network : Network) (number : Nat) (target : Target)
    (verifier : VerifierPolicy.Verifier) : Quiet (connect env network number target verifier) := by
  apply (quiet_ofExcept _).bind
  intro certPem
  apply (quiet_ofExcept _).bind
  intro extracted
  cases extracted with
  | none => exact quiet_throw _
  | some token =>
    apply (quiet_ofExcept _).bind
    intro verdict
    apply (quiet_record rfl).bind
    intro _
    split
    · apply (quiet_ofExcept _).bind
      intro _
      exact (quiet_record rfl).bind fun _ => quiet_pure _
    · exact quiet_throw _

theorem getStub_quiet (env : AgentEnv) (network : Network) (target : Target) :
    Quiet (getStub env network target) := by
  apply (quiet_ofExcept _).bind
  intro verifier
  apply quiet_get.bind
  intro state
  exact (quiet_modify (by intro _; rfl)).bind fun _ => connect_quiet env network _ target verifier

theorem getCachedStub_quiet (env : AgentEnv) (file : FileView) (network : Network)
    (arguments : PyValue) : Quiet (getCachedStub env file network arguments) := by
  apply (quiet_ofExcept _).bind
  intro backendId
  apply (getBackendInfo_quiet env file backendId).bind
  intro backend
  apply (quiet_ofExcept _).bind
  intro bid
  apply (quiet_ofExcept _).bind
  intro _
  apply quiet_get.bind
  intro state
  split
  · exact quiet_pure _
  · apply (quiet_ofExcept _).bind
    intro policy
    apply (quiet_ofExcept _).bind
    intro host
    apply (quiet_ofExcept _).bind
    intro port
    apply (getStub_quiet env network _).bind
    intro channel
    exact (quiet_modify (by intro _; rfl)).bind fun _ => quiet_pure _

theorem evictBackend_quiet (env : AgentEnv) (file : FileView) (arguments : PyValue) :
    Quiet (evictBackend env file arguments) := by
  apply (quiet_ofExcept _).bind
  intro backendId
  apply (getBackendInfo_quiet env file backendId).bind
  intro backend
  apply (quiet_ofExcept _).bind
  intro bid
  exact (quiet_ofExcept _).bind fun _ => quiet_modify fun _ => rfl

def PyValue.Tokenless (value : PyValue) : Prop :=
  ∀ held, value.item "participant_token" ≠ .ok held

theorem errorResult_tokenless (message : PyStr) : (errorResult message).Tokenless := by
  intro held found
  have missing : PyValue.find (py "participant_token")
      [(py "status", pyText "error"), (py "message", .str message)] = none := by
    simp only [PyValue.find]
    rw [if_neg (by decide), if_neg (by decide)]
  simp [errorResult, pyDict, PyValue.item, missing] at found

theorem validateRequiredArgs_tokenless {tool : Tool} {arguments answer : PyValue}
    (refused : validateRequiredArgs tool arguments = .ok (some answer)) : answer.Tokenless := by
  obtain ⟨missing, -, refused⟩ := bind_eq_ok.mp refused
  split at refused
  · cases refused
  · cases refused
    exact errorResult_tokenless _

def Tried (build : PyValue → Except PyException RpcRequest) (base calls : List RpcRequest) : Prop :=
  calls = base ∨ ∃ backend request, build backend = .ok request ∧ calls = base ++ [request]

-- The value has tokens only if they are from the response.
def Told (env : AgentEnv) (network : Network) (build : PyValue → Except PyException RpcRequest)
    (base : List RpcRequest) (value : PyValue) (state : McpState) : Prop :=
  (Tried build base state.calls ∧ value.Tokenless) ∨
    ∃ backend request response, build backend = .ok request ∧ state.calls = base ++ [request] ∧
      network.rpc request = .ok response ∧ value = successResult env.python request response

section Calls

variable {env : AgentEnv} {call : ToolCall} {base : List RpcRequest}

theorem callRpc_told (network : Network) (channel : ZtabChannel) (request : RpcRequest) :
    Ensures (fun state => state.calls = base) (callRpc network channel request)
      (fun response state => network.rpc request = .ok response ∧ state.calls = base ++ [request])
      (fun state => state.calls = base ++ [request]) := by
  apply ensures_bind_modify fun state => state.calls = base ++ [request]
  · rintro state rfl
    simp [McpState.calls, Event.request]
  · exact ensures_ofExcept (fun _ answered _ same => ⟨answered, same⟩) fun _ same => same

theorem runCached_told (build : PyValue → Except PyException RpcRequest) :
    Ensures (fun state => state.calls = base) (runCached env call build)
      (Told env call.network build base) (fun state => Tried build base state.calls) := by
  apply ensures_bind ((getCachedStub_quiet env call.file call.network call.arguments (· = base)).mono
    (fun _ same => same) (fun _ _ same => same) fun _ same => .inl same)
  rintro ⟨channel, backend⟩
  apply ensures_tryCatch fun state => Tried build base state.calls
  · apply ensures_bind_ofExcept fun _ same => .inl same
    intro request built
    apply ensures_bind ((callRpc_told call.network channel request).mono (fun _ same => same)
      (fun _ _ told => told) fun _ sent => .inr ⟨backend, request, built, sent⟩)
    intro response
    apply ensures_pure
    rintro state ⟨answered, sent⟩
    exact .inr ⟨backend, request, response, built, sent, answered, rfl⟩
  · intro raised
    split
    next code details =>
      have told : Ensures (fun state => Tried build base state.calls)
          (pure (grpcError code details) : Mcp PyValue) (Told env call.network build base)
          (fun state => Tried build base state.calls) :=
        ensures_pure fun _ tried => .inl ⟨tried, errorResult_tokenless _⟩
      split
      · -- An eviction after the request was made makes no other.
        exact ensures_bind (evictBackend_quiet env call.laterFile call.arguments (Tried build base))
          fun _ => told
      · exact told
    next => exact ensures_throw fun _ tried => tried

theorem callTool_told {build : PyValue → Except PyException RpcRequest}
    (handled : Tool.handler env call = runCached env call build) :
    Ensures (fun state => state.calls = base) (callTool env call)
      (Told env call.network build base) (fun state => Tried build base state.calls) := by
  apply ensures_bind_ofExcept fun _ same => .inl same
  intro refused checked
  cases refused with
  | some answer =>
    have tokenless := validateRequiredArgs_tokenless checked
    exact ensures_pure fun _ same => .inl ⟨.inl same, tokenless⟩
  | none =>
    dsimp only
    rw [handled]
    apply ensures_tryCatch _ (runCached_told build)
    intro raised
    split
    · exact ensures_pure fun _ tried => .inl ⟨tried, errorResult_tokenless _⟩
    · exact ensures_pure fun _ tried => .inl ⟨tried, errorResult_tokenless _⟩

end Calls

inductive AdmissionTool where
  | create
  | join
  deriving DecidableEq, Repr

def AdmissionTool.tool : AdmissionTool → Tool
  | .create => .ztab_create_session
  | .join => .ztab_join_session

def AdmissionTool.build (python : Python) (uuid : PyStr) (arguments : PyValue) :
    AdmissionTool → PyValue → Except PyException RpcRequest
  | .create => buildCreateSession python uuid arguments
  | .join => fun _ => buildJoinSession uuid arguments

def RpcRequest.admission : RpcRequest → Option Admission
  | .createSession request _ => some (.create request)
  | .joinSession request => some (.join request)
  | _ => none

def requestedNonce (uuid : PyStr) (arguments : PyValue) : Except PyException String := do
  protoString (← arguments.get "client_nonce" (.str uuid))

def PyValue.CarriesNonce (arguments : PyValue) : Prop :=
  ∃ held nonce, arguments.item "client_nonce" = .ok held ∧ protoString held = .ok nonce ∧ nonce ≠ ""

theorem PyValue.CarriesNonce.requested {arguments : PyValue} (carries : arguments.CarriesNonce) :
    ∃ nonce, nonce ≠ "" ∧ ∀ uuid, requestedNonce uuid arguments = .ok nonce := by
  obtain ⟨held, nonce, found, encoded, keyed⟩ := carries
  refine ⟨nonce, keyed, fun uuid => ?_⟩
  unfold requestedNonce
  rw [get_of_item found]
  exact encoded

-- What a creation asks for does not depend on the UUID.
def requestedPolicy (python : Python) (arguments : PyValue) : Except PyException SessionPolicy := do
  let policyClass ← arguments.item "policy_class"
  let expectedParticipants ← python.int (← arguments.item "expected_participants")
  let timeoutSeconds ← python.int (← arguments.get "timeout_seconds" (.int 300))
  return { policyClass := ← protoString policyClass
           expectedParticipants := ← protoInt32 expectedParticipants
           timeoutSeconds := ← protoInt32 timeoutSeconds }

section Build

variable {python : Python} {uuid : PyStr} {arguments backend : PyValue} {request : RpcRequest}

theorem buildCreateSession_ok (built : buildCreateSession python uuid arguments backend = .ok request) :
    ∃ policy nonce creatorToken, request = .createSession ⟨policy, nonce⟩ creatorToken ∧
      requestedPolicy python arguments = .ok policy ∧ requestedNonce uuid arguments = .ok nonce := by
  obtain ⟨policyClass, classGiven, built⟩ := bind_eq_ok.mp built
  obtain ⟨expected, expectedGiven, built⟩ := bind_eq_ok.mp built
  obtain ⟨count, counted, built⟩ := bind_eq_ok.mp built
  obtain ⟨timeout, timeoutGiven, built⟩ := bind_eq_ok.mp built
  obtain ⟨length, timed, built⟩ := bind_eq_ok.mp built
  obtain ⟨className, classEncoded, built⟩ := bind_eq_ok.mp built
  obtain ⟨seats, seatsFit, built⟩ := bind_eq_ok.mp built
  obtain ⟨seconds, secondsFit, built⟩ := bind_eq_ok.mp built
  obtain ⟨creatorToken, -, built⟩ := bind_eq_ok.mp built
  obtain ⟨held, given, built⟩ := bind_eq_ok.mp built
  obtain ⟨nonce, encoded, built⟩ := bind_eq_ok.mp built
  cases built
  refine ⟨_, nonce, creatorToken, rfl, ?_, bind_eq_ok.mpr ⟨held, given, encoded⟩⟩
  simp only [requestedPolicy, classGiven, expectedGiven, counted, timeoutGiven, timed, classEncoded,
    seatsFit, secondsFit, bind, Except.bind, pure, Except.pure]

theorem buildJoinSession_ok (built : buildJoinSession uuid arguments = .ok request) :
    ∃ join, request = .joinSession join ∧ requestedNonce uuid arguments = .ok join.clientNonce ∧
      (arguments.item "invitation_token" >>= protoString) = .ok join.invitationToken ∧
      (arguments.get "role" (.str []) >>= protoString) = .ok join.role := by
  obtain ⟨invitation, invited, built⟩ := bind_eq_ok.mp built
  obtain ⟨role, roleGiven, built⟩ := bind_eq_ok.mp built
  obtain ⟨held, given, built⟩ := bind_eq_ok.mp built
  obtain ⟨invitationToken, invitationEncoded, built⟩ := bind_eq_ok.mp built
  obtain ⟨roleText, roleEncoded, built⟩ := bind_eq_ok.mp built
  obtain ⟨nonce, encoded, built⟩ := bind_eq_ok.mp built
  cases built
  exact ⟨_, rfl, bind_eq_ok.mpr ⟨held, given, encoded⟩,
    bind_eq_ok.mpr ⟨invitation, invited, invitationEncoded⟩,
    bind_eq_ok.mpr ⟨role, roleGiven, roleEncoded⟩⟩

namespace AdmissionTool

variable {tool : AdmissionTool}

theorem build_ok (built : tool.build python uuid arguments backend = .ok request) :
    ∃ admission, request.admission = some admission ∧
      requestedNonce uuid arguments = .ok admission.nonce := by
  cases tool with
  | create =>
    obtain ⟨policy, nonce, creatorToken, rfl, -, requested⟩ := buildCreateSession_ok built
    exact ⟨_, rfl, requested⟩
  | join =>
    obtain ⟨join, rfl, requested, -⟩ := buildJoinSession_ok built
    exact ⟨_, rfl, requested⟩

-- With a nonce of its own, a call asks for the same each time it is made.
theorem build_alike (carries : arguments.CarriesNonce) {uuid' : PyStr} {backend' : PyValue}
    {request' : RpcRequest} (built : tool.build python uuid arguments backend = .ok request)
    (built' : tool.build python uuid' arguments backend' = .ok request') :
    request.admission = request'.admission := by
  obtain ⟨own, -, always⟩ := carries.requested
  cases tool with
  | create =>
    obtain ⟨policy, nonce, _, rfl, asked, requested⟩ := buildCreateSession_ok built
    obtain ⟨policy', nonce', _, rfl, asked', requested'⟩ := buildCreateSession_ok built'
    cases asked.symm.trans asked'
    cases requested.symm.trans (always uuid)
    cases requested'.symm.trans (always uuid')
    rfl
  | join =>
    obtain ⟨⟨_, _, _⟩, rfl, requested, invited, role⟩ := buildJoinSession_ok built
    obtain ⟨⟨_, _, _⟩, rfl, requested', invited', role'⟩ := buildJoinSession_ok built'
    cases requested.symm.trans (always uuid)
    cases requested'.symm.trans (always uuid')
    cases invited.symm.trans invited'
    cases role.symm.trans role'
    rfl

theorem handler_eq {env : AgentEnv} {call : ToolCall} (named : call.tool = tool.tool) :
    Tool.handler env call =
      runCached env call (tool.build env.python call.network.uuid call.arguments) := by
  unfold Tool.handler
  rw [named]
  cases tool with
  | create => rfl
  | join => rfl

end AdmissionTool

end Build

end Ztab
