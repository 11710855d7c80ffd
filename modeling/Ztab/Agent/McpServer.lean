import Ztab.Agent.Backends
import Ztab.Shared.Machine

set_option autoImplicit false

/-!
# The MCP server

One tool call at a time. What the network, the attestation service and the backends
file do during a call comes with the call.
-/

namespace Ztab

structure Network where
  fetchServerCertPem : PyValue → Int → Except PyException Bytes
  extractAttestationToken : Bytes → Except PyException (Option PyStr)
  -- The callable that `create_ita_verifier` returns, at this moment.
  itaVerifier : ItaPolicy → PyStr → Bytes → Except PyException Bool
  secureChannel : Except PyException Unit
  rpc : (request : RpcRequest) → Except PyException request.Response
  uuid : PyStr
  decodeJwtPayload : PyStr → PyValue

def record (event : Event) : Mcp Unit :=
  modify fun state => { state with history := state.history ++ [event] }

def noopVerifier (env : AgentEnv) : Except PyException Bool :=
  if ¬ env.isTest then
    .error (.runtimeError (py ("noop_verifier is strictly forbidden outside test environments. " ++
      "Set ZTAB_TEST_ENVIRONMENT=1 to allow in test harnesses, or use " ++
      "create_ita_verifier() for production.")))
  else .ok true

def runVerifier (env : AgentEnv) (network : Network) (token : PyStr) (certPem : Bytes) :
    VerifierPolicy.Verifier → Except PyException Bool
  | .noopVerifier => noopVerifier env
  | .itaVerifier policy => network.itaVerifier policy token certPem

-- `ZtabChannel.connect` on a channel that has this number.
def connect (env : AgentEnv) (network : Network) (number : Nat) (target : Target)
    (verifier : VerifierPolicy.Verifier) : Mcp ZtabChannel := do
  let certPem ← Effect.ofExcept (network.fetchServerCertPem target.host target.port)
  match ← Effect.ofExcept (network.extractAttestationToken certPem) with
  | none =>
    throw (.runtimeError (py ("Server certificate does not contain an attestation extension " ++
      "(OID 1.3.6.1.4.1.99999.1).")))
  | some token =>
    let verdict ← Effect.ofExcept (runVerifier env network token certPem verifier)
    record (.verified number verifier verdict)
    if verdict then
      Effect.ofExcept network.secureChannel
      record (.connected number target)
      pure ⟨number, target, token⟩
    else throw (.runtimeError (py "Attestation verification failed."))

def getStub (env : AgentEnv) (network : Network) (target : Target) : Mcp ZtabChannel := do
  let verifier ← Effect.ofExcept (getVerifier env target.policy)
  let state ← get
  modify fun state => { state with channels := state.channels + 1 }
  connect env network state.channels target verifier

def cacheFind (bid : PyValue) (cache : List (PyValue × ZtabChannel)) : Option ZtabChannel :=
  (cache.find? fun entry => entry.1.same bid).map Prod.snd

def getCachedStub (env : AgentEnv) (file : FileView) (network : Network) (arguments : PyValue) :
    Mcp (ZtabChannel × PyValue) := do
  let backendId ← Effect.ofExcept (arguments.get "backend")
  let backend ← getBackendInfo env file backendId
  let bid ← Effect.ofExcept (backend.item "backend_id")
  Effect.ofExcept bid.hash
  let state ← get
  match cacheFind bid state.channelCache with
  | some channel => pure (channel, backend)
  | none =>
    let policy ← Effect.ofExcept (buildPolicyFromBackend env.python backend)
    let host ← Effect.ofExcept (backendHost backend)
    let port ← Effect.ofExcept (backendPort env.python backend)
    let channel ← getStub env network ⟨host, port, policy⟩
    modify fun state => { state with channelCache := state.channelCache ++ [(bid, channel)] }
    pure (channel, backend)

def evictBackend (env : AgentEnv) (file : FileView) (arguments : PyValue) : Mcp Unit := do
  let backendId ← Effect.ofExcept (arguments.get "backend")
  let backend ← getBackendInfo env file backendId
  let bid ← Effect.ofExcept (backend.item "backend_id")
  Effect.ofExcept bid.hash
  modify fun state =>
    { state with channelCache := state.channelCache.filter fun entry => !entry.1.same bid }

def callRpc (network : Network) (channel : ZtabChannel) (request : RpcRequest) :
    Mcp request.Response := do
  record (.called channel.number request)
  Effect.ofExcept (network.rpc request)

-- A string field of a message: None leaves it empty, and a lone surrogate has no UTF-8.
def protoString : PyValue → Except PyException String
  | .none => .ok ""
  | .str text =>
    if text.all fun point => decide (point.val < 0xD800) || decide (0xDFFF < point.val) then
      .ok (String.ofList (text.map fun point => Char.ofNat point.val))
    else .error .foreign
  | _ => .error .typeError

-- An int32 field of a message.
def protoInt32 (value : Int) : Except PyException Int :=
  if -(2 ^ 31) ≤ value ∧ value < 2 ^ 31 then .ok value
  else .error (.valueError (py ("Value out of range: " ++ toString value)))

def buildCreateSession (python : Python) (uuid : PyStr) (arguments backend : PyValue) :
    Except PyException RpcRequest := do
  let policyClass ← arguments.item "policy_class"
  let expectedParticipants ← python.int (← arguments.item "expected_participants")
  let timeoutSeconds ← python.int (← arguments.get "timeout_seconds" (.int 300))
  let policy : SessionPolicy :=
    { policyClass := ← protoString policyClass
      expectedParticipants := ← protoInt32 expectedParticipants
      timeoutSeconds := ← protoInt32 timeoutSeconds }
  let creatorToken ← backend.get "creator_token" (.str [])
  let clientNonce ← protoString (← arguments.get "client_nonce" (.str uuid))
  return .createSession { policy, clientNonce } creatorToken

def buildJoinSession (uuid : PyStr) (arguments : PyValue) : Except PyException RpcRequest := do
  let invitationToken ← arguments.item "invitation_token"
  let role ← arguments.get "role" (.str [])
  let clientNonce ← arguments.get "client_nonce" (.str uuid)
  return .joinSession
    { invitationToken := ← protoString invitationToken
      role := ← protoString role
      clientNonce := ← protoString clientNonce }

def tokenRequest (arguments : PyValue) : Except PyException TokenRequest := do
  return ⟨← protoString (← arguments.item "participant_token")⟩

def buildAcceptPolicy (arguments : PyValue) : Except PyException RpcRequest := do
  return .acceptPolicy (← tokenRequest arguments)

def buildSubmitInput (arguments : PyValue) : Except PyException RpcRequest := do
  let participantToken ← arguments.item "participant_token"
  let inputJson ← arguments.item "input_json"
  return .submitInput ⟨← protoString participantToken, ← protoString inputJson⟩

def buildGetResult (arguments : PyValue) : Except PyException RpcRequest := do
  return .getResult (← tokenRequest arguments)

def buildGetSessionStatus (arguments : PyValue) : Except PyException RpcRequest := do
  return .getSessionStatus (← tokenRequest arguments)

def pyText (text : String) : PyValue := .str (py text)

def pyDict (entries : List (String × PyValue)) : PyValue :=
  .dict (entries.map fun entry => (py entry.1, entry.2))

def errorResult (message : PyStr) : PyValue :=
  pyDict [("status", pyText "error"), ("message", .str message)]

def PyException.text (python : Python) : PyException → PyStr
  | .valueError message | .runtimeError message => message
  | raised => python.describe raised

def GrpcCode.name (code : GrpcCode) : String :=
  match code with
  | .OK => "OK" | .CANCELLED => "CANCELLED" | .UNKNOWN => "UNKNOWN"
  | .INVALID_ARGUMENT => "INVALID_ARGUMENT" | .DEADLINE_EXCEEDED => "DEADLINE_EXCEEDED"
  | .NOT_FOUND => "NOT_FOUND" | .ALREADY_EXISTS => "ALREADY_EXISTS"
  | .PERMISSION_DENIED => "PERMISSION_DENIED" | .UNAUTHENTICATED => "UNAUTHENTICATED"
  | .RESOURCE_EXHAUSTED => "RESOURCE_EXHAUSTED" | .FAILED_PRECONDITION => "FAILED_PRECONDITION"
  | .ABORTED => "ABORTED" | .OUT_OF_RANGE => "OUT_OF_RANGE" | .UNIMPLEMENTED => "UNIMPLEMENTED"
  | .INTERNAL => "INTERNAL" | .UNAVAILABLE => "UNAVAILABLE" | .DATA_LOSS => "DATA_LOSS"

def grpcError (code : GrpcCode) (details : PyStr) : PyValue :=
  errorResult (py ("gRPC error StatusCode." ++ code.name ++ ": ") ++ details)

def SessionError.name : SessionError → String
  | .SESSION_ERROR_UNSPECIFIED => "SESSION_ERROR_UNSPECIFIED"
  | .SESSION_NOT_FOUND => "SESSION_NOT_FOUND"
  | .SESSION_FULL => "SESSION_FULL"
  | .SESSION_SEALED => "SESSION_SEALED"
  | .INPUT_SCHEMA_VIOLATION => "INPUT_SCHEMA_VIOLATION"
  | .JOIN_TIMEOUT => "JOIN_TIMEOUT"
  | .INPUT_TIMEOUT => "INPUT_TIMEOUT"
  | .LLM_GENERATION_FAILED => "LLM_GENERATION_FAILED"
  | .OUTPUT_LEAKAGE_DETECTED => "OUTPUT_LEAKAGE_DETECTED"
  | .OUTPUT_SCHEMA_VIOLATION => "OUTPUT_SCHEMA_VIOLATION"
  | .RESOURCE_EXHAUSTED => "RESOURCE_EXHAUSTED"
  | .INVALID_PARTICIPANT_TOKEN => "INVALID_PARTICIPANT_TOKEN"

def getResultFields (python : Python) (response : ResultMessage) : List (String × PyValue) :=
  match response.state with
  | .CLOSED =>
    match python.loads (py response.resultJson) with
    | some result => [("result", result)]
    | none => [("result_raw", pyText response.resultJson)]
  | .ABORTED =>
    [("error_code", pyText response.errorCode.name), ("error_detail", pyText response.errorDetail)]
  | state =>
    [("instructions", pyText ("Result not yet available. State is " ++ state.name ++ "."))]

-- The dict that a handler returns for the response to its request.
def successResult (python : Python) : (request : RpcRequest) → request.Response → PyValue
  | .echo _, message => pyDict [("status", pyText "success"), ("echo_response", pyText message)]
  | .createSession _ _, (response : CreateSessionResponse) =>
    pyDict [("status", pyText "success"),
      ("invitation_token", pyText response.invitationToken),
      ("state", pyText response.state.name),
      ("participant_token", pyText response.participantToken),
      ("instructions", pyText ("Share invitation_token with other participants. " ++
        "Keep your participant_token secret."))]
  | .joinSession _, (response : JoinSessionResponse) =>
    pyDict [("status", pyText "success"),
      ("state", pyText response.state.name),
      ("policy_class", pyText response.policy.policyClass),
      ("expected_participants", .int response.policy.expectedParticipants),
      ("participant_token", pyText response.participantToken),
      ("instructions", pyText "Review the policy, then call ztab_accept_policy.")]
  | .acceptPolicy _, (response : AcceptPolicyResponse) =>
    pyDict [("status", pyText "success"),
      ("state", pyText response.state.name),
      ("instructions", pyText (if response.state = .SEALED then
        "All participants accepted. Submit your input now."
        else "Waiting for other participants to accept."))]
  | .submitInput _, (response : SubmitInputResponse) =>
    pyDict [("status", pyText "success"),
      ("state", pyText response.state.name),
      ("remaining_inputs", .int response.remainingInputs),
      ("instructions", pyText (if response.remainingInputs = 0 then
        "All inputs received. Call ztab_get_result."
        else "Waiting for " ++ toString response.remainingInputs ++ " more input(s)."))]
  | .getResult _, (response : ResultMessage) =>
    pyDict ([("status", pyText "success"), ("state", pyText response.state.name)] ++
      getResultFields python response)
  | .getSessionStatus _, (response : GetSessionStatusResponse) =>
    pyDict [("status", pyText "success"),
      ("state", pyText response.state.name),
      ("participants_joined", .int response.participantsJoined),
      ("participants_accepted", .int response.participantsAccepted),
      ("inputs_received", .int response.inputsReceived)]

inductive Tool where
  | ztab_list_backends
  | ztab_test_connection
  | ztab_create_session
  | ztab_join_session
  | ztab_accept_policy
  | ztab_submit_input
  | ztab_get_result
  | ztab_get_session_status
  deriving DecidableEq, Repr

structure ToolCall where
  tool : Tool
  arguments : PyValue
  -- The backends file at the first look, and at the look that an eviction takes.
  file : FileView
  laterFile : FileView
  network : Network

-- A handler over the cached stub: the body of its `try`, and what it does with an RpcError.
def runCached (env : AgentEnv) (call : ToolCall)
    (build : PyValue → Except PyException RpcRequest) : Mcp PyValue := do
  let (channel, backend) ← getCachedStub env call.file call.network call.arguments
  tryCatch
    (do
      let request ← Effect.ofExcept (build backend)
      let response ← callRpc call.network channel request
      pure (successResult env.python request response))
    fun raised =>
      match raised with
      | .rpcError code details => do
        if code = .UNAVAILABLE then evictBackend env call.laterFile call.arguments
        pure (grpcError code details)
      | other => throw other

def runCreateSession (env : AgentEnv) (call : ToolCall) : Mcp PyValue :=
  runCached env call (buildCreateSession env.python call.network.uuid call.arguments)

def runJoinSession (env : AgentEnv) (call : ToolCall) : Mcp PyValue :=
  runCached env call fun _ => buildJoinSession call.network.uuid call.arguments

def runAcceptPolicy (env : AgentEnv) (call : ToolCall) : Mcp PyValue :=
  runCached env call fun _ => buildAcceptPolicy call.arguments

def runSubmitInput (env : AgentEnv) (call : ToolCall) : Mcp PyValue :=
  runCached env call fun _ => buildSubmitInput call.arguments

def runGetResult (env : AgentEnv) (call : ToolCall) : Mcp PyValue :=
  runCached env call fun _ => buildGetResult call.arguments

def runGetSessionStatus (env : AgentEnv) (call : ToolCall) : Mcp PyValue :=
  runCached env call fun _ => buildGetSessionStatus call.arguments

def connectivityResult (network : Network) (channel : ZtabChannel) (message : String) : PyValue :=
  pyDict [("status", pyText "success"),
    ("message", pyText "ZTAB connectivity test passed."),
    ("tls_handshake", pyText "OK (CN=ztab-tee)"),
    ("attestation_token_present", .bool true),
    ("attestation_claims",
      if channel.attestationToken = [] then .none
      else network.decodeJwtPayload channel.attestationToken),
    ("echo_response", pyText message)]

def runConnectivityTest (env : AgentEnv) (network : Network) (target : Target)
    (message : PyValue) : Mcp PyValue := do
  let channel ← getStub env network target
  tryCatch
    (do
      let text ← Effect.ofExcept (protoString message)
      let response ← callRpc network channel (.echo text)
      pure (connectivityResult network channel response))
    fun raised =>
      match raised with
      | .rpcError code details => pure (grpcError code details)
      | other => pure (errorResult (py "Connection error: " ++ other.text env.python))

def sanitizedBackend (backend : PyValue) : Except PyException PyValue := do
  let verifier ← backend.get "verifier"
  let level := if verifier.eq (pyText "noop") then "development" else "production"
  return pyDict [("backend_id", ← backend.get "backend_id"), ("name", ← backend.get "name"),
    ("description", ← backend.get "description"), ("security_level", pyText level)]

def listBackends (config : PyValue) : Except PyException PyValue := do
  let backends ← (← config.get "backends" (.list [])).iterate
  let sanitized ← backends.mapM sanitizedBackend
  let default ← config.get "default_backend"
  return pyDict [("status", pyText "success"), ("backends", .list sanitized),
    ("default_backend", default)]

def runListBackends (env : AgentEnv) (file : FileView) : Mcp PyValue := do
  let config := (← getBackends env file).getD .none
  if !config.truthy then pure (errorResult (py "Backend configuration is missing."))
  else Effect.ofExcept (listBackends config)

def Tool.handler (env : AgentEnv) (call : ToolCall) : Mcp PyValue :=
  match call.tool with
  | .ztab_list_backends => runListBackends env call.file
  | .ztab_test_connection => do
    let target ← commonArgs env call.file call.arguments
    let message ← Effect.ofExcept (call.arguments.get "message" (pyText "Test"))
    runConnectivityTest env call.network target message
  | .ztab_create_session => runCreateSession env call
  | .ztab_join_session => runJoinSession env call
  | .ztab_accept_policy => runAcceptPolicy env call
  | .ztab_submit_input => runSubmitInput env call
  | .ztab_get_result => runGetResult env call
  | .ztab_get_session_status => runGetSessionStatus env call

def Tool.name : Tool → String
  | .ztab_list_backends => "ztab_list_backends"
  | .ztab_test_connection => "ztab_test_connection"
  | .ztab_create_session => "ztab_create_session"
  | .ztab_join_session => "ztab_join_session"
  | .ztab_accept_policy => "ztab_accept_policy"
  | .ztab_submit_input => "ztab_submit_input"
  | .ztab_get_result => "ztab_get_result"
  | .ztab_get_session_status => "ztab_get_session_status"

-- `required` of the tool's input schema, and the keys of its `properties`.
def Tool.required : Tool → List String
  | .ztab_list_backends => []
  | .ztab_test_connection => ["message"]
  | .ztab_create_session => ["policy_class", "expected_participants"]
  | .ztab_join_session => ["invitation_token"]
  | .ztab_submit_input => ["participant_token", "input_json"]
  | .ztab_accept_policy | .ztab_get_result | .ztab_get_session_status => ["participant_token"]

def Tool.properties : Tool → List String
  | .ztab_list_backends => []
  | .ztab_test_connection => ["message", "backend"]
  | .ztab_create_session =>
    ["policy_class", "expected_participants", "timeout_seconds", "backend"]
  | .ztab_join_session => ["invitation_token", "role", "backend"]
  | .ztab_submit_input => ["participant_token", "input_json", "backend"]
  | .ztab_accept_policy | .ztab_get_result | .ztab_get_session_status =>
    ["participant_token", "backend"]

def missingArgs (arguments : PyValue) : List String → Except PyException (List String)
  | [] => .ok []
  | required :: rest => do
    let present ← arguments.contains (py required)
    let missing ← missingArgs arguments rest
    return if present then missing else required :: missing

def validateRequiredArgs (tool : Tool) (arguments : PyValue) :
    Except PyException (Option PyValue) := do
  let missing ← missingArgs arguments tool.required
  if missing = [] then return none
  let plural := if missing.length > 1 then "s" else ""
  return some (errorResult (py ("Missing required argument" ++ plural ++ ": " ++
    ", ".intercalate missing ++ ". Required arguments for " ++ tool.name ++ ": " ++
    ", ".intercalate tool.required ++ ". All accepted arguments: " ++
    ", ".intercalate tool.properties ++ ".")))

-- The `tools/call` branch of `handle_request`, up to the result it wraps.
def callTool (env : AgentEnv) (call : ToolCall) : Mcp PyValue := do
  match ← Effect.ofExcept (validateRequiredArgs call.tool call.arguments) with
  | some refused => pure refused
  | none =>
    tryCatch (Tool.handler env call) fun raised =>
      match raised with
      | .valueError message => pure (errorResult message)
      | other => pure (errorResult (py "Tool execution failed: " ++ other.text env.python))

def mcpMachine (env : AgentEnv) : Machine McpState ToolCall (Except PyException PyValue) where
  initial := {}
  step state call :=
    let (reply, after) := (callTool env call).exec state
    (after, reply)

end Ztab
