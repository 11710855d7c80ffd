import Ztab.Agent.VerifierPolicy
import Ztab.Session.Rpc
import Ztab.Shared.Effect

set_option autoImplicit false

/-!
# Backend configuration

The module state of the MCP server, the file it is loaded from, and the way from a
`backend` argument to a host, a port and a verifier policy.
-/

namespace Ztab

structure Target where
  host : PyValue
  port : Int
  policy : VerifierPolicy

-- A connected channel together with its stub; `number` is its place among all channels.
structure ZtabChannel where
  number : Nat
  target : Target
  attestationToken : PyStr

inductive RpcRequest where
  | echo (message : String)
  | createSession (request : CreateSessionRequest) (creatorToken : PyValue)
  | joinSession (request : JoinSessionRequest)
  | acceptPolicy (request : TokenRequest)
  | submitInput (request : SubmitInputRequest)
  | getResult (request : TokenRequest)
  | getSessionStatus (request : TokenRequest)

-- GetResultResponse as the client reads it.
structure ResultMessage where
  state : SessionState
  resultJson : String := ""
  errorCode : SessionError := .SESSION_ERROR_UNSPECIFIED
  errorDetail : String := ""

def RpcRequest.Response : RpcRequest → Type
  | .echo _ => String
  | .createSession _ _ => CreateSessionResponse
  | .joinSession _ => JoinSessionResponse
  | .acceptPolicy _ => AcceptPolicyResponse
  | .submitInput _ => SubmitInputResponse
  | .getResult _ => ResultMessage
  | .getSessionStatus _ => GetSessionStatusResponse

-- A history of what the server did on the network.
inductive Event where
  | verified (channel : Nat) (verifier : VerifierPolicy.Verifier) (verdict : Bool)
  | connected (channel : Nat) (target : Target)
  | called (channel : Nat) (request : RpcRequest)

structure McpState where
  backendsMtimeNs : Int := 0
  backendsConfig : Option PyValue := none
  -- From backend ids to channels.
  channelCache : List (PyValue × ZtabChannel) := []
  channels : Nat := 0
  history : List Event := []

abbrev Mcp (Value : Type) := Effect McpState PyException Value

inductive FileView where
  | absent
  | inaccessible
  -- No content when it cannot be opened, read or parsed.
  | present (mtimeNs : Int) (content : Option PyValue)

def requiredFields : List String := ["backend_id", "host", "port", "verifier"]

def checkFields (python : Python) (index : Nat) (entry : PyValue) : List String → Except PyException Unit
  | [] => .ok ()
  | field :: rest => do
    if ← entry.contains (py field) then checkFields python index entry rest
    else
      let named ← entry.get "backend_id" (.int index)
      .error (.valueError (py "Backend '" ++ python.str named ++ py "' missing required field '" ++
        py field ++ py "'"))

-- The ids seen so far decide warnings only; what is left of them is that they are hashed.
def checkEntries (python : Python) : Nat → List PyValue → Except PyException Unit
  | _, [] => .ok ()
  | index, entry :: rest => do
    checkFields python index entry requiredFields
    let bid ← entry.get "backend_id"
    if bid.truthy then bid.hash
    checkEntries python (index + 1) rest

def validateBackends (python : Python) (config : PyValue) : Except PyException Unit := do
  match ← config.get "backends" with
  | .list backends =>
    checkEntries python 0 backends
    let default ← config.get "default_backend"
    if default.truthy then default.hash
  | _ => .ok ()

def loadBackendsFrom (python : Python) : Option PyValue → Except PyException (Option PyValue)
  | none => .ok none
  | some config => do
    validateBackends python config
    .ok (some config)

-- An exception leaves the config, the time stamp and the cache as they were.
def getBackends (env : AgentEnv) : FileView → Mcp (Option PyValue)
  | .absent => pure none
  | .inaccessible => throw .osError
  | .present mtimeNs content => do
    let state ← get
    if mtimeNs ≠ state.backendsMtimeNs then
      let newConfig ← Effect.ofExcept (loadBackendsFrom env.python content)
      let channelCache :=
        if state.backendsConfig.isSome ∧ newConfig.isSome then [] else state.channelCache
      modify fun state =>
        { state with channelCache, backendsConfig := newConfig, backendsMtimeNs := mtimeNs }
      pure newConfig
    else pure state.backendsConfig

def findBackend (bid : PyValue) : List PyValue → Except PyException (Option PyValue)
  | [] => .ok none
  | entry :: rest => do
    let held ← entry.get "backend_id"
    if held.eq bid then .ok (some entry) else findBackend bid rest

-- `', '.join(values)`
def joinComma : List PyValue → Except PyException PyStr
  | [] => .ok []
  | [.str text] => .ok text
  | .str text :: rest => do
    let joined ← joinComma rest
    .ok (text ++ py ", " ++ joined)
  | _ => .error .typeError

def lookupBackend (python : Python) (config : Option PyValue) (backendId : PyValue) :
    Except PyException PyValue := do
  let config := config.getD .none
  if !config.truthy then
    throw (.valueError (py ("Backend configuration is missing. Please ensure " ++
      "~/.ztab/backends.json exists or ZTAB_BACKENDS_FILE is set.")))
  let bid ← if backendId.truthy then .ok backendId else config.get "default_backend"
  if !bid.truthy then
    throw (.valueError (py "No backend_id provided and no default_backend configured."))
  let backends ← (← config.get "backends" (.list [])).iterate
  match ← findBackend bid backends with
  | some backend => .ok backend
  | none =>
    let available ← backends.mapM fun entry => entry.get "backend_id"
    let joined ← joinComma available
    throw (.valueError (py "Unknown backend '" ++ python.str bid ++ py "'. Available backends: " ++
      joined))

def getBackendInfo (env : AgentEnv) (file : FileView) (backendId : PyValue) : Mcp PyValue := do
  let config ← getBackends env file
  Effect.ofExcept (lookupBackend env.python config backendId)

def expectedDigests (backend : PyValue) : Except PyException (List PyValue) := do
  match ← backend.get "expected_digest" (.str []) with
  | .list digests => PyValue.frozenset digests
  | digest => if digest.truthy then PyValue.frozenset [digest] else .ok []

-- `expected_image_digest`, where it is set, replaces the digests above.
def overriddenDigests (backend : PyValue) (digests : List PyValue) :
    Except PyException (List PyValue) := do
  let digest ← backend.get "expected_image_digest"
  if digest.truthy then PyValue.frozenset [digest] else .ok digests

def configuredMinCs (python : Python) (backend : PyValue) : Except PyException Int := do
  let minCs ← backend.get "min_cs_version"
  if minCs.memberOf [.none, .str []] then .ok kMinCsVersionDefault else python.int minCs

def buildPolicyFromBackend (python : Python) (backend : PyValue) :
    Except PyException VerifierPolicy := do
  let verifierName ← backend.get "verifier" (.str [])
  if verifierName.eq (.str (py "noop")) then return .noop
  let digests ← expectedDigests backend
  let allowDebug ← backend.get "allow_debug_tee" (.bool false)
  let allowMemoryMonitoring ← backend.get "allow_memory_monitoring" (.bool false)
  let expectedProjectId ← backend.get "expected_project_id" (.str [])
  let expectedServiceAccount ← backend.get "expected_service_account" (.str [])
  let expectedImageDigests ← overriddenDigests backend digests
  let minCsVersion ← configuredMinCs python backend
  return .ita { expectedImageDigests, allowDebug, allowMemoryMonitoring, expectedProjectId,
                expectedServiceAccount, minCsVersion }

def backendHost (backend : PyValue) : Except PyException PyValue :=
  backend.get "host" (.str (py "localhost"))

def backendPort (python : Python) (backend : PyValue) : Except PyException Int := do
  python.int (← backend.get "port" (.int 8000))

def commonArgs (env : AgentEnv) (file : FileView) (arguments : PyValue) : Mcp Target := do
  let backendId ← Effect.ofExcept (arguments.get "backend")
  let backend ← getBackendInfo env file backendId
  let host ← Effect.ofExcept (backendHost backend)
  let port ← Effect.ofExcept (backendPort env.python backend)
  let policy ← Effect.ofExcept (buildPolicyFromBackend env.python backend)
  pure ⟨host, port, policy⟩

end Ztab
