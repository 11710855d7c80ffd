import Ztab.Shared.FlatHashMap
import Ztab.Tee.ValidateNode

set_option autoImplicit false

namespace Ztab

-- The manager never stores SESSION_STATE_UNSPECIFIED, the wire default.
inductive SessionState where
  | OPEN
  | SEALED
  | CALCULATING
  | CLOSED
  | ABORTED
  deriving DecidableEq, Repr

def SessionState.name : SessionState → String
  | .OPEN => "OPEN"
  | .SEALED => "SEALED"
  | .CALCULATING => "CALCULATING"
  | .CLOSED => "CLOSED"
  | .ABORTED => "ABORTED"

def SessionState.Terminal (state : SessionState) : Prop := state = .CLOSED ∨ state = .ABORTED

instance (state : SessionState) : Decidable state.Terminal :=
  inferInstanceAs (Decidable (state = .CLOSED ∨ state = .ABORTED))

inductive SessionError where
  | SESSION_ERROR_UNSPECIFIED
  | SESSION_NOT_FOUND
  | SESSION_FULL
  | SESSION_SEALED
  | INPUT_SCHEMA_VIOLATION
  | JOIN_TIMEOUT
  | INPUT_TIMEOUT
  | LLM_GENERATION_FAILED
  | OUTPUT_LEAKAGE_DETECTED
  | OUTPUT_SCHEMA_VIOLATION
  | RESOURCE_EXHAUSTED
  | INVALID_PARTICIPANT_TOKEN
  deriving DecidableEq, Repr

structure SessionPolicy where
  policyClass : String := ""
  inputSchemaJson : String := ""
  outputSchemaJson : String := ""
  expectedParticipants : Int := 0
  timeoutSeconds : Int := 0
  sdpSignature : String := ""
  signatureKeyId : String := ""
  deriving DecidableEq, Repr

structure PolicyDefinition where
  promptTemplate : String
  defaultInputSchemaJson : String := ""
  defaultOutputSchemaJson : String := ""
  deriving DecidableEq, Repr

abbrev PolicyRegistry := FlatHashMap String PolicyDefinition

namespace PolicyRegistry

def available (registry : PolicyRegistry) : String :=
  registry.keys.foldl (fun names name => (if names = "" then "" else names ++ ", ") ++ name) ""

def getPolicy (registry : PolicyRegistry) (policyClass : String) : Except Status PolicyDefinition :=
  match registry.lookup policyClass with
  | some definition => .ok definition
  | none =>
    .error ⟨.notFound, "Unknown policy class: '" ++ policyClass ++ "'. Available: " ++
      (if registry.available = "" then "(none)" else registry.available)⟩

end PolicyRegistry

structure Participant where
  token : String
  accepted : Bool := false
  inputJson : String := ""
  inputSubmitted : Bool := false
  joinIndex : Nat := 0
  deriving DecidableEq, Repr

-- Times and durations count nanoseconds. The definition is a copy of the registry
-- entry the source points to: the registry is not changed after start-up.
structure Session where
  id : String
  state : SessionState := .OPEN
  policy : SessionPolicy
  policyDef : PolicyDefinition
  participants : FlatHashMap String Participant := ∅
  resultJson : Bytes := []
  errorCode : SessionError := .SESSION_ERROR_UNSPECIFIED
  errorDetail : String := ""
  stateEnteredAt : Int
  timeout : Int
  invitationToken : String
  participantTokens : List String := []
  nonceToToken : FlatHashMap String String := ∅
  creatorNonce : String := ""

namespace Session

def size (session : Session) : Nat := FlatHashMap.size session.participants

def acceptedCount (session : Session) : Nat :=
  (FlatHashMap.values session.participants).countP (·.accepted)

def submittedCount (session : Session) : Nat :=
  (FlatHashMap.values session.participants).countP (·.inputSubmitted)

def allAccepted (session : Session) : Bool :=
  (FlatHashMap.values session.participants).all (·.accepted)

end Session

structure Options where
  terminalRetentionSeconds : Int := 3600
  maxCalculatingSeconds : Int := 1800
  maxSessions : Int := 1000

-- What the manager is built on. The value of the n-th call of GenerateRandomHex
-- depends on n and on the number of bytes asked for.
structure Environment where
  registry : PolicyRegistry
  options : Options := {}
  hasEngine : Bool := true
  json : Nlohmann
  partialMatch : PartialMatch
  formatDuration : Int → String
  randomHex : Nat → Nat → String

/-- GenerateRandomHex never repeats a value. -/
def Environment.NeverRepeats (env : Environment) : Prop :=
  ∀ call other bytes otherBytes,
    env.randomHex call bytes = env.randomHex other otherBytes → call = other

structure SessionManager where
  sessions : FlatHashMap String Session := ∅
  invitationToSession : FlatHashMap String String := ∅
  participantToSession : FlatHashMap String String := ∅
  creatorNonceToSession : FlatHashMap String String := ∅
  activeAsyncThreads : Int := 0
  -- Calls of GenerateRandomHex made so far.
  draws : Nat := 0

def kSessionIdBytes : Nat := 16
def kParticipantTokenBytes : Nat := 32
def kDefaultTimeoutSeconds : Int := 300
def kMaxLlmRetries : Nat := 3
def kMaxParticipants : Int := 100
def kMaxTimeoutSeconds : Int := 86400
def kMaxInputBytes : Nat := 65536
def kMaxSealedSeconds : Int := 600
def kMaxOpenSeconds : Int := 600

def seconds (count : Int) : Int := count * 1000000000

def isHexDigit (char : Char) : Bool :=
  ('0' ≤ char && char ≤ '9') || ('a' ≤ char && char ≤ 'f') || ('A' ≤ char && char ≤ 'F')

def matchesClasses : List (Char → Bool) → List Char → Bool
  | [], [] => true
  | accepts :: classes, char :: rest => accepts char && matchesClasses classes rest
  | _, _ => false

def uuidV4Classes : List (Char → Bool) :=
  let hex (count : Nat) := List.replicate count isHexDigit
  let one (chars : List Char) : List (Char → Bool) := [fun char => chars.contains char]
  hex 8 ++ one ['-'] ++ hex 4 ++ one ['-'] ++ one ['4'] ++ hex 3 ++ one ['-'] ++
    one ['8', '9', 'a', 'b', 'A', 'B'] ++ hex 3 ++ one ['-'] ++ hex 12

def isValidUuidV4 (text : String) : Bool := matchesClasses uuidV4Classes text.toList

example : isValidUuidV4 "a0eebc99-9c0b-4ef8-bb6d-6bb9bd380a11" = true := by decide

example : isValidUuidV4 "a0eebc99-9c0b-1ef8-bb6d-6bb9bd380a11" = false := by decide

end Ztab
