import Mathlib.Data.List.Sort
import Ztab.Session.Rpc
import Ztab.Tee.CodeFences

set_option autoImplicit false

/-!
# The inference worker

`ProcessSessionAsync` in its three steps: the prompt is built under the lock, the
engine is asked without it, and the outcome is written under it again.
-/

namespace Ztab

-- One pass from left to right; `skip` counts the characters of a match still to be dropped.
def strReplaceAll (replacements : List (String × String)) : Nat → List Char → List Char
  | _, [] => []
  | skip + 1, _ :: rest => strReplaceAll replacements skip rest
  | 0, char :: rest =>
    match replacements.find? (fun pair => pair.1.toList.isPrefixOf (char :: rest)) with
    | some (pattern, replacement) =>
      replacement.toList ++ strReplaceAll replacements (pattern.toList.length - 1) rest
    | none => char :: strReplaceAll replacements 0 rest

def delimiter (number : Nat) (side suffix : String) : String :=
  "<<<PARTICIPANT_" ++ toString number ++ "_INPUT_" ++ side ++ "_" ++ suffix ++ ">>>\n"

def inputsBlock (suffix : String) : Nat → List String → String
  | _, [] => ""
  | number, input :: rest =>
    delimiter number "BEGIN" suffix ++ input ++ "\n" ++ delimiter number "END" suffix ++ "\n" ++
      inputsBlock suffix (number + 1) rest

namespace Session

def sortedInputs (session : Session) : List String :=
  ((FlatHashMap.values session.participants).insertionSort
    (fun left right => left.joinIndex ≤ right.joinIndex)).map (·.inputJson)

def buildPrompt (session : Session) (suffix : String) : String :=
  String.ofList (strReplaceAll
    [("\x7bnum_participants\x7d", toString session.size),
      ("\x7binputs\x7d", inputsBlock suffix 1 session.sortedInputs)]
    0 session.policyDef.promptTemplate.toList)

def outputSchema (session : Session) : String :=
  if session.policy.outputSchemaJson = "" then session.policyDef.defaultOutputSchemaJson
  else session.policy.outputSchemaJson

end Session

abbrev GenerateResult := Except Status Bytes

-- What the retry loop leaves: the calls of Generate it made, and `result_json`.
structure LlmAttempts where
  calls : Nat
  result : Except JsonException Bytes

def LlmAttempts.afterCall (rest : LlmAttempts) : LlmAttempts := { rest with calls := rest.calls + 1 }

def generateLoop (env : Environment) (outputSchema : String) (results : Nat → GenerateResult) :
    Nat → Nat → LlmAttempts
  | 0, _ => ⟨0, .ok []⟩
  | remaining + 1, attempt =>
    match results attempt with
    | .error _ => (generateLoop env outputSchema results remaining (attempt + 1)).afterCall
    | .ok text =>
      let output := stripMarkdownCodeFences text
      if outputSchema = "" then ⟨1, .ok output⟩
      else
        match validateJsonSchema env.json env.partialMatch output outputSchema with
        | .ok () => ⟨1, .ok output⟩
        | .error (.status _) =>
          (generateLoop env outputSchema results remaining (attempt + 1)).afterCall
        | .error (.raised exception) => ⟨1, .error exception⟩

-- Step 2 as a whole; without an engine the loop breaks before its first call.
def llmAttempts (env : Environment) (outputSchema : String) (results : Nat → GenerateResult) :
    LlmAttempts :=
  if env.hasEngine then generateLoop env outputSchema results kMaxLlmRetries 0 else ⟨0, .ok []⟩

def processStatus (env : Environment) (resultJson : Bytes) : Except Status Bytes :=
  if ¬ env.hasEngine then .error ⟨.internal, "No LLM engine available"⟩
  else if resultJson = [] then
    .error ⟨.internal, "LLM failed to produce valid output after " ++ toString kMaxLlmRetries ++
      " attempts"⟩
  else .ok resultJson

namespace Session

def writeOutcome (now : Int) (session : Session) : Except Status Bytes → Session
  | .ok resultJson => { session with resultJson, state := .CLOSED, stateEnteredAt := now }
  | .error status =>
    { session with
      state := .ABORTED
      errorCode := .LLM_GENERATION_FAILED
      errorDetail := status.message
      stateEnteredAt := now }

def abortSpawn (session : Session) (what : String) : Session :=
  { session with
    state := .ABORTED
    errorCode := .SESSION_ERROR_UNSPECIFIED
    errorDetail := "Failed to spawn inference thread: " ++ what }

end Session

namespace SessionManager

def releaseThread (manager : SessionManager) : SessionManager :=
  { manager with activeAsyncThreads := manager.activeAsyncThreads - 1 }

-- Step 1: the prompt and the output schema, unless the session is gone or no longer waits.
def preparePrompt (env : Environment) (manager : SessionManager) (id : String) :
    SessionManager × Option (String × String) :=
  match manager.sessions.lookup id with
  | none => (manager, none)
  | some session =>
    if session.state ≠ .CALCULATING then (manager, none)
    else
      let (suffix, manager) := manager.generateRandomHex env 8
      (manager, some (session.buildPrompt suffix, session.outputSchema))

-- Step 3: only a session that is still CALCULATING is written.
def writeResult (now : Int) (manager : SessionManager) (id : String)
    (outcome : Except Status Bytes) : SessionManager :=
  match manager.sessions.lookup id with
  | none => manager
  | some session =>
    if session.state ≠ .CALCULATING then manager
    else manager.putSession id (session.writeOutcome now outcome)

-- The handler of a failed spawn looks at nothing but the session's presence.
def handleSpawnFailure (manager : SessionManager) (id what : String) : SessionManager :=
  match manager.releaseThread.sessions.lookup id with
  | none => manager.releaseThread
  | some session => manager.releaseThread.putSession id (session.abortSpawn what)

end SessionManager

end Ztab
