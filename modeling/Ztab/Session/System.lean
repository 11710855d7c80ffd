import Mathlib.Data.List.Infix
import Ztab.Json.Reader
import Ztab.Shared.Machine
import Ztab.Session.Worker

set_option autoImplicit false

/-!
# Runs of the session manager

Every action is one lock-held body, or one unlocked stretch of a thread that
touches no shared state. A run is a list of actions in any order: a list is an
interleaving of the RPC handlers and the workers, and an action whose thread is
not at that point of its program does nothing.
-/

namespace Ztab

inductive Phase where
  | spawning
  | started
  | prompted (prompt outputSchema : String)
  | inferred (outcome : Except Status Bytes)
  | leaving
  | finished

structure Thread where
  session : String
  phase : Phase

-- One successful call of Generate, made by the worker of a session.
structure Generation where
  session : String
  prompt : String
  text : Bytes

-- History variables: no step reads them. A participant token is issued for the session
-- of the invitation that its holder got or joined with.
structure History where
  issued : List (String × String) := []
  invitations : List String := []
  generations : List Generation := []

structure System where
  manager : SessionManager := {}
  threads : List Thread := []
  -- False once an exception has escaped from a detached thread.
  alive : Bool := true
  history : History := {}

inductive Action where
  | createSession (now : Int) (request : CreateSessionRequest)
  | joinSession (now : Int) (request : JoinSessionRequest)
  | acceptPolicy (now : Int) (request : TokenRequest)
  | submitInput (now : Int) (request : SubmitInputRequest)
  | getResult (now : Int) (request : TokenRequest)
  | getSessionStatus (now : Int) (request : TokenRequest)
  | spawnSucceeds (thread : Nat)
  | spawnFails (thread : Nat) (what : String)
  | preparePrompt (thread : Nat)
  | infer (thread : Nat) (results : Nat → GenerateResult)
  | writeResult (thread : Nat) (now : Int)
  | leave (thread : Nat)

inductive Reply where
  | createSession (outcome : Outcome CreateSessionResponse)
  | joinSession (outcome : Outcome JoinSessionResponse)
  | acceptPolicy (outcome : Outcome AcceptPolicyResponse)
  | submitInput (outcome : Outcome SubmitInputResponse)
  | getResult (outcome : Outcome GetResultResponse)
  | getSessionStatus (outcome : Outcome GetSessionStatusResponse)
  | silent
  | terminated

namespace System

def setPhase (system : System) (index : Nat) (thread : Thread) (phase : Phase) : System :=
  { system with threads := system.threads.set index { thread with phase } }

def issue (system : System) (invitation token : String) : System :=
  match system.manager.invitationToSession.lookup invitation with
  | none => system
  | some id =>
    { system with history := { system.history with issued := system.history.issued ++ [(token, id)] } }

def invite (system : System) (invitation : String) : System :=
  { system with
    history := { system.history with invitations := system.history.invitations ++ [invitation] } }

def createSession (env : Environment) (now : Int) (system : System)
    (request : CreateSessionRequest) : System × Reply :=
  let (manager, outcome) := system.manager.createSession env now request
  match outcome with
  | .ok response =>
    (({ system with manager }.invite response.invitationToken).issue response.invitationToken
      response.participantToken, .createSession outcome)
  | .error _ => ({ system with manager }, .createSession outcome)

def joinSession (env : Environment) (now : Int) (system : System)
    (request : JoinSessionRequest) : System × Reply :=
  let (manager, outcome) := system.manager.joinSession env now request
  match outcome with
  | .ok response =>
    ({ system with manager }.issue request.invitationToken response.participantToken,
      .joinSession outcome)
  | .error _ => ({ system with manager }, .joinSession outcome)

-- The reply to a last submission waits for the spawn.
def submitInput (env : Environment) (now : Int) (system : System)
    (request : SubmitInputRequest) : System × Reply :=
  let (manager, outcome) := system.manager.submitInput env now request
  match outcome with
  | .ok (.answered response) => ({ system with manager }, .submitInput (.ok response))
  | .error failure => ({ system with manager }, .submitInput (.error failure))
  | .ok (.dispatched sessionId) =>
    ({ system with manager, threads := system.threads ++ [⟨sessionId, .spawning⟩] }, .silent)

def spawnSucceeds (system : System) (index : Nat) (thread : Thread) : System × Reply :=
  (system.setPhase index thread .started,
    .submitInput (.ok { state := .CALCULATING, remainingInputs := 0 }))

def spawnFails (system : System) (index : Nat) (thread : Thread) (what : String) : System × Reply :=
  ({ system with manager := system.manager.handleSpawnFailure thread.session what }.setPhase
      index thread .finished,
    .submitInput (refuse .internal "Failed to spawn LLM background thread: resource exhausted"))

def preparePrompt (env : Environment) (system : System) (index : Nat) (thread : Thread) : System :=
  let (manager, prepared) := system.manager.preparePrompt env thread.session
  match prepared with
  | none => { system with manager }.setPhase index thread .leaving
  | some (prompt, outputSchema) =>
    { system with manager }.setPhase index thread (.prompted prompt outputSchema)

def record (system : System) (session prompt : String) (calls : Nat)
    (results : Nat → GenerateResult) : System :=
  let texts := (List.range calls).filterMap fun attempt => (results attempt).toOption
  { system with
    history := { system.history with
      generations := system.history.generations ++ texts.map fun text => ⟨session, prompt, text⟩ } }

def infer (env : Environment) (system : System) (index : Nat) (thread : Thread)
    (prompt outputSchema : String) (results : Nat → GenerateResult) : System × Reply :=
  let attempts := llmAttempts env outputSchema results
  let recorded := system.record thread.session prompt attempts.calls results
  match attempts.result with
  | .ok resultJson =>
    (recorded.setPhase index thread (.inferred (processStatus env resultJson)), .silent)
  | .error _ => ({ recorded with alive := false }, .terminated)

def threadStep (env : Environment) (system : System) (index : Nat) (thread : Thread) :
    Action → System × Reply
  | .spawnSucceeds _ =>
    match thread.phase with
    | .spawning => system.spawnSucceeds index thread
    | _ => (system, .silent)
  | .spawnFails _ what =>
    match thread.phase with
    | .spawning => system.spawnFails index thread what
    | _ => (system, .silent)
  | .preparePrompt _ =>
    match thread.phase with
    | .started => (system.preparePrompt env index thread, .silent)
    | _ => (system, .silent)
  | .infer _ results =>
    match thread.phase with
    | .prompted prompt outputSchema => system.infer env index thread prompt outputSchema results
    | _ => (system, .silent)
  | .writeResult _ now =>
    match thread.phase with
    | .inferred outcome =>
      ({ system with manager := system.manager.writeResult now thread.session outcome }.setPhase
        index thread .leaving, .silent)
    | _ => (system, .silent)
  -- The destructor of the ThreadGuard takes the lock once more.
  | .leave _ =>
    match thread.phase with
    | .leaving =>
      ({ system with manager := system.manager.releaseThread }.setPhase index thread .finished,
        .silent)
    | _ => (system, .silent)
  | _ => (system, .silent)

def onThread (env : Environment) (system : System) (index : Nat) (action : Action) : System × Reply :=
  match system.threads[index]? with
  | none => (system, .silent)
  | some thread => system.threadStep env index thread action

def perform (env : Environment) (system : System) (action : Action) : System × Reply :=
  match action with
  | .createSession now request => system.createSession env now request
  | .joinSession now request => system.joinSession env now request
  | .acceptPolicy now request =>
    let (manager, outcome) := system.manager.acceptPolicy env now request
    ({ system with manager }, .acceptPolicy outcome)
  | .submitInput now request => system.submitInput env now request
  | .getResult now request =>
    let (manager, outcome) := system.manager.getResult env now request
    ({ system with manager }, .getResult outcome)
  | .getSessionStatus now request =>
    let (manager, outcome) := system.manager.getSessionStatus env now request
    ({ system with manager }, .getSessionStatus outcome)
  | .spawnSucceeds index | .spawnFails index _ | .preparePrompt index | .infer index _
  | .writeResult index _ | .leave index => system.onThread env index action

def step (env : Environment) (system : System) (action : Action) : System × Reply :=
  if system.alive then system.perform env action else (system, .terminated)

end System

def machine (env : Environment) : Machine System Action Reply where
  initial := {}
  step := System.step env

-- GenerateRandomHex as a counter in unary.
def countingHex (call _ : Nat) : String := String.ofList (List.replicate (call + 1) 'a')

-- A pattern without operators matches as a substring.
def countingEnv (registry : PolicyRegistry) : Environment where
  registry := registry
  json := Reader.library (fun _ => "0.0")
  partialMatch text pattern := decide (pattern.toList <:+: text.toList)
  formatDuration elapsed := toString elapsed ++ "ns"
  randomHex := countingHex

theorem countingEnv_neverRepeats (registry : PolicyRegistry) :
    (countingEnv registry).NeverRepeats := by
  intro call other _ _ same
  have lengths := congrArg (fun text => text.toList.length) same
  simp only [countingEnv, countingHex, String.toList_ofList, List.length_replicate] at lengths
  omega

def calendarPolicy : PolicyDefinition where
  promptTemplate := "\x7bnum_participants\x7d calendars:\n\x7binputs\x7d"
  defaultOutputSchemaJson := "\x7b\"type\": \"object\"\x7d"

def calendarEnv : Environment := countingEnv (AList.insert "calendar" calendarPolicy ∅)

-- Two participants, from the invitation to both inputs; "aa" and "aaaa" are their tokens.
def calendarSubmissions : List Action :=
  [.createSession 0 { policy := { policyClass := "calendar", expectedParticipants := 2 } },
    .joinSession 0 { invitationToken := "aaa" },
    .acceptPolicy 0 ⟨"aaaa"⟩,
    .submitInput 0 ⟨"aa", "[1]"⟩,
    .submitInput 0 ⟨"aaaa", "[2]"⟩]

-- The worker's part, with one answer of the engine to every call.
def calendarInference (answer : String) : List Action :=
  [.spawnSucceeds 0, .preparePrompt 0, .infer 0 (fun _ => .ok (utf8 answer)), .writeResult 0 0]

end Ztab
