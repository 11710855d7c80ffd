import Ztab.Audit.CrossSandbox
import Ztab.Shared.Frontier
import Ztab.Shared.Machine

set_option autoImplicit false

/-!
# The log of an agent's steps

The monitor asks the Language Server again and again for the steps that an agent has taken since
the last time and writes them to `thoughts.jsonl`, a line for each; the audit reads the file when
the agents are done. The steps that are running may still change, requests fail, and an exception
between two lines leaves the lines in the file and the monitor where it was.
-/

namespace Ztab.Audit

open Frontier (front blocked)

-- The enum names of the JSON API with their numbers, and the names shown.
def STATUS_STR_TO_INT : List (String × Int) :=
  [("CASCADE_RUN_STATUS_UNSPECIFIED", 0), ("CASCADE_RUN_STATUS_IDLE", 1),
    ("CASCADE_RUN_STATUS_RUNNING", 2), ("CASCADE_RUN_STATUS_WAITING_FOR_USER", 3),
    ("CASCADE_RUN_STATUS_EXECUTING_TOOL", 4), ("CASCADE_RUN_STATUS_SUBMITTING_CODE_REVIEW", 5),
    ("CASCADE_RUN_STATUS_CANCELING", 6), ("CASCADE_RUN_STATUS_BUSY", 7)]

def STATUS_NAMES : List (Int × String) :=
  [(0, "UNSPECIFIED"), (1, "IDLE"), (2, "GENERATING"), (3, "WAITING_FOR_USER"),
    (4, "EXECUTING_TOOL"), (5, "SUBMITTING_CODE_REVIEW"), (6, "CANCELING"), (7, "BUSY")]

structure AgentStatus where
  status : PyValue
  statusName : PyStr
  numSteps : PyValue
  error : Option PyStr

def statusOf : PyValue → PyValue
  | .str raw =>
    match STATUS_STR_TO_INT.find? fun entry => py entry.1 = raw with
    | some entry => .int entry.2
    | none => .int 0
  | other => other

-- `STATUS_NAMES.get(status, f"UNKNOWN({status})")`
def statusNameOf (python : Python) (status : PyValue) : Except PyException PyStr := do
  status.hash
  match STATUS_NAMES.find? fun entry => (PyValue.int entry.1).same status with
  | some entry => return py entry.2
  | none => return py "UNKNOWN(" ++ python.str status ++ py ")"

def readAgentStatus (python : Python) (resp : PyValue) : Except PyException AgentStatus := do
  let raw ← resp.get "status" (.int 0)
  let status := statusOf raw
  let older ← resp.get "num_total_steps" (.int 0)
  let numSteps ← resp.get "numTotalSteps" older
  let statusName ← statusNameOf python status
  return ⟨status, statusName, numSteps, none⟩

def getAgentStatus (python : Python) (answer : Except PyException PyValue) : AgentStatus :=
  match answer >>= readAgentStatus python with
  | .ok info => info
  | .error raised => ⟨.int (-1), py "ERROR", .int 0, some (python.describe raised)⟩

-- None on error
def getAgentLastStep : Except PyException PyValue → PyValue
  | .ok resp => resp
  | .error _ => .none

-- `value[0]` of a value that is not empty
def firstItem : PyValue → Except PyException PyValue
  | .list (element :: _) => .ok element
  | .str (point :: _) => .ok (.str [point])
  | .dict _ => .error .keyError
  | _ => .error .typeError

-- `value[:count]`
def sliceTo (count : Nat) : PyValue → Except PyException PyValue
  | .list elements => .ok (.list (elements.take count))
  | .str text => .ok (.str (text.take count))
  | _ => .error .typeError

-- `step.get(container, {}).get(field, "")`
def fieldText (step : PyValue) (container field : String) : Except PyException PyValue := do
  let held ← step.get container (.dict [])
  held.get field (.str [])

def userInputText (step : PyValue) : Except PyException PyValue := do
  let ui ← step.get "userInput" (.dict [])
  let text ← ui.get "userResponse" (.str [])
  if text.truthy then return text
  else
    let items ← ui.get "items" (.list [])
    if items.truthy then
      match ← firstItem items with
      | .dict entries => (PyValue.dict entries).get "text" (.str [])
      | _ => return text
    else return text

def mcpToolText (python : Python) (step : PyValue) : Except PyException PyValue := do
  let mt ← step.get "mcpTool" (.dict [])
  let tc ← mt.get "toolCall" (.dict [])
  let name ← tc.get "name" (.str (py "unknown"))
  let args ← tc.get "argumentsJson" (.str [])
  let result ← mt.get "resultString" (.str [])
  let text := py "Tool: " ++ python.str name
  let text := if args.truthy then text ++ py "\nArgs: " ++ python.str args else text
  if result.truthy then
    let shown ← sliceTo 200 result
    return .str (text ++ py "\nResult: " ++ python.str shown)
  else return .str text

def runCommandText (python : Python) (step : PyValue) : Except PyException PyValue := do
  let rc ← step.get "runCommand" (.dict [])
  let cmd ← rc.get "commandLine" (.str [])
  let exitCode ← rc.get "exitCode" (.str (py "?"))
  return .str (py "$ " ++ python.str cmd ++ py "  (exit=" ++ python.str exitCode ++ py ")")

def viewFileText (python : Python) (step : PyValue) : Except PyException PyValue := do
  let vf ← step.get "viewFile" (.dict [])
  let path ← vf.get "absolutePathUri" (.str (py "?"))
  return .str (py "File: " ++ python.str path)

def errorMessageText (python : Python) (step : PyValue) : Except PyException PyValue := do
  let em ← step.get "errorMessage" (.dict [])
  match ← em.get "error" (.dict []) with
  | .dict entries =>
    let shown ← (PyValue.dict entries).get "userErrorMessage" (.str [])
    (PyValue.dict entries).get "shortError" shown
  | err => return .str (python.str err)

def grepSearchText (python : Python) (step : PyValue) : Except PyException PyValue := do
  let gs ← step.get "grepSearch" (.dict [])
  let query ← gs.get "query" (.str [])
  let path ← gs.get "searchPathUri" (.str [])
  return .str (py "grep '" ++ python.str query ++ py "' in " ++ python.str path)

-- The fallback shows the keys that were missed.
def unhandledText (python : Python) (step : PyValue) : Except PyException PyValue := do
  let keys ← step.iterate
  let missed := keys.filter fun key =>
    !key.memberOf [.str (py "type"), .str (py "status"), .str (py "metadata")]
  return .str (py "[unhandled] keys=" ++ python.str (.list missed))

def extractStepText (python : Python) (step : PyValue) : Except PyException PyValue := do
  let stepType ← step.get "type" (.str [])
  if isStep stepType "CORTEX_STEP_TYPE_USER_INPUT" then userInputText step
  else if isStep stepType "CORTEX_STEP_TYPE_PLANNER_RESPONSE" then
    fieldText step "plannerResponse" "thinking"
  else if isStep stepType "CORTEX_STEP_TYPE_MCP_TOOL" then mcpToolText python step
  else if isStep stepType "CORTEX_STEP_TYPE_RUN_COMMAND" then runCommandText python step
  else if isStep stepType "CORTEX_STEP_TYPE_VIEW_FILE" then viewFileText python step
  else if isStep stepType "CORTEX_STEP_TYPE_ERROR_MESSAGE" then errorMessageText python step
  else if isStep stepType "CORTEX_STEP_TYPE_CODE_ACTION" then fieldText step "codeAction" "description"
  else if isStep stepType "CORTEX_STEP_TYPE_SYSTEM_MESSAGE" then
    fieldText step "systemMessage" "message"
  else if isStep stepType "CORTEX_STEP_TYPE_GREP_SEARCH" then grepSearchText python step
  else if isStep stepType "CORTEX_STEP_TYPE_GENERIC" then fieldText step "taskDetails" "description"
  else if isStep stepType "CORTEX_STEP_TYPE_CHECKPOINT" ||
      isStep stepType "CORTEX_STEP_TYPE_CONVERSATION_HISTORY" then
    return .str []
  else unhandledText python step

-- What it prints goes to stderr; it raises when the content is there and has no `split`.
def formatAndPrintStep (python : Python) (step : PyValue) : Except PyException Unit := do
  let _ ← step.get "type" (.str (py "unknown"))
  let content ← extractStepText python step
  if content.truthy then
    match content with
    | .str _ => return ()
    | _ => .error .attributeError
  else return ()

-- `value > bound`
def exceeds (value : PyValue) (bound : Nat) : Except PyException Bool :=
  match value.ratio with
  | some (p, q) => .ok (decide ((bound : Int) * q < p))
  | none =>
    match value with
    | .float (.infinite negative) => .ok !negative
    | .float .nan => .ok false
    | _ => .error .typeError

def isRunning (status : PyValue) : Bool := status.eq (.str (py "CORTEX_STEP_STATUS_RUNNING"))

def newline : CodePoint := PyJson.code 10

-- The loop over the steps; the state is the log file, which every pass opens to append.
def streamSteps (python : Python) : List PyValue → Nat → Effect PyStr PyException Nat
  | [], lastSeenStep => return lastSeenStep
  | step :: rest, lastSeenStep => do
    let status ← Effect.ofExcept (step.get "status")
    -- Wait for in-flight tool steps to complete before recording and advancing.
    if isRunning status then return lastSeenStep
    else
      Effect.ofExcept (formatAndPrintStep python step)
      let line ← Effect.ofExcept (PyJson.dumps python step)
      modify (· ++ (line ++ [newline]))
      streamSteps python rest (lastSeenStep + 1)

def streamAgentThoughts (python : Python) (statusAnswer stepsAnswer : Except PyException PyValue)
    (lastSeenStep : Nat) : Effect PyStr PyException (Nat × AgentStatus) := do
  let info := getAgentStatus python statusAnswer
  let more ← Effect.ofExcept (exceeds info.numSteps lastSeenStep)
  if more then
    let stepsResp := getAgentLastStep stepsAnswer
    if stepsResp.truthy then
      let listed ← Effect.ofExcept (stepsResp.get "steps" (.list []))
      let steps ← Effect.ofExcept listed.iterate
      let newStep ← streamSteps python steps lastSeenStep
      return (newStep, info)
    else return (lastSeenStep, info)
  else return (lastSeenStep, info)

-- How text files are read: "\r\n" and "\r" become "\n".
def translateNewlines : Bool → PyStr → PyStr
  | _, [] => []
  | afterReturn, point :: rest =>
    if point.val = 13 then newline :: translateNewlines true rest
    else if afterReturn && point.val = 10 then translateNewlines false rest
    else point :: translateNewlines false rest

-- `for line in f`
def fileLines : PyStr → PyStr → List PyStr
  | line, [] => if line.isEmpty then [] else [line]
  | line, point :: rest =>
    if point.val = 10 then (line ++ [point]) :: fileLines [] rest
    else fileLines (line ++ [point]) rest

-- `line.strip()`
def strip (python : Python) (line : PyStr) : PyStr :=
  (line.dropWhile (isWhite python)).rdropWhile (isWhite python)

def loadTrajectory (python : Python) (file : PyStr) : List PyValue :=
  (fileLines [] (translateNewlines false file)).filterMap fun line =>
    let line := strip python line
    if line.isEmpty then none else python.loads line

structure Recording where
  -- The steps as the Language Server holds them.
  trajectory : List PyValue
  -- `agent["last_step"]` and what `agent["log_file"]` holds.
  lastStep : Nat
  log : PyStr

inductive RecordingAction where
  | stepsTaken (more : List PyValue)
  | stepChanged (index : Nat) (step : PyValue)
  | poll (statusAnswer stepsAnswer : Except PyException PyValue)

-- The monitor catches what the poll raises and tries again the next time.
def Recording.poll (python : Python) (state : Recording)
    (statusAnswer stepsAnswer : Except PyException PyValue) : Recording :=
  match (streamAgentThoughts python statusAnswer stepsAnswer state.lastStep).exec state.log with
  | (.ok (newStep, _), log) => { state with lastStep := newStep, log := log }
  | (.error _, log) => { state with log := log }

def recordingMachine (python : Python) : Machine Recording RecordingAction Unit where
  initial := ⟨[], 0, []⟩
  step state action :=
    match action with
    | .stepsTaken more => ({ state with trajectory := state.trajectory ++ more }, ())
    | .stepChanged index step => ({ state with trajectory := state.trajectory.set index step }, ())
    | .poll statusAnswer stepsAnswer => (state.poll python statusAnswer stepsAnswer, ())

def running (step : PyValue) : Bool :=
  match step.get "status" with
  | .ok status => isRunning status
  | .error _ => false

/-- Only steps that run are changed, and an answer has steps from the offset on, none left out. -/
def Truthful (state : Recording) : RecordingAction → Prop
  | .stepsTaken _ => True
  | .stepChanged index _ => ∀ old, state.trajectory[index]? = some old → running old = true
  | .poll _ (.error _) => True
  | .poll _ (.ok resp) => ∃ page, resp.get "steps" (.list []) = .ok (.list page) ∧
      page <+: state.trajectory.drop state.lastStep

-- The line that is written for a step; a step that runs or that something raises on has none.
def lineOf (python : Python) (step : PyValue) : Option PyStr :=
  match step.get "status", formatAndPrintStep python step, PyJson.dumps python step with
  | .ok status, .ok _, .ok line => if isRunning status then none else some line
  | _, _, _ => none

def recordable (python : Python) (step : PyValue) : Bool := (lineOf python step).isSome

def logOf (python : Python) (steps : List PyValue) : PyStr :=
  steps.flatMap fun step =>
    match lineOf python step with
    | some line => line ++ [newline]
    | none => []

section Polls

variable {python : Python}

theorem lineOf_eq_some {step : PyValue} {line : PyStr} :
    lineOf python step = some line ↔
      ∃ status, step.get "status" = .ok status ∧ isRunning status = false ∧
        formatAndPrintStep python step = .ok () ∧ PyJson.dumps python step = .ok line := by
  unfold lineOf
  split
  next status printed line' found formatted dumped =>
    cases runs : isRunning status <;> simp [runs, found, formatted, dumped]
  next none =>
    simp only [reduceCtorEq, false_iff]
    rintro ⟨status, found, -, formatted, dumped⟩
    exact none status () line found formatted dumped

theorem settled_of_recordable (step : PyValue) (ready : recordable python step = true) :
    running step = false := by
  obtain ⟨line, shown⟩ := Option.isSome_iff_exists.mp ready
  obtain ⟨status, found, runs, -⟩ := lineOf_eq_some.mp shown
  rw [running, found]
  exact runs

theorem logOf_cons {step : PyValue} {line : PyStr} (shown : lineOf python step = some line)
    (rest : List PyValue) :
    logOf python (step :: rest) = line ++ [newline] ++ logOf python rest := by
  simp [logOf, shown]

theorem logOf_append (first second : List PyValue) :
    logOf python (first ++ second) = logOf python first ++ logOf python second :=
  List.flatMap_append

-- A step without a line ends the loop, by `break` if it runs and by an exception if not.
theorem streamSteps_stops {step : PyValue} (hidden : lineOf python step = none) (rest : List PyValue)
    (lastSeenStep : Nat) (log : PyStr) :
    ∃ ending, (streamSteps python (step :: rest) lastSeenStep).exec log = (ending, log) ∧
      (running step = true → ending = .ok lastSeenStep) ∧
      (running step = false → ∃ raised, ending = .error raised) := by
  rw [streamSteps, Effect.exec_bind, Effect.exec_ofExcept, running]
  cases found : step.get "status" with
  | error raised => exact ⟨.error raised, rfl, by simp, by simp⟩
  | ok status =>
    cases runs : isRunning status with
    | true => exact ⟨.ok lastSeenStep, by simp [runs]; rfl, by simp, by simp [runs]⟩
    | false =>
      simp only [runs, Bool.false_eq_true, if_false, Effect.exec_bind, Effect.exec_ofExcept]
      cases formatted : formatAndPrintStep python step with
      | error raised => exact ⟨.error raised, rfl, by simp, by simp⟩
      | ok printed =>
        cases dumped : PyJson.dumps python step with
        | error raised => exact ⟨.error raised, rfl, by simp, by simp⟩
        | ok line =>
          rw [lineOf_eq_some.mpr ⟨status, found, runs, formatted, dumped⟩] at hidden
          cases hidden

theorem streamSteps_writes {step : PyValue} {line : PyStr} (shown : lineOf python step = some line)
    (rest : List PyValue) (lastSeenStep : Nat) (log : PyStr) :
    (streamSteps python (step :: rest) lastSeenStep).exec log =
      (streamSteps python rest (lastSeenStep + 1)).exec (log ++ (line ++ [newline])) := by
  obtain ⟨status, found, runs, formatted, dumped⟩ := lineOf_eq_some.mp shown
  rw [streamSteps]
  simp only [Effect.exec_bind, Effect.exec_ofExcept, found, runs, Bool.false_eq_true, if_false,
    formatted, dumped, Effect.exec_modify]

theorem exec_streamSteps (python : Python) (page : List PyValue) (lastSeenStep : Nat) (log : PyStr) :
    ∃ ending, (streamSteps python page lastSeenStep).exec log =
        (ending, log ++ logOf python (front (recordable python) page)) ∧
      (blocked (recordable python) running page = false →
        ending = .ok (lastSeenStep + (front (recordable python) page).length)) ∧
      (blocked (recordable python) running page = true → ∃ raised, ending = .error raised) := by
  induction page generalizing lastSeenStep log with
  | nil =>
    refine ⟨.ok lastSeenStep, ?_, fun _ => rfl, fun stopped => by cases stopped⟩
    simp only [front, List.takeWhile_nil, logOf, List.flatMap_nil, List.append_nil]
    rfl
  | cons step rest ih =>
    cases shown : lineOf python step with
    | none =>
      obtain ⟨ending, executed, breaks, raises⟩ := streamSteps_stops shown rest lastSeenStep log
      have stops : recordable python step = false := by simp [recordable, shown]
      refine ⟨ending, by simpa [front, stops, logOf] using executed, ?_, ?_⟩
      · simpa [front, blocked, stops] using breaks
      · simpa [front, blocked, stops] using raises
    | some line =>
      obtain ⟨ending, executed, ends, raises⟩ := ih (lastSeenStep + 1) (log ++ (line ++ [newline]))
      have goesOn : recordable python step = true := by simp [recordable, shown]
      refine ⟨ending, ?_, ?_, ?_⟩
      · rw [streamSteps_writes shown, executed]
        simp [front, goesOn, logOf_cons shown]
      · simpa [front, blocked, goesOn, Nat.add_assoc, Nat.add_comm 1] using ends
      · simpa [blocked, goesOn] using raises

structure Writes (python : Python) (state after : Recording) (written : List PyValue) : Prop where
  trajectory : after.trajectory = state.trajectory
  log : after.log = state.log ++ logOf python written
  part : written <+: (front (recordable python) state.trajectory).drop state.lastStep
  advances : after.lastStep = state.lastStep + written.length ∨
    after.lastStep = state.lastStep ∧ blocked (recordable python) running state.trajectory = true

theorem writes_nothing {state after : Recording} (same : after = state) :
    Writes python state after [] := by
  subst same
  exact ⟨rfl, by simp [logOf], List.nil_prefix, .inl rfl⟩

variable {state : Recording} {statusAnswer stepsAnswer : Except PyException PyValue}

theorem exec_streamAgentThoughts {resp : PyValue} {page : List PyValue}
    (more : exceeds (getAgentStatus python statusAnswer).numSteps state.lastStep = .ok true)
    (full : resp.truthy = true) (listed : resp.get "steps" (.list []) = .ok (.list page)) :
    (streamAgentThoughts python statusAnswer (.ok resp) state.lastStep).exec state.log =
      ((streamSteps python page state.lastStep >>= fun newStep =>
        pure (newStep, getAgentStatus python statusAnswer) :
          Effect PyStr PyException (Nat × AgentStatus)).exec state.log) := by
  rw [streamAgentThoughts]
  simp only [Effect.exec_bind, Effect.exec_ofExcept, more, getAgentLastStep, full, if_true, listed,
    PyValue.iterate]

theorem poll_writes_page {resp : PyValue} {page : List PyValue}
    (within : state.lastStep ≤ (front (recordable python) state.trajectory).length)
    (more : exceeds (getAgentStatus python statusAnswer).numSteps state.lastStep = .ok true)
    (full : resp.truthy = true) (listed : resp.get "steps" (.list []) = .ok (.list page))
    (part : page <+: state.trajectory.drop state.lastStep) :
    Writes python state (state.poll python statusAnswer (.ok resp))
      (front (recordable python) page) := by
  obtain ⟨grown, stays⟩ := Frontier.page_front running within part
  obtain ⟨ending, executed, ends, raises⟩ := exec_streamSteps python page state.lastStep state.log
  rw [Recording.poll, exec_streamAgentThoughts more full listed, Effect.exec_bind, executed]
  cases stopped : blocked (recordable python) running page with
  | false =>
    rw [ends stopped]
    exact ⟨rfl, rfl, grown, .inl rfl⟩
  | true =>
    obtain ⟨raised, rfl⟩ := raises stopped
    exact ⟨rfl, rfl, grown, .inr ⟨rfl, (stays stopped).2⟩⟩

theorem poll_writes (within : state.lastStep ≤ (front (recordable python) state.trajectory).length)
    (truthful : Truthful state (.poll statusAnswer stepsAnswer)) :
    ∃ written, Writes python state (state.poll python statusAnswer stepsAnswer) written := by
  cases more : exceeds (getAgentStatus python statusAnswer).numSteps state.lastStep with
  | error raised =>
    refine ⟨[], writes_nothing ?_⟩
    rw [Recording.poll, streamAgentThoughts, Effect.exec_bind, Effect.exec_ofExcept, more]
  | ok counted =>
    cases counted with
    | false =>
      refine ⟨[], writes_nothing ?_⟩
      rw [Recording.poll, streamAgentThoughts, Effect.exec_bind, Effect.exec_ofExcept, more]
      rfl
    | true =>
      cases full : (getAgentLastStep stepsAnswer).truthy with
      | false =>
        refine ⟨[], writes_nothing ?_⟩
        rw [Recording.poll, streamAgentThoughts, Effect.exec_bind, Effect.exec_ofExcept, more]
        simp only [full, if_true]
        rfl
      | true =>
        cases stepsAnswer with
        | error raised => cases full
        | ok resp =>
          obtain ⟨page, listed, part⟩ := truthful
          exact ⟨_, poll_writes_page within more full listed part⟩

structure Complete (python : Python) (state : Recording)
    (statusAnswer stepsAnswer : Except PyException PyValue) : Prop where
  counted : exceeds (getAgentStatus python statusAnswer).numSteps state.lastStep =
    .ok (decide (state.lastStep < state.trajectory.length))
  listed : ∃ resp, stepsAnswer = .ok resp ∧
    resp.get "steps" (.list []) = .ok (.list (state.trajectory.drop state.lastStep))

theorem truthy_of_listed {resp : PyValue} {page : List PyValue}
    (listed : resp.get "steps" (.list []) = .ok (.list page)) (some : page ≠ []) :
    resp.truthy = true := by
  cases resp with
  | dict entries =>
    cases entries with
    | nil =>
      cases listed
      exact (some rfl).elim
    | cons entry rest => rfl
  | _ => cases listed

theorem poll_writes_all (within : state.lastStep ≤ (front (recordable python) state.trajectory).length)
    (complete : Complete python state statusAnswer stepsAnswer) :
    Writes python state (state.poll python statusAnswer stepsAnswer)
      ((front (recordable python) state.trajectory).drop state.lastStep) := by
  obtain ⟨resp, rfl, listed⟩ := complete.listed
  have counted := complete.counted
  by_cases more : state.lastStep < state.trajectory.length
  · rw [decide_eq_true more] at counted
    have full : resp.truthy = true := by
      refine truthy_of_listed listed ?_
      rw [ne_eq, List.drop_eq_nil_iff]
      omega
    have writes := poll_writes_page within counted full listed (List.prefix_refl _)
    rwa [(Frontier.drop_front (recordable python) running within).1] at writes
  · have ended : (front (recordable python) state.trajectory).drop state.lastStep = [] := by
      have shorter := (List.takeWhile_prefix (l := state.trajectory) (recordable python)).length_le
      rw [List.drop_eq_nil_iff]
      exact shorter.trans (Nat.le_of_not_lt more)
    rw [ended, Recording.poll, streamAgentThoughts, Effect.exec_bind, Effect.exec_ofExcept, counted,
      decide_eq_false more]
    exact writes_nothing rfl

end Polls

/--
The log against the trajectory: nothing is missing up to the place of the monitor, and unless an
exception stopped it nothing stands there twice.
-/
structure Follows (python : Python) (state : Recording) (logged : List PyValue) : Prop where
  written : state.log = logOf python logged
  within : state.lastStep ≤ (front (recordable python) state.trajectory).length
  covered : ((front (recordable python) state.trajectory).take state.lastStep).Sublist logged
  origin : ∀ step ∈ logged, step ∈ front (recordable python) state.trajectory
  exact : blocked (recordable python) running state.trajectory = false →
    logged = (front (recordable python) state.trajectory).take state.lastStep

section Runs

variable {python : Python} {state after : Recording} {logged written : List PyValue}

theorem take_append_part {entries part : List PyValue} {count : Nat}
    (shown : part <+: entries.drop count) :
    entries.take count ++ part = entries.take (count + part.length) := by
  rw [List.take_add, ← List.prefix_iff_eq_take.mp shown]

theorem Follows.writes (follows : Follows python state logged)
    (writes : Writes python state after written) : Follows python after (logged ++ written) := by
  have joined := take_append_part writes.part
  have longer : state.lastStep + written.length ≤
      (front (recordable python) state.trajectory).length := by
    have room := writes.part.length_le
    rw [List.length_drop] at room
    have within := follows.within
    omega
  constructor
  case written => rw [writes.log, follows.written, logOf_append]
  case within =>
    rw [writes.trajectory]
    rcases writes.advances with moved | ⟨stayed, -⟩
    · rwa [moved]
    · rw [stayed]
      exact follows.within
  case covered =>
    rw [writes.trajectory]
    rcases writes.advances with moved | ⟨stayed, -⟩
    · rw [moved, ← joined]
      exact follows.covered.append (List.Sublist.refl written)
    · rw [stayed]
      exact follows.covered.trans (List.sublist_append_left logged written)
  case origin =>
    rw [writes.trajectory]
    intro step listed
    rcases List.mem_append.mp listed with earlier | now
    · exact follows.origin step earlier
    · exact List.mem_of_mem_drop (writes.part.subset now)
  case exact =>
    rw [writes.trajectory]
    intro free
    rcases writes.advances with moved | ⟨-, stuck⟩
    · rw [moved, ← joined, ← follows.exact free]
    · rw [stuck] at free
      cases free

theorem Follows.grows (follows : Follows python state logged) {trajectory : List PyValue}
    (grows : Frontier.Grows running state.trajectory trajectory) :
    Follows python { state with trajectory := trajectory } logged := by
  obtain ⟨longer, stays⟩ := grows.front settled_of_recordable
  obtain ⟨more, whole⟩ := longer
  have same : (front (recordable python) trajectory).take state.lastStep =
      (front (recordable python) state.trajectory).take state.lastStep := by
    rw [← whole, List.take_append_of_le_length follows.within]
  constructor
  case written => exact follows.written
  case within =>
    rw [← whole, List.length_append]
    exact Nat.le_add_right_of_le follows.within
  case covered => exact same ▸ follows.covered
  case origin =>
    intro step listed
    rw [← whole]
    exact List.mem_append_left _ (follows.origin step listed)
  case exact =>
    intro free
    rw [same]
    refine follows.exact ?_
    by_contra stuck
    rw [(stays (by simpa using stuck)).2] at free
    cases free

theorem Follows.step (follows : Follows python state logged) {action : RecordingAction}
    (truthful : Truthful state action) :
    ∃ next, Follows python ((recordingMachine python).step state action).1 next := by
  cases action with
  | stepsTaken steps => exact ⟨logged, follows.grows (.append steps)⟩
  | stepChanged index step => exact ⟨logged, follows.grows (.replace index step truthful)⟩
  | poll statusAnswer stepsAnswer =>
    obtain ⟨written, writes⟩ := poll_writes follows.within truthful
    exact ⟨logged ++ written, follows.writes writes⟩

theorem follows_of_run (run : List RecordingAction)
    (truthful : (recordingMachine python).Allowed Truthful (recordingMachine python).initial run) :
    ∃ logged, Follows python ((recordingMachine python).after (recordingMachine python).initial run)
      logged := by
  refine (recordingMachine python).allowed_preserves Truthful
    (fun state => ∃ logged, Follows python state logged) ?_ _ ?_ run truthful
  · rintro state action allowed ⟨logged, follows⟩
    exact follows.step allowed
  · exact ⟨[], rfl, Nat.zero_le _, List.Sublist.refl _, by simp, fun _ => rfl⟩

theorem poll_trajectory (python : Python) (state : Recording)
    (statusAnswer stepsAnswer : Except PyException PyValue) :
    (state.poll python statusAnswer stepsAnswer).trajectory = state.trajectory := by
  unfold Recording.poll
  split <;> rfl

-- Once an exception stops the monitor at a step, neither it nor a later step gets into the log.
theorem front_of_blocked (later : List RecordingAction)
    (truthful : (recordingMachine python).Allowed Truthful state later)
    (stuck : blocked (recordable python) running state.trajectory = true) :
    front (recordable python) ((recordingMachine python).after state later).trajectory =
      front (recordable python) state.trajectory := by
  induction later generalizing state with
  | nil => rfl
  | cons action rest ih =>
    have here : front (recordable python) ((recordingMachine python).step state action).1.trajectory =
          front (recordable python) state.trajectory ∧
        blocked (recordable python) running
          ((recordingMachine python).step state action).1.trajectory = true := by
      cases action with
      | stepsTaken steps =>
        exact (Frontier.Grows.front settled_of_recordable (.append steps)).2 stuck
      | stepChanged index step =>
        exact (Frontier.Grows.front settled_of_recordable (.replace index step truthful.1)).2 stuck
      | poll statusAnswer stepsAnswer =>
        change front _ (state.poll python statusAnswer stepsAnswer).trajectory = _ ∧
          blocked _ _ (state.poll python statusAnswer stepsAnswer).trajectory = true
        rw [poll_trajectory]
        exact ⟨rfl, stuck⟩
    rw [Machine.after_cons, ih truthful.2 here.2, here.1]

/-- `json.loads` reads the line of the step back, and the line is one line. -/
def Recorded (python : Python) (step : PyValue) : Prop :=
  ∃ line, PyJson.dumps python step = .ok line ∧ python.loads line = some step ∧
    ∀ point ∈ line, 32 ≤ point.val

theorem translateNewlines_plain {text : PyStr} (plain : ∀ point ∈ text, point.val ≠ 13) :
    translateNewlines false text = text := by
  induction text with
  | nil => rfl
  | cons point rest ih =>
    rw [List.forall_mem_cons] at plain
    simp [translateNewlines, plain.1, ih plain.2]

theorem fileLines_line (begun : PyStr) {line : PyStr} (plain : ∀ point ∈ line, point.val ≠ 10)
    (rest : PyStr) :
    fileLines begun (line ++ newline :: rest) = (begun ++ line ++ [newline]) :: fileLines [] rest := by
  induction line generalizing begun with
  | nil => simp [fileLines, newline]
  | cons point line ih =>
    rw [List.forall_mem_cons] at plain
    rw [List.cons_append, fileLines, if_neg plain.1, ih _ plain.2]
    simp

theorem strip_braced (python : Python) (inner : PyStr) :
    strip python (PyJson.code 0x7B :: (inner ++ [PyJson.code 0x7D]) ++ [newline]) =
      PyJson.code 0x7B :: (inner ++ [PyJson.code 0x7D]) := by
  have opens : isWhite python (PyJson.code 0x7B) = false := by simp [isWhite]
  have closes : isWhite python (PyJson.code 0x7D) = false := by simp [isWhite]
  have ends : isWhite python newline = true := by simp [isWhite, newline]
  rw [strip, List.cons_append, List.dropWhile_cons_of_neg (by simp [opens]), ← List.cons_append,
    List.rdropWhile_concat_pos _ _ _ ends, ← List.cons_append,
    List.rdropWhile_concat_neg _ _ _ (by simp [closes])]

theorem line_braced {step : PyValue} {line : PyStr} (shown : lineOf python step = some line) :
    ∃ inner, line = PyJson.code 0x7B :: (inner ++ [PyJson.code 0x7D]) := by
  obtain ⟨status, found, -, -, dumped⟩ := lineOf_eq_some.mp shown
  cases step with
  | dict entries =>
    rw [PyJson.dumps, Effect.bind_eq_ok] at dumped
    obtain ⟨inner, -, same⟩ := dumped
    cases same
    exact ⟨inner, rfl⟩
  | _ => cases found

theorem loadTrajectory_cons {step : PyValue} {line rest : PyStr}
    (shown : lineOf python step = some line) (recorded : Recorded python step)
    (plain : ∀ point ∈ rest, point.val ≠ 13) :
    loadTrajectory python (line ++ [newline] ++ rest) = step :: loadTrajectory python rest := by
  obtain ⟨-, -, -, -, dumped⟩ := lineOf_eq_some.mp shown
  obtain ⟨line', dumped', loaded, printable⟩ := recorded
  cases dumped.symm.trans dumped'
  obtain ⟨inner, rfl⟩ := line_braced shown
  have whole : ∀ point ∈ PyJson.code 0x7B :: (inner ++ [PyJson.code 0x7D]) ++ [newline] ++ rest,
      point.val ≠ 13 := by
    intro point listed
    rcases List.mem_append.mp listed with inLine | behind
    · rcases List.mem_append.mp inLine with inside | last
      · have solid := printable point inside
        omega
      · rw [List.mem_singleton] at last
        subst last
        decide
    · exact plain point behind
  have first : ∀ point ∈ PyJson.code 0x7B :: (inner ++ [PyJson.code 0x7D]), point.val ≠ 10 := by
    intro point inside
    have solid := printable point inside
    omega
  rw [loadTrajectory, translateNewlines_plain whole, List.append_assoc, List.singleton_append,
    fileLines_line [] first, List.nil_append, List.filterMap_cons, strip_braced]
  simp [loaded, loadTrajectory, translateNewlines_plain plain]

theorem logOf_plain {steps : List PyValue} (recorded : ∀ step ∈ steps, Recorded python step) :
    ∀ point ∈ logOf python steps, point.val ≠ 13 := by
  intro point listed
  obtain ⟨step, present, inside⟩ := List.mem_flatMap.mp listed
  split at inside
  next line shown =>
    obtain ⟨-, -, -, -, dumped⟩ := lineOf_eq_some.mp shown
    obtain ⟨line', dumped', -, printable⟩ := recorded step present
    cases dumped.symm.trans dumped'
    rcases List.mem_append.mp inside with inLine | last
    · have solid := printable point inLine
      omega
    · rw [List.mem_singleton] at last
      subst last
      decide
  next => cases inside

theorem loadTrajectory_logOf {steps : List PyValue}
    (shown : ∀ step ∈ steps, recordable python step = true)
    (recorded : ∀ step ∈ steps, Recorded python step) :
    loadTrajectory python (logOf python steps) = steps := by
  induction steps with
  | nil => rfl
  | cons step rest ih =>
    rw [List.forall_mem_cons] at shown recorded
    obtain ⟨line, here⟩ := Option.isSome_iff_exists.mp shown.1
    rw [logOf_cons here, loadTrajectory_cons here recorded.1 (logOf_plain recorded.2),
      ih shown.2 recorded.2]

theorem Follows.loaded (follows : Follows python state logged)
    (recorded : ∀ step ∈ front (recordable python) state.trajectory, Recorded python step) :
    loadTrajectory python state.log = logged := by
  rw [follows.written]
  refine loadTrajectory_logOf (fun step listed => ?_) fun step listed => ?_
  · exact Frontier.ready_of_mem_front (follows.origin step listed)
  · exact recorded step (follows.origin step listed)

end Runs

-- No control character, so no end of a line.
def Solid (text : PyStr) : Prop := ∀ point ∈ text, 32 ≤ point.val

instance (text : PyStr) : Decidable (Solid text) :=
  List.decidableBAll (fun point : CodePoint => 32 ≤ point.val) text

theorem solid_append {first second : PyStr} (left : Solid first) (right : Solid second) :
    Solid (first ++ second) := by
  intro point listed
  rcases List.mem_append.mp listed with here | there
  · exact left point here
  · exact right point there

theorem solid_cons {point : CodePoint} {text : PyStr} (first : 32 ≤ point.val) (rest : Solid text) :
    Solid (point :: text) :=
  List.forall_mem_cons.mpr ⟨first, rest⟩

theorem hexDigit_solid {digit : Nat} (small : digit < 16) : 32 ≤ (PyJson.hexDigit digit).val := by
  revert digit
  decide

theorem uEscape_solid (unit : Nat) : Solid (PyJson.uEscape unit) := by
  refine solid_cons (by decide) (solid_cons (by decide) ?_)
  intro point listed
  obtain ⟨digit, shown, rfl⟩ := List.mem_map.mp listed
  refine hexDigit_solid ?_
  simp only [List.mem_cons, List.not_mem_nil, or_false] at shown
  omega

theorem escapePoint_solid (point : CodePoint) : Solid (PyJson.escapePoint point) := by
  unfold PyJson.escapePoint
  split
  next letter found =>
    have letters : ∀ entry ∈ PyJson.escapeLetters, 32 ≤ (PyJson.code entry.2).val := by decide
    obtain ⟨before, behind, listed, -⟩ := List.lookup_eq_some_iff.mp found
    have solid := letters (point.val, letter) (by rw [listed]; simp)
    exact solid_cons (by decide) (solid_cons solid (by simp [Solid]))
  next =>
    split
    next plain =>
      simp only [Bool.and_eq_true, decide_eq_true_eq] at plain
      exact solid_cons plain.1 (by simp [Solid])
    next =>
      split
      · exact uEscape_solid _
      · exact solid_append (uEscape_solid _) (uEscape_solid _)

theorem dumpsStr_solid (text : PyStr) : Solid (PyJson.dumpsStr text) := by
  refine solid_cons (by decide) (solid_append ?_ (solid_cons (by decide) (by simp [Solid])))
  intro point listed
  obtain ⟨origin, -, inside⟩ := List.mem_flatMap.mp listed
  exact escapePoint_solid origin point inside

theorem dumpsInt_solid {value : Int} {text : PyStr} (printable : value.natAbs < 10 ^ kMaxStrDigits)
    (dumped : PyJson.dumpsInt value = .ok text) : Solid text := by
  rw [PyJson.dumpsInt_ok printable] at dumped
  cases dumped
  refine solid_append (by split <;> decide) ?_
  intro point listed
  obtain ⟨digit, shown, rfl⟩ := List.mem_map.mp listed
  have small := PyJson.decimalDigits_lt shown
  rw [PyJson.code_val (by omega)]
  omega

mutual

theorem dumps_solid (python : Python) : ∀ {value : PyValue} {text : PyStr}, PyJson.Portable value →
    PyJson.dumps python value = .ok text → Solid text
  | .none, _, _, dumped => by
    cases dumped
    decide
  | .bool value, _, _, dumped => by
    cases dumped
    cases value <;> decide
  | .int _, _, portable, dumped => dumpsInt_solid portable dumped
  | .float _, _, portable, _ => portable.elim
  | .str text, _, _, dumped => by
    cases dumped
    exact dumpsStr_solid text
  | .list elements, _, portable, dumped => by
    rw [PyJson.dumps, Effect.bind_eq_ok] at dumped
    obtain ⟨inner, written, same⟩ := dumped
    cases same
    have solid := dumpsElements_solid python portable written
    exact solid_cons (by decide) (solid_append solid (by decide))
  | .dict entries, _, portable, dumped => by
    rw [PyJson.dumps, Effect.bind_eq_ok] at dumped
    obtain ⟨inner, written, same⟩ := dumped
    cases same
    have solid := dumpsEntries_solid python portable.2 written
    exact solid_cons (by decide) (solid_append solid (by decide))

theorem dumpsElements_solid (python : Python) : ∀ {elements : List PyValue} {text : PyStr},
    PyJson.PortableElements elements → PyJson.dumpsElements python elements = .ok text → Solid text
  | [], _, _, dumped => by
    cases dumped
    decide
  | [last], _, portable, dumped => dumps_solid python portable.1 dumped
  | element :: next :: rest, _, portable, dumped => by
    simp only [PyJson.dumpsElements, Effect.bind_eq_ok] at dumped
    obtain ⟨first, here, others, there, same⟩ := dumped
    cases same
    refine solid_append (dumps_solid python portable.1 here) ?_
    exact solid_cons (by decide) (solid_cons (by decide) (dumpsElements_solid python portable.2 there))

theorem dumpsEntries_solid (python : Python) : ∀ {entries : List (PyStr × PyValue)} {text : PyStr},
    PyJson.PortableEntries entries → PyJson.dumpsEntries python entries = .ok text → Solid text
  | [], _, _, dumped => by
    cases dumped
    decide
  | [(key, value)], _, portable, dumped => by
    simp only [PyJson.dumpsEntries, Effect.bind_eq_ok] at dumped
    obtain ⟨held, here, same⟩ := dumped
    cases same
    refine solid_append (dumpsStr_solid key) ?_
    exact solid_cons (by decide) (solid_cons (by decide) (dumps_solid python portable.2.1 here))
  | (key, value) :: next :: rest, _, portable, dumped => by
    simp only [PyJson.dumpsEntries, Effect.bind_eq_ok] at dumped
    obtain ⟨held, here, others, there, same⟩ := dumped
    cases same
    refine solid_append (solid_append (dumpsStr_solid key) ?_) ?_
    · exact solid_cons (by decide) (solid_cons (by decide) (dumps_solid python portable.2.1 here))
    · exact solid_cons (by decide) (solid_cons (by decide)
        (dumpsEntries_solid python portable.2.2 there))

end

theorem recorded_of_portable {python : Python} {parseFloat : PyStr → PyFloat}
    (reads : python.loads = PyJson.loads parseFloat) {step : PyValue}
    (portable : PyJson.Portable step) : Recorded python step := by
  obtain ⟨line, dumped, loaded⟩ := PyJson.loads_dumps python parseFloat portable
  exact ⟨line, dumped, by rw [reads, loaded], dumps_solid python portable dumped⟩

-- The check looks at each step by itself, so a step that is there twice changes nothing.
theorem Detected.congr {python : Python} {steps others : List PyValue} {agentNum : Nat}
    (same : ∀ step, step ∈ steps ↔ step ∈ others) (detected : Detected python steps agentNum) :
    Detected python others agentNum := by
  have reads : ∀ text, Reads steps text ↔ Reads others text := by
    intro text
    simp only [Reads, same]
  constructor
  case printable => exact detected.printable
  case readable =>
    intro step listed
    exact detected.readable step ((same step).mpr listed)
  case convertible =>
    intro text read
    exact detected.convertible text ((reads text).mpr read)
  case exposed =>
    obtain ⟨text, read, other⟩ := detected.exposed
    exact ⟨text, (reads text).mp read, other⟩

/--
What the audit loads is, in every run, the recordable steps of the trajectory up to the place of
the monitor, each once unless an exception stops the monitor behind them; after a poll that was
answered in full it is all of them, and the verdict on the log is the verdict on them.
-/
theorem thoughts_log_follows_trajectory (python : Python) (run : List RecordingAction)
    (truthful : (recordingMachine python).Allowed Truthful (recordingMachine python).initial run)
    (recorded : ∀ step ∈ front (recordable python)
      ((recordingMachine python).after (recordingMachine python).initial run).trajectory,
      Recorded python step) :
    let state := (recordingMachine python).after (recordingMachine python).initial run
    let recordables := front (recordable python) state.trajectory
    let stuck := blocked (recordable python) running state.trajectory
    Follows python state (loadTrajectory python state.log) ∧
      (∀ statusAnswer stepsAnswer, Complete python state statusAnswer stepsAnswer →
        let audited := loadTrajectory python (state.poll python statusAnswer stepsAnswer).log
        recordables.Sublist audited ∧ (∀ step ∈ audited, step ∈ recordables) ∧
          (stuck = false → audited = recordables) ∧
          ∀ agentNum, Reports (checkCrossSandboxAccess python audited agentNum)
              "no_cross_sandbox_access" .FAIL ↔
            Reports (checkCrossSandboxAccess python recordables agentNum)
              "no_cross_sandbox_access" .FAIL) ∧
      (stuck = true → ∀ later, (recordingMachine python).Allowed Truthful state later →
        front (recordable python) ((recordingMachine python).after state later).trajectory =
          recordables) := by
  intro state recordables stuck
  obtain ⟨logged, follows⟩ := follows_of_run run truthful
  change Follows python state logged at follows
  change ∀ step ∈ recordables, Recorded python step at recorded
  clear_value state
  refine ⟨?_, ?_, fun blocked later allowed => front_of_blocked later allowed blocked⟩
  · rw [follows.loaded recorded]
    exact follows
  · intro statusAnswer stepsAnswer complete audited
    have writes := poll_writes_all follows.within complete
    have next := follows.writes writes
    have same := poll_trajectory python state statusAnswer stepsAnswer
    have loaded : audited = logged ++ recordables.drop state.lastStep :=
      next.loaded (by rw [same]; exact recorded)
    have whole : recordables.Sublist audited := by
      rw [loaded]
      conv_lhs => rw [← List.take_append_drop state.lastStep recordables]
      exact follows.covered.append (List.Sublist.refl _)
    have inside : ∀ step ∈ audited, step ∈ recordables := by
      intro step listed
      rw [loaded] at listed
      have origin := next.origin step listed
      rwa [same] at origin
    refine ⟨whole, inside, ?_, ?_⟩
    · intro free
      rw [loaded, follows.exact free]
      exact List.take_append_drop _ _
    · intro agentNum
      rw [reports_fail_iff_detected, reports_fail_iff_detected]
      exact ⟨.congr fun step => ⟨inside step, fun listed => whole.subset listed⟩,
        .congr fun step => ⟨fun listed => whole.subset listed, inside step⟩⟩

def auditPython : Python := { plainPython with loads := PyJson.loads fun _ => .nan }

def viewStep : PyValue :=
  .dict [(py "type", .str (py "CORTEX_STEP_TYPE_VIEW_FILE")),
    (py "viewFile", .dict [(py "absolutePathUri", .str (py "/agents/2/notes"))])]

def commandStep (status : String) : PyValue :=
  .dict [(py "type", .str (py "CORTEX_STEP_TYPE_RUN_COMMAND")), (py "status", .str (py status)),
    (py "runCommand", .dict [(py "commandLine", .str (py "ls"))])]

-- A file is viewed, and a command is still running when the monitor asks for the first time.
def commandRun : List RecordingAction :=
  [.stepsTaken [viewStep, commandStep "CORTEX_STEP_STATUS_RUNNING"],
    .poll (.ok (.dict [(py "numTotalSteps", .int 2)]))
      (.ok (.dict [(py "steps", .list [viewStep, commandStep "CORTEX_STEP_STATUS_RUNNING"])])),
    .stepChanged 1 (commandStep "CORTEX_STEP_STATUS_DONE"),
    .poll (.error .osError) (.error .osError)]

theorem commandRun_truthful :
    (recordingMachine auditPython).Allowed Truthful (recordingMachine auditPython).initial
      commandRun := by
  refine ⟨trivial, ⟨_, rfl, List.prefix_refl _⟩, ?_, trivial, trivial⟩
  intro old found
  cases found
  decide

theorem commandRun_portable :
    PyJson.Portable viewStep ∧ PyJson.Portable (commandStep "CORTEX_STEP_STATUS_DONE") := by
  simp only [viewStep, commandStep, PyJson.Portable, PyJson.PortableEntries, List.map_cons,
    List.map_nil]
  decide

theorem first_step_logged :
    loadTrajectory auditPython ((recordingMachine auditPython).after
      (recordingMachine auditPython).initial commandRun).log = [viewStep] := by
  have recorded : ∀ step ∈ front (recordable auditPython) ((recordingMachine auditPython).after
      (recordingMachine auditPython).initial commandRun).trajectory, Recorded auditPython step := by
    intro step listed
    have inside : step ∈ [viewStep, commandStep "CORTEX_STEP_STATUS_DONE"] :=
      List.takeWhile_subset _ listed
    simp only [List.mem_cons, List.not_mem_nil, or_false] at inside
    rcases inside with rfl | rfl
    · exact recorded_of_portable rfl commandRun_portable.1
    · exact recorded_of_portable rfl commandRun_portable.2
  obtain ⟨follows, -⟩ :=
    thoughts_log_follows_trajectory auditPython commandRun commandRun_truthful recorded
  exact follows.exact (by decide)

end Ztab.Audit
