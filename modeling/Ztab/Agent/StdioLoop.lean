import Ztab.Agent.Attestation

set_option autoImplicit false

/-!
# The stdio loop

`main` reads JSON-RPC messages line by line and writes the responses. Only the call of
`handle_request` stands in a `try` that catches everything.
-/

namespace Ztab

def Tool.all : List Tool :=
  [.ztab_list_backends, .ztab_test_connection, .ztab_create_session, .ztab_join_session,
    .ztab_accept_policy, .ztab_submit_input, .ztab_get_result, .ztab_get_session_status]

def Tool.description : Tool → String
  | .ztab_list_backends => "List the available TEE backends configured on this host."
  | .ztab_test_connection =>
    "Connect to a ZTAB TEE server, verify its TLS certificate, extract and parse the remote " ++
      "attestation token (JWT), and make a secure gRPC Echo RPC call to verify the channel. "
  | .ztab_create_session =>
    "Create a new multi-agent session on the ZTAB TEE server. Returns an invitation_token (to " ++
      "share with other participants) and a participant_token (secret, for your own use in " ++
      "subsequent RPCs). The creator automatically counts as one participant."
  | .ztab_join_session =>
    "Join an existing session on the ZTAB TEE server using an invitation_token received from " ++
      "the session creator. Returns the session policy for review and a participant_token for " ++
      "subsequent RPCs. After reviewing the policy, call ztab_accept_policy."
  | .ztab_accept_policy =>
    "Accept the policy of a session you've joined. Must be called after join_session and before " ++
      "submit_input. When all participants accept, the session transitions to SEALED."
  | .ztab_submit_input =>
    "Submit your private input to a SEALED session. The input must be valid JSON conforming to " ++
      "the session's input schema. When all participants submit, the TEE processes the inputs " ++
      "via LLM."
  | .ztab_get_result =>
    "Get the result of a completed session. Returns the LLM-generated result if the session is " ++
      "CLOSED, error details if ABORTED, or current state if still in progress."
  | .ztab_get_session_status =>
    "Get the current status of a session: state, how many participants have joined, accepted, " ++
      "and submitted input."

-- The type and the description of a property; those not named here have one meaning everywhere.
def propertySchema : String → String × String
  | "message" => ("string", "Test message for Echo RPC")
  | "policy_class" => ("string", "Policy class name (e.g., 'ScheduleOverlap')")
  | "expected_participants" =>
    ("integer", "Total number of participants (including creator). Must be >= 2.")
  | "timeout_seconds" => ("integer", "Per-state timeout in seconds (default: 300)")
  | "invitation_token" => ("string", "Invitation token received from session creator")
  | "role" => ("string", "Role for role-based policies (Phase 2+)")
  | "participant_token" => ("string", "Your participant token")
  | "input_json" => ("string", "JSON string with your private input data")
  | _ => ("string", "Backend ID to use (optional)")

def Tool.inputSchema (tool : Tool) : PyValue :=
  let property (name : String) : String × PyValue :=
    let (type, description) := propertySchema name
    (name, pyDict [("type", pyText type), ("description", pyText description)])
  let common := [("type", pyText "object"), ("properties", pyDict (tool.properties.map property))]
  match tool with
  | .ztab_list_backends => pyDict (common ++ [("additionalProperties", .bool false)])
  | _ => pyDict (common ++ [("required", .list (tool.required.map pyText))])

def TOOLS : PyValue :=
  .list (Tool.all.map fun tool =>
    pyDict [("name", pyText tool.name), ("description", pyText tool.description),
      ("inputSchema", tool.inputSchema)])

-- What `json.loads` does with a text. Beside JSONDecodeError it raises RecursionError on deep
-- nesting and ValueError on integers that are too long.
inductive Loaded where
  | value (message : PyValue)
  | decodeError
  | raised (exception : PyException)

structure Stdio (Object : Type) where
  python : Python
  loads : PyStr → Loaded
  -- `json.dumps` of a value made of JSON types.
  dumps : PyValue → PyStr
  ofValue : PyValue → Object
  -- `json.dumps(result, indent=2)`, which raises on what has no JSON.
  dumpsIndented : Object → Except PyException PyStr
  -- `type(e).__name__`
  typeName : PyException → PyStr

-- A line as `readline` returns it, and what the tools would do at that time.
structure StdioLine (Object : Type) where
  text : PyStr
  handlers : Tool → PyValue → Except PyException Object

inductive Handled where
  | result (value : PyValue)
  | notHandled

variable {Object : Type} (stdio : Stdio Object)

-- `TOOL_HANDLERS.get(tool_name)`
def findTool (toolName : PyValue) : Except PyException (Option Tool) := do
  toolName.hash
  match toolName with
  | .str text => return Tool.all.find? fun tool => py tool.name = text
  | _ => return none

def runTool (handlers : Tool → PyValue → Except PyException Object) (tool : Tool)
    (arguments : PyValue) : Except PyException Object := do
  match ← validateRequiredArgs tool arguments with
  | some refused => return stdio.ofValue refused
  | none =>
    match handlers tool arguments with
    | .ok result => return result
    | .error (.valueError message) => return stdio.ofValue (errorResult message)
    | .error other =>
      return stdio.ofValue (errorResult (py "Tool execution failed: " ++ other.text stdio.python))

def handleToolsCall (handlers : Tool → PyValue → Except PyException Object) (params : PyValue) :
    Except PyException PyValue := do
  let toolName ← params.get "name" (.str [])
  let arguments ← params.get "arguments" (pyDict [])
  let result ←
    match ← findTool toolName with
    | some tool => runTool stdio handlers tool arguments
    | none =>
      pure (stdio.ofValue (errorResult (py "Unknown tool: " ++ stdio.python.str toolName)))
  let text ← stdio.dumpsIndented result
  return pyDict [("content", .list [pyDict [("type", pyText "text"), ("text", .str text)]])]

def handleRequest (handlers : Tool → PyValue → Except PyException Object)
    (method params : PyValue) : Except PyException Handled := do
  if method.eq (pyText "initialize") then
    return .result (pyDict
      [("protocolVersion", pyText "2024-11-05"),
        ("capabilities", pyDict [("tools", pyDict [])]),
        ("serverInfo", pyDict [("name", pyText "ztab"), ("version", pyText "0.2.0")])])
  else if method.eq (pyText "notifications/initialized") then return .result .none
  else if method.eq (pyText "tools/list") then return .result (pyDict [("tools", TOOLS)])
  else if method.eq (pyText "tools/call") then return .result (← handleToolsCall stdio handlers params)
  else return .notHandled

def isPySpace (point : CodePoint) : Bool :=
  isAsciiSpace point.val || (28 ≤ point.val && point.val ≤ 31) ||
    (127 < point.val && stdio.python.isSpace point)

-- `line.strip()`
def strip (text : PyStr) : PyStr :=
  (text.dropWhile (isPySpace stdio)).rdropWhile (isPySpace stdio)

def resultResponse (msgId result : PyValue) : PyValue :=
  pyDict [("jsonrpc", pyText "2.0"), ("id", msgId), ("result", result)]

def errorResponse (msgId : PyValue) (code : Int) (message : PyStr) : PyValue :=
  pyDict [("jsonrpc", pyText "2.0"), ("id", msgId),
    ("error", pyDict [("code", .int code), ("message", .str message)])]

-- The response to a message, before it is known whether one is wanted.
def responseTo (handlers : Tool → PyValue → Except PyException Object)
    (method params msgId : PyValue) : PyValue :=
  match handleRequest stdio handlers method params with
  | .error raised =>
    errorResponse msgId (-32603) (py "Internal error: " ++ stdio.typeName raised ++ py ": " ++
      raised.text stdio.python)
  | .ok .notHandled =>
    errorResponse msgId (-32601) (py "Method not found: " ++ stdio.python.str method)
  | .ok (.result result) => resultResponse msgId result

-- What is written for a message; an exception here leaves the loop.
def processMessage (handlers : Tool → PyValue → Except PyException Object) (msg : PyValue) :
    Except PyException (Option PyValue) := do
  let method ← msg.get "method" (.str [])
  let params ← msg.get "params" (pyDict [])
  let msgId ← msg.get "id"
  match msgId with
  | .none => return none
  | _ => return some (responseTo stdio handlers method params msgId)

def processLine (line : StdioLine Object) : Except PyException (Option PyValue) :=
  let text := strip stdio line.text
  if text = [] then .ok none
  else
    match stdio.loads text with
    | .decodeError => .ok none
    | .raised exception => .error exception
    | .value msg => processMessage stdio line.handlers msg

def Stdio.main : List (StdioLine Object) → List PyStr × Option PyException
  | [] => ([], none)
  | line :: rest =>
    match processLine stdio line with
    | .error raised => ([], some raised)
    | .ok response =>
      let (written, ended) := Stdio.main rest
      (response.toList.map (fun value => stdio.dumps value ++ py "\n") ++ written, ended)

/-- The id of a line that is a JSON object with an id other than null. -/
def requestId (line : StdioLine Object) : Option PyValue :=
  let text := strip stdio line.text
  if text = [] then none
  else
    match stdio.loads text with
    | .value (.dict entries) =>
      match PyValue.find (py "id") entries with
      | some .none => none
      | found => found
    | _ => none

/-- The line is blank, not JSON, or a JSON object. -/
def Digestible (line : StdioLine Object) : Prop :=
  let text := strip stdio line.text
  text = [] ∨ stdio.loads text = .decodeError ∨ ∃ entries, stdio.loads text = .value (.dict entries)

def Answers (msgId response : PyValue) : Prop :=
  (∃ result, response = resultResponse msgId result) ∨
    ∃ code message, response = errorResponse msgId code message

section Lines

variable {stdio} {line : StdioLine Object}

theorem responseTo_answers (handlers : Tool → PyValue → Except PyException Object)
    (method params msgId : PyValue) :
    Answers msgId (responseTo stdio handlers method params msgId) := by
  unfold responseTo
  split
  next => exact .inr ⟨_, _, rfl⟩
  next => exact .inr ⟨_, _, rfl⟩
  next => exact .inl ⟨_, rfl⟩

theorem processMessage_dict (handlers : Tool → PyValue → Except PyException Object)
    (entries : List (PyStr × PyValue)) :
    processMessage stdio handlers (.dict entries) =
      match PyValue.find (py "id") entries with
      | some .none | none => .ok none
      | some msgId => .ok (some (responseTo stdio handlers
          ((PyValue.find (py "method") entries).getD (.str []))
          ((PyValue.find (py "params") entries).getD (pyDict [])) msgId)) := by
  simp only [processMessage, PyValue.get, bind, Except.bind, pure, Except.pure]
  cases PyValue.find (py "id") entries with
  | none => rfl
  | some msgId => cases msgId <;> rfl

theorem processMessage_other (handlers : Tool → PyValue → Except PyException Object) {msg : PyValue}
    (other : ∀ entries, msg ≠ .dict entries) :
    processMessage stdio handlers msg = .error .attributeError := by
  cases msg with
  | dict entries => exact absurd rfl (other entries)
  | _ => rfl

theorem processLine_digestible (digestible : Digestible stdio line) :
    (requestId stdio line = none ∧ processLine stdio line = .ok none) ∨
      ∃ msgId response, requestId stdio line = some msgId ∧
        processLine stdio line = .ok (some response) ∧ Answers msgId response := by
  rcases digestible with blank | malformed | ⟨entries, message⟩
  · left
    simp [requestId, processLine, blank]
  · left
    simp [requestId, processLine, malformed]
  · by_cases blank : strip stdio line.text = []
    next =>
      left
      simp [requestId, processLine, blank]
    next =>
      simp only [requestId, processLine, blank, if_false, message, processMessage_dict]
      cases PyValue.find (py "id") entries with
      | none => exact .inl ⟨rfl, rfl⟩
      | some msgId =>
        cases msgId with
        | none => exact .inl ⟨rfl, rfl⟩
        | _ => exact .inr ⟨_, _, rfl, rfl, responseTo_answers _ _ _ _⟩

theorem processLine_indigestible (indigestible : ¬ Digestible stdio line) :
    ∃ raised, processLine stdio line = .error raised := by
  simp only [Digestible, not_or, not_exists] at indigestible
  obtain ⟨text, json, object⟩ := indigestible
  simp only [processLine, text, if_false]
  cases loaded : stdio.loads (strip stdio line.text) with
  | decodeError => exact absurd loaded json
  | raised exception => exact ⟨exception, rfl⟩
  | value msg =>
    refine ⟨.attributeError, processMessage_other _ ?_⟩
    intro entries same
    exact object entries (same ▸ loaded)

end Lines

/-- Every line is processed, and the lines written answer the requests in their order. -/
structure AnswersAll (lines : List (StdioLine Object)) : Prop where
  finished : (stdio.main lines).2 = none
  answered : ∃ responses : List PyValue,
    (stdio.main lines).1 = responses.map (fun value => stdio.dumps value ++ py "\n") ∧
      List.Forall₂ Answers (lines.filterMap (requestId stdio)) responses

theorem main_digestible (lines : List (StdioLine Object))
    (digestible : ∀ line ∈ lines, Digestible stdio line) : AnswersAll stdio lines := by
  induction lines with
  | nil => exact ⟨rfl, [], rfl, .nil⟩
  | cons line rest ih =>
    obtain ⟨finished, responses, written, answers⟩ :=
      ih fun other listed => digestible other (List.mem_cons_of_mem _ listed)
    obtain ⟨silent, processed⟩ | ⟨msgId, response, asked, processed, answer⟩ :=
      processLine_digestible (digestible line List.mem_cons_self)
    · refine ⟨?_, responses, ?_, ?_⟩
      · simp [Stdio.main, processed, finished]
      · simp [Stdio.main, processed, written]
      · simpa [silent] using answers
    · refine ⟨?_, response :: responses, ?_, ?_⟩
      · simp [Stdio.main, processed, finished]
      · simp [Stdio.main, processed, written]
      · simpa [asked] using ⟨answer, answers⟩

theorem digestible_of_finished (lines : List (StdioLine Object))
    (finished : (stdio.main lines).2 = none) : ∀ line ∈ lines, Digestible stdio line := by
  induction lines with
  | nil => simp
  | cons first rest ih =>
    by_cases digestible : Digestible stdio first
    next =>
      have later : (stdio.main rest).2 = none := by
        obtain ⟨-, processed⟩ | ⟨_, _, -, processed, -⟩ := processLine_digestible digestible
        · simpa [Stdio.main, processed] using finished
        · simpa [Stdio.main, processed] using finished
      simpa [digestible] using ih later
    next =>
      obtain ⟨raised, processed⟩ := processLine_indigestible digestible
      simp [Stdio.main, processed] at finished

/-- The loop answers every request and reaches the end of its input exactly when every line is
blank, not JSON, or a JSON object. -/
theorem stdio_answers_all_iff (lines : List (StdioLine Object)) :
    AnswersAll stdio lines ↔ ∀ line ∈ lines, Digestible stdio line := by
  constructor
  · intro answers
    exact digestible_of_finished stdio lines answers.finished
  · exact main_digestible stdio lines

-- The interpreter, as far as the two lines below need it.
def smallStdio : Stdio PyValue where
  python := plainPython
  loads text :=
    if text = py "5" then .value (.int 5)
    else if text = py "\x7b\"id\": 1, \"method\": \"tools/list\"\x7d" then
      .value (pyDict [("id", .int 1), ("method", pyText "tools/list")])
    else .decodeError
  dumps _ := []
  ofValue value := value
  dumpsIndented _ := .ok []
  typeName _ := []

def numberThenRequest : List (StdioLine PyValue) :=
  ["5\n", "\x7b\"id\": 1, \"method\": \"tools/list\"\x7d\n"].map fun text =>
    ⟨py text, fun _ _ => .ok .none⟩

/-- The line `5` ends the loop, and the request after it gets no answer. -/
theorem number_line_ends_loop :
    smallStdio.main numberThenRequest = ([], some .attributeError) ∧
      (numberThenRequest.filterMap (requestId smallStdio)).length = 1 ∧
        ¬ AnswersAll smallStdio numberThenRequest := by
  have ended : smallStdio.main numberThenRequest = ([], some .attributeError) := by decide +kernel
  refine ⟨ended, by decide +kernel, ?_⟩
  intro answers
  have finished := answers.finished
  rw [ended] at finished
  cases finished

end Ztab
