import Ztab.Agent.Attestation
import Ztab.Agent.Requests

set_option autoImplicit false

/-!
# Repeated admissions

An agent repeats one create or join call. Its requests may reach the server at once,
late or never, and answers may be lost; others use both servers in between. The UUID
that stands in for a nonce is drawn anew by each call.
-/

namespace Ztab

open Effect

def abslToGrpc : StatusCode → GrpcCode
  | .permissionDenied => .PERMISSION_DENIED
  | .failedPrecondition => .FAILED_PRECONDITION
  | .invalidArgument => .INVALID_ARGUMENT
  | .notFound => .NOT_FOUND
  | .resourceExhausted => .RESOURCE_EXHAUSTED
  | .internal => .INTERNAL
  | .alreadyExists => .UNKNOWN

structure Service where
  env : Environment
  -- The flag, or the environment variable where the flag is empty.
  creatorToken : String := ""

-- Metadata is sent for a truthy token only, and an empty one is never required.
def Service.createSession (service : Service) (now : Int) (system : System)
    (request : CreateSessionRequest) (provided : PyValue) : System × Reply :=
  if service.creatorToken = "" ∨ provided.same (pyText service.creatorToken) = true then
    system.step service.env (.createSession now request)
  else (system, .createSession invalidToken)

-- An admission tool makes no other request.
def Service.serve (service : Service) (now : Int) (system : System) : RpcRequest → System × Reply
  | .createSession request provided => service.createSession now system request provided
  | .joinSession request => system.step service.env (.joinSession now request)
  | _ => (system, .silent)

-- An exception in a handler is left to the gRPC library.
def grpcFailure (lost : PyException) : Failure → PyException
  | .status status => .rpcError (abslToGrpc status.code) (py status.message)
  | .raised _ => lost

def Reply.created (lost : PyException) : Reply → Except PyException CreateSessionResponse
  | .createSession (.ok response) => .ok response
  | .createSession (.error failure) => .error (grpcFailure lost failure)
  | _ => .error lost

def Reply.joined (lost : PyException) : Reply → Except PyException JoinSessionResponse
  | .joinSession (.ok response) => .ok response
  | .joinSession (.error failure) => .error (grpcFailure lost failure)
  | _ => .error lost

-- Who repeats what, and where.
structure Client where
  agent : AgentEnv
  service : Service
  tool : AdmissionTool
  arguments : PyValue

structure Attempt where
  now : Int
  file : FileView
  laterFile : FileView
  -- Everything outside the process but the service.
  network : Network
  -- The request is served during the call. If not, it is still under way.
  reaches : Bool
  -- The answer of the service is received.
  answered : Bool
  -- What the call sees instead of an answer.
  lost : PyException

def Attempt.receive {Response : Type} (attempt : Attempt) (answer : Except PyException Response) :
    Except PyException Response :=
  if attempt.reaches ∧ attempt.answered then answer else .error attempt.lost

def Attempt.rpc (service : Service) (attempt : Attempt) (system : System) :
    (request : RpcRequest) → Except PyException request.Response
  | .createSession request provided => attempt.receive
      ((service.serve attempt.now system (.createSession request provided)).2.created attempt.lost)
  | .joinSession request => attempt.receive
      ((service.serve attempt.now system (.joinSession request)).2.joined attempt.lost)
  | request => attempt.network.rpc request

def Attempt.call (client : Client) (attempt : Attempt) (system : System) : ToolCall where
  tool := client.tool.tool
  arguments := client.arguments
  file := attempt.file
  laterFile := attempt.laterFile
  network := { attempt.network with rpc := attempt.rpc client.service system }

structure Deployment where
  system : System := {}
  mcp : McpState := {}
  -- Requests of the client that have not arrived.
  underWay : List RpcRequest := []
  -- The seats that requests of the client added.
  granted : Finset Seat := ∅
  -- What its calls returned.
  returned : List PyValue := []

inductive Happening where
  | attempt (attempt : Attempt)
  | arrival (index : Nat) (now : Int)
  -- Somebody else's request, or a worker.
  | server (action : Action)
  | toolCall (call : ToolCall)

namespace Deployment

def deliver (service : Service) (now : Int) (state : Deployment) (request : RpcRequest) : Deployment :=
  let system := (service.serve now state.system request).1
  { state with system, granted := state.granted ∪ state.system.manager.newSeats system.manager }

def send (client : Client) (state : Deployment) (attempt : Attempt) (sent : List RpcRequest) :
    Deployment :=
  if attempt.reaches then sent.foldl (deliver client.service attempt.now) state
  else { state with underWay := state.underWay ++ sent }

def attempt (client : Client) (state : Deployment) (attempt : Attempt) : Deployment :=
  let (reply, mcp) := (callTool client.agent (attempt.call client state.system)).exec state.mcp
  let next := state.send client attempt (mcp.calls.drop state.mcp.calls.length)
  { next with mcp, returned := next.returned ++ reply.toOption.toList }

def arrive (client : Client) (state : Deployment) (index : Nat) (now : Int) : Deployment :=
  match state.underWay[index]? with
  | none => state
  | some request =>
    { state.deliver client.service now request with underWay := state.underWay.eraseIdx index }

def step (client : Client) (state : Deployment) : Happening → Deployment
  | .attempt attempt => state.attempt client attempt
  | .arrival index now => state.arrive client index now
  | .server action => { state with system := (state.system.step client.service.env action).1 }
  | .toolCall call => { state with mcp := ((mcpMachine client.agent).step state.mcp call).1 }

end Deployment

def retryMachine (client : Client) : Machine Deployment Happening Unit where
  initial := {}
  step state happening := (state.step client happening, ())

structure PyValue.Shows (value : PyValue) (seat : Seat) : Prop where
  token : value.item "participant_token" = .ok (pyText seat.token)
  invitation : ∀ held, value.item "invitation_token" = .ok held → held = pyText seat.invitation

/-- One session or one slot at most, and no tokens but its own. -/
structure ExactlyOnce (state : Deployment) : Prop where
  single : state.granted.card ≤ 1
  tokens : ∀ value ∈ state.returned, value.Tokenless ∨
    ∃ seat, state.granted = {seat} ∧ value.Shows seat

/-- A request with this nonce may arrive now: it is the first that is granted, or the client has a
nonce of its own and the session created for it is still there. -/
structure Client.MayArrive (client : Client) (state : Deployment) (nonce : String) (now : Int) : Prop where
  unused : state.granted = ∅ → state.system.manager.Unused nonce
  carried : state.granted ≠ ∅ → client.arguments.CarriesNonce
  kept : client.tool = .create → ∀ seat ∈ state.granted,
    state.system.manager.Keeps client.service.env now seat

def Client.Permits (client : Client) (state : Deployment) : Happening → Prop
  | .attempt attempt => attempt.reaches = true → ∀ nonce,
      requestedNonce attempt.network.uuid client.arguments = .ok nonce →
        client.MayArrive state nonce attempt.now
  | .arrival index now => ∀ request admission, state.underWay[index]? = some request →
      request.admission = some admission → client.MayArrive state admission.nonce now
  | _ => True

def Client.Asks (client : Client) (request : RpcRequest) : Prop :=
  ∃ uuid backend, client.tool.build client.agent.python uuid client.arguments backend = .ok request

structure Client.Consistent (client : Client) (state : Deployment) : Prop where
  reachable : (machine client.service.env).Reachable state.system
  underWay : ∀ request ∈ state.underWay, client.Asks request
  single : state.granted = ∅ ∨ ∃ seat, state.granted = {seat}
  -- Whatever the client asks for with its own nonce, the server holds the seat for it.
  reserved : ∀ seat ∈ state.granted, client.arguments.CarriesNonce → ∀ request admission,
    client.Asks request → request.admission = some admission →
      admission.Reserves client.service.env state.system seat
  tokens : ∀ value ∈ state.returned, value.Tokenless ∨
    ∃ seat, state.granted = {seat} ∧ value.Shows seat

section Delivery

variable {client : Client} {state : Deployment} {request : RpcRequest} {admission : Admission}

theorem Client.Consistent.exactlyOnce (consistent : client.Consistent state) : ExactlyOnce state where
  single := by
    rcases consistent.single with none | ⟨seat, only⟩
    · simp [none]
    · simp [only]
  tokens := consistent.tokens

theorem Client.Asks.alike (carries : client.arguments.CarriesNonce) {other : RpcRequest}
    (asks : client.Asks request) (asksOther : client.Asks other) :
    request.admission = other.admission := by
  obtain ⟨uuid, backend, built⟩ := asks
  obtain ⟨uuid', backend', built'⟩ := asksOther
  exact AdmissionTool.build_alike carries built built'

theorem Client.Asks.keyed (carries : client.arguments.CarriesNonce) (asks : client.Asks request)
    (asked : request.admission = some admission) : admission.nonce ≠ "" := by
  obtain ⟨uuid, backend, built⟩ := asks
  obtain ⟨other, same, requested⟩ := AdmissionTool.build_ok built
  cases asked.symm.trans same
  obtain ⟨nonce, keyed, always⟩ := carries.requested
  cases requested.symm.trans (always uuid)
  exact keyed

theorem Client.Asks.created (asks : client.Asks request) {create : CreateSessionRequest}
    (asked : request.admission = some (.create create)) : client.tool = .create := by
  obtain ⟨uuid, backend, built⟩ := asks
  cases tool : client.tool with
  | create => rfl
  | join =>
    rw [tool] at built
    obtain ⟨join, rfl, -⟩ := buildJoinSession_ok built
    cases asked

theorem Service.serve_cases (service : Service) (now : Int) (system : System)
    (asked : request.admission = some admission) :
    service.serve now system request = (system, .createSession invalidToken) ∨
      service.serve now system request = system.step service.env (admission.action now) := by
  cases request with
  | createSession create provided =>
    cases asked
    simp only [serve, createSession]
    split_ifs
    · exact .inr rfl
    · exact .inl rfl
  | joinSession join =>
    cases asked
    exact .inr rfl
  | _ => cases asked

-- Seats are granted to a client that has none, and the server keeps what it granted.
theorem Client.Consistent.moved (consistent : client.Consistent state) {system : System}
    {granted : Finset Seat} (reachable : (Ztab.machine client.service.env).Reachable system)
    (kept : ∀ seat, state.granted = {seat} → granted = {seat})
    (single : granted = ∅ ∨ ∃ seat, granted = {seat})
    (reserved : ∀ seat ∈ granted, client.arguments.CarriesNonce → ∀ request admission,
      client.Asks request → request.admission = some admission →
        admission.Reserves client.service.env system seat) :
    client.Consistent { state with system, granted } where
  reachable := reachable
  underWay := consistent.underWay
  single := single
  reserved := reserved
  tokens value listed := by
    rcases consistent.tokens value listed with tokenless | ⟨seat, only, shows⟩
    · exact .inl tokenless
    · exact .inr ⟨seat, kept seat only, shows⟩

theorem Client.Consistent.acted (consistent : client.Consistent state)
    (fresh : client.service.env.NeverRepeats) (action : Action) :
    client.Consistent { state with system := (state.system.step client.service.env action).1 } := by
  apply consistent.moved (consistent.reachable.step action) (fun _ only => only) consistent.single
  intro seat granted carries request admission asks asked
  exact (consistent.reserved seat granted carries request admission asks asked).step fresh
    consistent.reachable action

-- The end of a call: what it returns is told apart from what it did.
theorem Client.Consistent.returning (consistent : client.Consistent state) (mcp : McpState)
    {values : List PyValue} (shown : ∀ value ∈ values, value.Tokenless ∨
      ∃ seat, state.granted = {seat} ∧ value.Shows seat) :
    client.Consistent { state with mcp, returned := state.returned ++ values } where
  reachable := consistent.reachable
  underWay := consistent.underWay
  single := consistent.single
  reserved := consistent.reserved
  tokens value listed := by
    rcases List.mem_append.mp listed with earlier | new
    · exact consistent.tokens value earlier
    · exact shown value new

theorem deliver_consistent (fresh : client.service.env.NeverRepeats)
    (consistent : client.Consistent state) (asks : client.Asks request)
    (asked : request.admission = some admission) {now : Int}
    (arrives : client.MayArrive state admission.nonce now) :
    client.Consistent (state.deliver client.service now request) ∧
      ∀ tokens, (client.service.serve now state.system request).2.tokens = some tokens →
        ∃ seat, (state.deliver client.service now request).granted = {seat} ∧ seat.Bears tokens := by
  simp only [Deployment.deliver]
  obtain refused | served := client.service.serve_cases now state.system asked
  · rw [refused]
    refine ⟨?_, fun _ impossible => by cases impossible⟩
    simpa [SessionManager.newSeats] using consistent
  · rw [served]
    have reachable := consistent.reachable.step (admission.action now)
    rcases consistent.single with none | ⟨seat, only⟩
    · obtain ⟨nothing, silent⟩ | ⟨seat, tokens, added, given, bears, reserves⟩ :=
        Admission.step_grants fresh consistent.reachable now (arrives.unused none)
      · rw [nothing, Finset.union_empty, silent]
        exact ⟨consistent.acted fresh _, fun _ impossible => by cases impossible⟩
      · rw [added, none, Finset.empty_union, given]
        refine ⟨consistent.moved reachable ?_ (.inr ⟨seat, rfl⟩) ?_, ?_⟩
        · intro other only
          simp [none] at only
        · intro other granted carries another wanted asksOther askedOther
          cases Finset.mem_singleton.mp granted
          cases (asked.symm.trans (asks.alike carries asksOther)).trans askedOther
          exact reserves (asks.keyed carries asked)
        · rintro _ ⟨⟩
          exact ⟨seat, rfl, bears⟩
    · have here : seat ∈ state.granted := by simp [only]
      have carries := arrives.carried (by simp [only])
      have reserves := consistent.reserved seat here carries request admission asks asked
      have keeps : ∀ create, admission = .create create →
          state.system.manager.Keeps client.service.env now seat := by
        rintro create rfl
        exact arrives.kept (asks.created asked) seat here
      obtain ⟨nothing, told⟩ :=
        Admission.step_repeats fresh consistent.reachable now reserves keeps
      rw [nothing, Finset.union_empty]
      exact ⟨consistent.acted fresh _, fun tokens given => ⟨seat, only, told tokens given⟩⟩

end Delivery

theorem item_pyDict_cons (name key : String) (value : PyValue) (rest : List (String × PyValue)) :
    (pyDict ((name, value) :: rest)).item key =
      if py name = py key then .ok value else (pyDict rest).item key := by
  simp only [pyDict, List.map_cons, PyValue.item, PyValue.find]
  split_ifs
  · rfl
  · rfl

theorem created_shows (python : Python) (request : CreateSessionRequest) (creatorToken : PyValue)
    (response : CreateSessionResponse) {seat : Seat}
    (bears : seat.Bears (some response.invitationToken, response.participantToken)) :
    (successResult python (.createSession request creatorToken) response).Shows seat := by
  have invited := bears.invitation _ rfl
  have same := bears.token
  constructor
  · simp only [successResult, item_pyDict_cons]
    rw [if_neg (by decide), if_neg (by decide), if_neg (by decide), if_true, same]
  · intro held found
    simp only [successResult, item_pyDict_cons] at found
    rw [if_neg (by decide), if_true] at found
    cases found
    rw [invited]

theorem joined_shows (python : Python) (request : JoinSessionRequest)
    (response : JoinSessionResponse) {seat : Seat}
    (bears : seat.Bears (none, response.participantToken)) :
    (successResult python (.joinSession request) response).Shows seat := by
  have same := bears.token
  constructor
  · simp only [successResult, item_pyDict_cons]
    rw [if_neg (by decide), if_neg (by decide), if_neg (by decide), if_neg (by decide), if_true,
      same]
  · intro held found
    simp only [successResult, item_pyDict_cons] at found
    rw [if_neg (by decide), if_neg (by decide), if_neg (by decide), if_neg (by decide),
      if_neg (by decide), if_neg (by decide)] at found
    cases found

theorem Reply.tokens_of_created {lost : PyException} {reply : Reply}
    {response : CreateSessionResponse} (received : reply.created lost = .ok response) :
    reply.tokens = some (some response.invitationToken, response.participantToken) := by
  unfold created at received
  split at received
  next =>
    cases received
    rfl
  next => cases received
  next => cases received

theorem Reply.tokens_of_joined {lost : PyException} {reply : Reply} {response : JoinSessionResponse}
    (received : reply.joined lost = .ok response) :
    reply.tokens = some (none, response.participantToken) := by
  unfold joined at received
  split at received
  next =>
    cases received
    rfl
  next => cases received
  next => cases received

theorem Attempt.receive_ok {Response : Type} {attempt : Attempt}
    {answer : Except PyException Response} {response : Response}
    (received : attempt.receive answer = .ok response) :
    attempt.reaches = true ∧ answer = .ok response := by
  unfold receive at received
  split_ifs at received with both
  exact ⟨both.1, received⟩

-- An answer that a call receives was given by the service, and is returned as it is.
theorem Attempt.rpc_ok {service : Service} {attempt : Attempt} {system : System}
    {request : RpcRequest} {admission : Admission} {response : request.Response}
    (asked : request.admission = some admission)
    (received : attempt.rpc service system request = .ok response) :
    attempt.reaches = true ∧ ∃ tokens,
      (service.serve attempt.now system request).2.tokens = some tokens ∧
      ∀ python seat, seat.Bears tokens → (successResult python request response).Shows seat := by
  cases request with
  | createSession create provided =>
    obtain ⟨reaches, created⟩ := receive_ok received
    exact ⟨reaches, _, Reply.tokens_of_created created,
      fun python seat bears => created_shows python create provided response bears⟩
  | joinSession join =>
    obtain ⟨reaches, joined⟩ := receive_ok received
    exact ⟨reaches, _, Reply.tokens_of_joined joined,
      fun python seat bears => joined_shows python join response bears⟩
  | _ => cases asked

section Runs

variable {client : Client} {state : Deployment}

theorem send_consistent (fresh : client.service.env.NeverRepeats)
    (consistent : client.Consistent state) {attempt : Attempt}
    (permits : client.Permits state (.attempt attempt)) {calls : List RpcRequest}
    (tried : Tried (client.tool.build client.agent.python attempt.network.uuid client.arguments)
      state.mcp.calls calls) :
    client.Consistent (state.send client attempt (calls.drop state.mcp.calls.length)) := by
  obtain rfl | ⟨backend, request, built, rfl⟩ := tried
  · simpa [Deployment.send] using consistent
  · rw [List.drop_left, Deployment.send]
    split_ifs with reaches
    · obtain ⟨admission, asked, requested⟩ := AdmissionTool.build_ok built
      exact (deliver_consistent fresh consistent ⟨_, backend, built⟩ asked
        (permits reaches _ requested)).1
    · refine ⟨consistent.reachable, ?_, consistent.single, consistent.reserved, consistent.tokens⟩
      intro other listed
      rcases List.mem_append.mp listed with earlier | last
      · exact consistent.underWay other earlier
      · cases List.mem_singleton.mp last
        exact ⟨_, backend, built⟩

theorem send_shows (fresh : client.service.env.NeverRepeats)
    (consistent : client.Consistent state) {attempt : Attempt}
    (permits : client.Permits state (.attempt attempt)) {backend : PyValue} {request : RpcRequest}
    (built : client.tool.build client.agent.python attempt.network.uuid client.arguments backend =
      .ok request) {response : request.Response}
    (received : attempt.rpc client.service state.system request = .ok response) :
    ∃ seat, (state.send client attempt [request]).granted = {seat} ∧
      (successResult client.agent.python request response).Shows seat := by
  obtain ⟨admission, asked, requested⟩ := AdmissionTool.build_ok built
  obtain ⟨reaches, tokens, told, shows⟩ := Attempt.rpc_ok asked received
  obtain ⟨-, granted⟩ := deliver_consistent fresh consistent ⟨_, backend, built⟩ asked
    (permits reaches _ requested)
  obtain ⟨seat, only, bears⟩ := granted tokens told
  refine ⟨seat, ?_, shows _ seat bears⟩
  rw [Deployment.send, if_pos reaches]
  exact only

theorem attempt_consistent (fresh : client.service.env.NeverRepeats)
    (consistent : client.Consistent state) {attempt : Attempt}
    (permits : client.Permits state (.attempt attempt)) :
    client.Consistent (state.attempt client attempt) := by
  have handled : Tool.handler client.agent (attempt.call client state.system) =
      runCached client.agent (attempt.call client state.system)
        (client.tool.build client.agent.python attempt.network.uuid client.arguments) :=
    AdmissionTool.handler_eq rfl
  have told := callTool_told handled state.mcp rfl
  unfold Deployment.attempt
  generalize (callTool client.agent (attempt.call client state.system)).exec state.mcp = outcome
    at told ⊢
  obtain ⟨raised | value, mcp⟩ := outcome
  · have next := send_consistent fresh consistent permits told
    exact next.returning mcp (by simp [Except.toOption])
  · obtain ⟨tried, tokenless⟩ | ⟨backend, request, response, built, sent, received, rfl⟩ := told
    · have next := send_consistent fresh consistent permits tried
      apply next.returning mcp
      intro value returned
      cases List.mem_singleton.mp returned
      exact .inl tokenless
    · have next := send_consistent fresh consistent permits (.inr ⟨backend, request, built, sent⟩)
      apply next.returning mcp
      intro value returned
      cases List.mem_singleton.mp returned
      rw [sent, List.drop_left]
      exact .inr (send_shows fresh consistent permits built received)

theorem arrive_consistent (fresh : client.service.env.NeverRepeats)
    (consistent : client.Consistent state) {index : Nat} {now : Int}
    (permits : client.Permits state (.arrival index now)) :
    client.Consistent (state.arrive client index now) := by
  unfold Deployment.arrive
  split
  next => exact consistent
  next request here =>
    have asks := consistent.underWay request (List.mem_of_getElem? here)
    obtain ⟨uuid, backend, built⟩ := asks
    obtain ⟨admission, asked, -⟩ := AdmissionTool.build_ok built
    have next := (deliver_consistent fresh consistent ⟨uuid, backend, built⟩ asked
      (permits request admission here asked)).1
    refine ⟨next.reachable, ?_, next.single, next.reserved, next.tokens⟩
    exact fun other listed => consistent.underWay other (List.mem_of_mem_eraseIdx listed)

theorem step_consistent (fresh : client.service.env.NeverRepeats)
    (happening : Happening) (permits : client.Permits state happening)
    (consistent : client.Consistent state) : client.Consistent (state.step client happening) := by
  cases happening with
  | attempt attempt => exact attempt_consistent fresh consistent permits
  | arrival index now => exact arrive_consistent fresh consistent permits
  | server action => exact consistent.acted fresh action
  | toolCall call =>
    exact ⟨consistent.reachable, consistent.underWay, consistent.single, consistent.reserved,
      consistent.tokens⟩

end Runs

theorem Client.Consistent.initial (client : Client) : client.Consistent {} where
  reachable := ⟨[], rfl⟩
  underWay := by simp
  single := .inl rfl
  reserved := by simp
  tokens := by simp

/-- In every run where no request arrives after a grant, or the arguments have a nonce of their
own, repeated admissions are exactly-once. -/
theorem retries_exactly_once_of_permitted (client : Client) (fresh : client.service.env.NeverRepeats)
    (run : List Happening)
    (permitted : (retryMachine client).Allowed client.Permits (retryMachine client).initial run)
    (earlier later : List Happening) (split : run = earlier ++ later) :
    ExactlyOnce ((retryMachine client).after (retryMachine client).initial earlier) := by
  subst split
  obtain ⟨before, -⟩ := ((retryMachine client).allowed_append _ _ _).mp permitted
  have consistent := (retryMachine client).allowed_preserves client.Permits client.Consistent
    (fun _ happening permits consistent => step_consistent fresh happening permits consistent)
    _ (.initial client) earlier before
  exact consistent.exactlyOnce

def calendarAgent (tool : AdmissionTool) (arguments : List (String × PyValue)) : Client where
  agent := ⟨plainPython, none⟩
  service := { env := calendarEnv }
  tool := tool
  arguments := pyDict arguments

def servedAttempt (uuid : String) (answered : Bool) : Attempt where
  now := 0
  file := .present 1 (some attestedBackends)
  laterFile := .present 1 (some attestedBackends)
  network := { attestingNetwork with uuid := py uuid }
  reaches := true
  answered := answered
  lost := .rpcError .UNAVAILABLE (py "Socket closed")

-- The first answer is lost, and the call is made again.
def lostAnswer : List Happening :=
  [.attempt (servedAttempt "a0eebc99-9c0b-4ef8-bb6d-6bb9bd380a11" false),
    .attempt (servedAttempt "b0eebc99-9c0b-4ef8-bb6d-6bb9bd380a11" true)]

-- The first request is lost on its way.
def lostRequest : List Happening :=
  [.attempt { servedAttempt "a0eebc99-9c0b-4ef8-bb6d-6bb9bd380a11" false with reaches := false },
    .attempt (servedAttempt "b0eebc99-9c0b-4ef8-bb6d-6bb9bd380a11" true)]

def calendarArguments : List (String × PyValue) :=
  [("policy_class", pyText "calendar"), ("expected_participants", .int 2)]

def calendarCreator : Client := calendarAgent .create calendarArguments

def calendarJoiner : Client := calendarAgent .join [("invitation_token", pyText "aaa")]

-- Somebody else creates the session that the client joins.
def invitedLostAnswer : List Happening :=
  .server (.createSession 0
    { policy := { policyClass := "calendar", expectedParticipants := 3 } }) :: lostAnswer

def keyedCreator : Client := calendarAgent .create
  (calendarArguments ++ [("client_nonce", pyText "c0eebc99-9c0b-4ef8-bb6d-6bb9bd380a11")])

theorem keyedCreator_carriesNonce : keyedCreator.arguments.CarriesNonce :=
  ⟨pyText "c0eebc99-9c0b-4ef8-bb6d-6bb9bd380a11", "c0eebc99-9c0b-4ef8-bb6d-6bb9bd380a11",
    rfl, rfl, by decide⟩

-- With a nonce of its own the lost answer costs nothing; without, the request that fails must not
-- arrive.
theorem creation_exactly_once :
    (ExactlyOnce ((retryMachine keyedCreator).after (retryMachine keyedCreator).initial lostAnswer) ∧
      ((retryMachine keyedCreator).after (retryMachine keyedCreator).initial
        lostAnswer).granted = {⟨"a", "aaa", "aa"⟩}) ∧
    (ExactlyOnce ((retryMachine calendarCreator).after (retryMachine calendarCreator).initial
        lostRequest) ∧
      ((retryMachine calendarCreator).after (retryMachine calendarCreator).initial
        lostRequest).granted = {⟨"a", "aaa", "aa"⟩}) := by
  constructor
  · refine ⟨retries_exactly_once_of_permitted keyedCreator (countingEnv_neverRepeats _) lostAnswer ?_
      lostAnswer [] rfl, by decide +kernel⟩
    refine ⟨fun _ nonce _ => ?_, fun _ nonce _ => ?_, trivial⟩
    · refine ⟨fun _ => ⟨rfl, fun _ _ impossible => ?_⟩, fun some => absurd rfl some,
        fun _ seat none => ?_⟩
      · cases impossible
      · cases none
    · have granted : ((retryMachine keyedCreator).step (retryMachine keyedCreator).initial
          (.attempt (servedAttempt "a0eebc99-9c0b-4ef8-bb6d-6bb9bd380a11" false))).1.granted =
            {⟨"a", "aaa", "aa"⟩} := by decide +kernel
      refine ⟨fun none => ?_, fun _ => keyedCreator_carriesNonce, fun _ seat held => ?_⟩
      · simp [granted] at none
      · rw [granted] at held
        cases Finset.mem_singleton.mp held
        have survives : ((((retryMachine keyedCreator).step (retryMachine keyedCreator).initial
            (.attempt (servedAttempt "a0eebc99-9c0b-4ef8-bb6d-6bb9bd380a11"
              false))).1.system.manager.sessions.lookup "a").bind
                (Session.swept calendarEnv 0)).isSome = true := by decide +kernel
        exact SessionManager.kept_of_isSome survives
  · refine ⟨retries_exactly_once_of_permitted calendarCreator (countingEnv_neverRepeats _)
      lostRequest ?_ lostRequest [] rfl, by decide +kernel⟩
    refine ⟨nofun, fun _ nonce _ => ?_, trivial⟩
    refine ⟨fun _ => ⟨rfl, fun _ _ impossible => ?_⟩, fun some => absurd rfl some,
      fun _ seat none => ?_⟩
    · cases impossible
    · cases none

/-- With arguments as the schemas have them, a lost answer costs a second session, or a second
slot of the invited one. -/
theorem lost_answer_grants_twice :
    ¬ ExactlyOnce ((retryMachine calendarCreator).after (retryMachine calendarCreator).initial
        lostAnswer) ∧
      ¬ ExactlyOnce ((retryMachine calendarJoiner).after (retryMachine calendarJoiner).initial
        invitedLostAnswer) := by
  constructor
  · intro once
    have twice : ((retryMachine calendarCreator).after (retryMachine calendarCreator).initial
        lostAnswer).granted.card = 2 := by decide +kernel
    have single := once.single
    omega
  · intro once
    have twice : ((retryMachine calendarJoiner).after (retryMachine calendarJoiner).initial
        invitedLostAnswer).granted.card = 2 := by decide +kernel
    have single := once.single
    omega

end Ztab
