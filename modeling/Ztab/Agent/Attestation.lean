import Ztab.Agent.McpServer
import Ztab.Shared.Trace

set_option autoImplicit false

/-!
# No RPC without attestation

Outside a test environment every channel that an RPC is made on was connected after
its own verifier had said True, and that verifier came from a validated ITA policy.
Where a call connects to depends on the configuration and on its `backend` alone.
-/

namespace Ztab

open Effect

def Event.channel : Event → Nat
  | .verified channel _ _ | .connected channel _ | .called channel _ => channel

def Event.Reason (earlier : List Event) : Event → Prop
  | .verified channel _ _ => ∀ event ∈ earlier, event.channel ≠ channel
  | .connected channel target => ∃ prior policy,
      earlier = prior ++ [.verified channel (.itaVerifier policy) true] ∧
        target.policy = .ita policy ∧ policy.Sound
  | .called channel _ => ∃ target, .connected channel target ∈ earlier

structure Attested (state : McpState) : Prop where
  explained : Trace.Explained Event.Reason state.history
  numbered : ∀ event ∈ state.history, event.channel < state.channels
  cached : ∀ entry ∈ state.channelCache, .connected entry.2.number entry.2.target ∈ state.history

structure Guarded (base : List Event) (resolved : Target → Prop) (state : McpState) : Prop
    extends Attested state where
  opened : ∀ channel target, .connected channel target ∈ state.history →
    .connected channel target ∈ base ∨ resolved target

-- A channel is being connected: its number is taken and in no event yet.
structure Numbered (base : List Event) (resolved : Target → Prop) (number : Nat)
    (state : McpState) : Prop where
  guarded : Guarded base resolved state
  taken : number < state.channels
  unused : ∀ event ∈ state.history, event.channel ≠ number

section Guarded

variable {base : List Event} {resolved : Target → Prop} {state : McpState}

theorem Attested.initial : Attested {} where
  explained := Trace.explained_nil _
  numbered := by simp
  cached := by simp

namespace Guarded

theorem record (guarded : Guarded base resolved state) {event : Event}
    (because : event.Reason state.history) (numbered : event.channel < state.channels)
    (opened : ∀ channel target, event = .connected channel target → resolved target) :
    Guarded base resolved { state with history := state.history ++ [event] } where
  explained := Trace.explained_concat _ guarded.explained because
  numbered other listed := by
    rcases List.mem_append.mp listed with earlier | last
    · exact guarded.numbered other earlier
    · rw [List.mem_singleton.mp last]
      exact numbered
  cached entry listed := List.mem_append_left _ (guarded.cached entry listed)
  opened channel target listed := by
    rcases List.mem_append.mp listed with earlier | last
    · exact guarded.opened channel target earlier
    · exact .inr (opened channel target (List.mem_singleton.mp last).symm)

theorem recache (guarded : Guarded base resolved state) {cache : List (PyValue × ZtabChannel)}
    (kept : ∀ entry ∈ cache, entry ∈ state.channelCache ∨
      .connected entry.2.number entry.2.target ∈ state.history)
    (config : Option PyValue) (mtimeNs : Int) :
    Guarded base resolved { state with
      channelCache := cache, backendsConfig := config, backendsMtimeNs := mtimeNs } where
  explained := guarded.explained
  numbered := guarded.numbered
  cached entry listed := (kept entry listed).elim (guarded.cached entry) id
  opened := guarded.opened

theorem number (guarded : Guarded base resolved state) :
    Numbered base resolved state.channels { state with channels := state.channels + 1 } where
  guarded :=
    { explained := guarded.explained
      numbered := fun event listed => Nat.lt_succ_of_lt (guarded.numbered event listed)
      cached := guarded.cached
      opened := guarded.opened }
  taken := Nat.lt_succ_self _
  unused event listed := (guarded.numbered event listed).ne

end Guarded

end Guarded

def loadedConfig (env : AgentEnv) (file : FileView) (state : McpState) : Option PyValue :=
  match (getBackends env file).exec state with
  | (.ok config, _) => config
  | (.error _, _) => none

def Resolves (python : Python) (config : Option PyValue) (backendId : PyValue) (target : Target) :
    Prop :=
  ∃ backend, lookupBackend python config backendId = .ok backend ∧
    backendHost backend = .ok target.host ∧ backendPort python backend = .ok target.port ∧
    buildPolicyFromBackend python backend = .ok target.policy

theorem Resolves.unique {python : Python} {config : Option PyValue} {backendId : PyValue}
    {target other : Target} (resolves : Resolves python config backendId target)
    (resolvesOther : Resolves python config backendId other) : target = other := by
  obtain ⟨backend, found, host, port, policy⟩ := resolves
  obtain ⟨backend', found', host', port', policy'⟩ := resolvesOther
  cases found.symm.trans found'
  cases target
  cases other
  simp_all

def Reaches (env : AgentEnv) (file : FileView) (arguments : PyValue) (start : McpState)
    (target : Target) : Prop :=
  ∃ backendId, arguments.get "backend" = .ok backendId ∧
    Resolves env.python (loadedConfig env file start) backendId target

section Gate

variable {env : AgentEnv} {base : List Event} {resolved : Target → Prop}

theorem getBackends_guarded (env : AgentEnv) (file : FileView) :
    Ensures (Guarded base resolved) (getBackends env file) (fun _ => Guarded base resolved)
      (Guarded base resolved) := by
  cases file with
  | absent => exact ensures_pure fun _ guarded => guarded
  | inaccessible => exact ensures_throw fun _ guarded => guarded
  | present mtimeNs content =>
    apply ensures_bind_get
    intro state
    split
    · apply ensures_bind_ofExcept (fun _ both => both.1)
      intro newConfig loaded
      refine ensures_bind_modify (Guarded base resolved) ?_ (ensures_pure fun _ guarded => guarded)
      rintro current ⟨guarded, rfl⟩
      apply guarded.recache
      intro entry listed
      split_ifs at listed
      · cases listed
      · exact .inl listed
    · exact ensures_pure fun _ both => both.1

theorem getBackendInfo_guarded (file : FileView) (backendId : PyValue) (start : McpState) :
    Ensures (fun state => state = start ∧ Guarded base resolved state)
      (getBackendInfo env file backendId)
      (fun backend state => lookupBackend env.python (loadedConfig env file start) backendId =
        .ok backend ∧ Guarded base resolved state)
      (Guarded base resolved) := by
  have loads : Ensures (fun state => state = start ∧ Guarded base resolved state)
      (getBackends env file) (fun config state => config = loadedConfig env file start ∧
        Guarded base resolved state) (Guarded base resolved) := by
    rintro state ⟨rfl, guarded⟩
    have both := getBackends_guarded env file state guarded
    unfold loadedConfig
    generalize (getBackends env file).exec state = outcome at both ⊢
    obtain ⟨_ | config, after⟩ := outcome
    · exact both
    · exact ⟨rfl, both⟩
  apply ensures_bind loads
  intro config
  apply ensures_ofExcept
  · rintro backend found state ⟨rfl, guarded⟩
    exact ⟨found, guarded⟩
  · exact fun _ both => both.2

theorem commonArgs_guarded (file : FileView) (arguments : PyValue) (start : McpState) :
    Ensures (fun state => state = start ∧ Guarded base resolved state)
      (commonArgs env file arguments)
      (fun target state => Reaches env file arguments start target ∧ Guarded base resolved state)
      (Guarded base resolved) := by
  apply ensures_bind_ofExcept fun _ both => both.2
  intro backendId given
  apply ensures_bind (getBackendInfo_guarded file backendId start)
  intro backend
  apply ensures_bind_ofExcept fun _ both => both.2
  intro host hosted
  apply ensures_bind_ofExcept fun _ both => both.2
  intro port ported
  apply ensures_bind_ofExcept fun _ both => both.2
  intro policy built
  apply ensures_pure
  rintro state ⟨found, guarded⟩
  exact ⟨⟨backendId, given, backend, found, hosted, ported, built⟩, guarded⟩

theorem connect_guarded (network : Network) (number : Nat) {target : Target} {policy : ItaPolicy}
    (wanted : resolved target) (made : target.policy = .ita policy) (sound : policy.Sound) :
    Ensures (Numbered base resolved number)
      (connect env network number target (.itaVerifier policy))
      (fun channel state => Guarded base resolved state ∧
        .connected channel.number channel.target ∈ state.history)
      (Guarded base resolved) := by
  apply ensures_bind_ofExcept fun _ numbered => numbered.guarded
  intro certPem fetched
  apply ensures_bind_ofExcept fun _ numbered => numbered.guarded
  intro extracted held
  cases extracted with
  | none => exact ensures_throw fun _ numbered => numbered.guarded
  | some token =>
    apply ensures_bind_ofExcept fun _ numbered => numbered.guarded
    intro verdict said
    -- The verdict stands in the history before anything is done with it.
    apply ensures_bind_modify fun state => Guarded base resolved state ∧ number < state.channels ∧
      ∃ prior, state.history = prior ++ [.verified number (.itaVerifier policy) verdict]
    · intro state numbered
      refine ⟨numbered.guarded.record numbered.unused numbered.taken ?_, numbered.taken, _, rfl⟩
      intro channel other impossible
      cases impossible
    · split
      next accepted =>
        apply ensures_bind_ofExcept fun _ verified => verified.1
        intro _ opened
        apply ensures_bind_modify fun state => Guarded base resolved state ∧
          .connected number target ∈ state.history
        · rintro state ⟨guarded, taken, prior, verified⟩
          refine ⟨guarded.record ⟨prior, policy, ?_, made, sound⟩ taken ?_, by simp⟩
          · rw [verified, accepted]
          · intro channel other same
            cases same
            exact wanted
        · exact ensures_pure fun _ connected => connected
      next => exact ensures_throw fun _ verified => verified.1

theorem getStub_guarded (production : env.isTest = false) (network : Network) {target : Target}
    (wanted : resolved target) :
    Ensures (Guarded base resolved) (getStub env network target)
      (fun channel state => Guarded base resolved state ∧
        .connected channel.number channel.target ∈ state.history)
      (Guarded base resolved) := by
  apply ensures_bind_ofExcept fun _ guarded => guarded
  intro verifier gated
  obtain ⟨policy, made, rfl, sound⟩ := getVerifier_ok production gated
  apply ensures_bind_get
  intro state
  refine ensures_bind_modify (Numbered base resolved state.channels) ?_
    (connect_guarded network state.channels wanted made sound)
  rintro current ⟨guarded, rfl⟩
  exact guarded.number

theorem mem_of_cacheFind {bid : PyValue} {cache : List (PyValue × ZtabChannel)} {channel : ZtabChannel}
    (found : cacheFind bid cache = some channel) : ∃ key, (key, channel) ∈ cache := by
  obtain ⟨⟨key, held⟩, listed, rfl⟩ := Option.map_eq_some_iff.mp found
  exact ⟨key, List.mem_of_find?_eq_some listed⟩

theorem getCachedStub_guarded (production : env.isTest = false) (file : FileView)
    (network : Network) (arguments : PyValue) (start : McpState) :
    Ensures (fun state => state = start ∧ Guarded base (Reaches env file arguments start) state)
      (getCachedStub env file network arguments)
      (fun answer state => Guarded base (Reaches env file arguments start) state ∧
        .connected answer.1.number answer.1.target ∈ state.history)
      (Guarded base (Reaches env file arguments start)) := by
  apply ensures_bind_ofExcept fun _ both => both.2
  intro backendId given
  apply ensures_bind (getBackendInfo_guarded file backendId start)
  intro backend
  apply ensures_bind_ofExcept fun _ both => both.2
  intro bid held
  apply ensures_bind_ofExcept fun _ both => both.2
  intro _ hashed
  apply ensures_bind_get
  intro state
  split
  next channel found =>
    apply ensures_pure
    rintro current ⟨⟨-, guarded⟩, rfl⟩
    obtain ⟨key, listed⟩ := mem_of_cacheFind found
    exact ⟨guarded, guarded.cached _ listed⟩
  next =>
    apply ensures_bind_ofExcept fun _ both => both.1.2
    intro policy built
    apply ensures_bind_ofExcept fun _ both => both.1.2
    intro host hosted
    apply ensures_bind_ofExcept fun _ both => both.1.2
    intro port ported
    have connects : Ensures (fun current => (lookupBackend env.python (loadedConfig env file start)
        backendId = .ok backend ∧ Guarded base (Reaches env file arguments start) current) ∧
          current = state)
        (getStub env network ⟨host, port, policy⟩)
        (fun channel current => Guarded base (Reaches env file arguments start) current ∧
          .connected channel.number channel.target ∈ current.history)
        (Guarded base (Reaches env file arguments start)) := by
      rintro current ⟨⟨found, guarded⟩, -⟩
      have reaches : Reaches env file arguments start ⟨host, port, policy⟩ :=
        ⟨backendId, given, backend, found, hosted, ported, built⟩
      exact getStub_guarded production network reaches current guarded
    apply ensures_bind connects
    intro channel
    apply ensures_bind_modify fun state => Guarded base (Reaches env file arguments start) state ∧
      .connected channel.number channel.target ∈ state.history
    · rintro state ⟨guarded, connected⟩
      refine ⟨guarded.recache (fun entry listed => ?_) _ _, connected⟩
      rcases List.mem_append.mp listed with earlier | last
      · exact .inl earlier
      · rw [List.mem_singleton.mp last]
        exact .inr connected
    · exact ensures_pure fun _ both => both

theorem evictBackend_guarded (file : FileView) (arguments : PyValue) :
    Ensures (Guarded base resolved) (evictBackend env file arguments)
      (fun _ => Guarded base resolved) (Guarded base resolved) := by
  apply ensures_from
  intro start
  apply ensures_bind_ofExcept fun _ both => both.2
  intro backendId given
  apply ensures_bind (getBackendInfo_guarded file backendId start)
  intro backend
  apply ensures_bind_ofExcept fun _ both => both.2
  intro bid held
  apply ensures_bind_ofExcept fun _ both => both.2
  rintro _ hashed current ⟨-, kept⟩
  exact kept.recache (fun entry listed => .inl (List.mem_of_mem_filter listed)) _ _

theorem callRpc_guarded (network : Network) (channel : ZtabChannel) (request : RpcRequest) :
    Ensures (fun state => Guarded base resolved state ∧
        .connected channel.number channel.target ∈ state.history)
      (callRpc network channel request) (fun _ => Guarded base resolved)
      (Guarded base resolved) := by
  apply ensures_bind_modify (Guarded base resolved)
  · rintro state ⟨guarded, connected⟩
    have taken := guarded.numbered _ connected
    refine guarded.record ⟨channel.target, connected⟩ taken ?_
    intro other target impossible
    cases impossible
  · exact ensures_ofExcept (fun _ _ _ guarded => guarded) fun _ guarded => guarded

def ToolCall.GuardedFrom (env : AgentEnv) (call : ToolCall) (start : McpState) : McpState → Prop :=
  Guarded start.history (Reaches env call.file call.arguments start)

theorem runCached_guarded (production : env.isTest = false) (call : ToolCall)
    (build : PyValue → Except PyException RpcRequest) (start : McpState) :
    Ensures (fun state => state = start ∧ call.GuardedFrom env start state) (runCached env call build)
      (fun _ => call.GuardedFrom env start) (call.GuardedFrom env start) := by
  apply ensures_bind (getCachedStub_guarded production call.file call.network call.arguments start)
  rintro ⟨channel, backend⟩
  apply ensures_tryCatch (call.GuardedFrom env start)
  · apply ensures_bind_ofExcept fun _ both => both.1
    intro request built
    apply ensures_bind (callRpc_guarded call.network channel request)
    intro response
    exact ensures_pure fun _ guarded => guarded
  · intro raised
    split
    next code details =>
      split
      · apply ensures_bind (evictBackend_guarded call.laterFile call.arguments)
        intro _
        exact ensures_pure fun _ guarded => guarded
      · exact ensures_pure fun _ guarded => guarded
    next => exact ensures_throw fun _ guarded => guarded

theorem runConnectivityTest_guarded (production : env.isTest = false) (network : Network)
    {target : Target} (wanted : resolved target) (message : PyValue) :
    Ensures (Guarded base resolved) (runConnectivityTest env network target message)
      (fun _ => Guarded base resolved) (Guarded base resolved) := by
  apply ensures_bind (getStub_guarded production network wanted)
  intro channel
  apply ensures_tryCatch (Guarded base resolved)
  · apply ensures_bind_ofExcept fun _ both => both.1
    intro text encoded
    apply ensures_bind (callRpc_guarded network channel (.echo text))
    intro response
    exact ensures_pure fun _ guarded => guarded
  · intro raised
    split
    · exact ensures_pure fun _ guarded => guarded
    · exact ensures_pure fun _ guarded => guarded

theorem handler_guarded (production : env.isTest = false) (call : ToolCall) (start : McpState) :
    Ensures (fun state => state = start ∧ call.GuardedFrom env start state) (Tool.handler env call)
      (fun _ => call.GuardedFrom env start) (call.GuardedFrom env start) := by
  unfold Tool.handler
  split
  next =>
    apply ensures_bind ((getBackends_guarded env call.file).mono (fun _ both => both.2)
      (fun _ _ guarded => guarded) fun _ guarded => guarded)
    intro config
    dsimp only
    split
    · exact ensures_pure fun _ guarded => guarded
    · exact ensures_ofExcept (fun _ _ _ guarded => guarded) fun _ guarded => guarded
  next =>
    apply ensures_bind (commonArgs_guarded call.file call.arguments start)
    intro target
    apply ensures_bind_ofExcept fun _ both => both.2
    rintro message given state ⟨reaches, guarded⟩
    exact runConnectivityTest_guarded production call.network reaches message state guarded
  all_goals exact runCached_guarded production call _ start

theorem callTool_guarded (production : env.isTest = false) (call : ToolCall) (start : McpState) :
    Ensures (fun state => state = start ∧ call.GuardedFrom env start state) (callTool env call)
      (fun _ => call.GuardedFrom env start) (call.GuardedFrom env start) := by
  apply ensures_bind_ofExcept fun _ both => both.2
  intro refused checked
  cases refused with
  | some answer => exact ensures_pure fun _ both => both.2
  | none =>
    apply ensures_tryCatch (call.GuardedFrom env start) (handler_guarded production call start)
    intro raised
    split
    · exact ensures_pure fun _ guarded => guarded
    · exact ensures_pure fun _ guarded => guarded

-- One call: the invariant is kept, and what is connected to is what the arguments stand for.
theorem step_guardedFrom (production : env.isTest = false) (call : ToolCall) {start : McpState}
    (attested : Attested start) : call.GuardedFrom env start ((mcpMachine env).step start call).1 := by
  have guarded : call.GuardedFrom env start start := ⟨attested, fun _ _ listed => .inl listed⟩
  exact (callTool_guarded production call start).leaves ⟨rfl, guarded⟩

end Gate

theorem attested_of_reachable {env : AgentEnv} (production : env.isTest = false) {state : McpState}
    (reachable : (mcpMachine env).Reachable state) : Attested state :=
  (mcpMachine env).reachable_invariant Attested .initial
    (fun _ call attested => (step_guardedFrom production call attested).toAttested) state reachable

/-- The channel's connect ran its verifier, made from a sound ITA policy, and the verifier said
True before the channel was there. -/
def AttestedChannel (trace : List Event) (channel : Nat) : Prop :=
  ∃ prior policy target between,
    trace = prior ++ .verified channel (.itaVerifier policy) true ::
      .connected channel target :: between ∧
    (∀ event ∈ prior, event.channel ≠ channel) ∧ target.policy = .ita policy ∧ policy.Sound

theorem Attested.channel {state : McpState} (attested : Attested state) {earlier later : List Event}
    {channel : Nat} {request : RpcRequest}
    (split : state.history = earlier ++ .called channel request :: later) :
    AttestedChannel earlier channel := by
  obtain ⟨target, connected⟩ := attested.explained earlier _ later split
  obtain ⟨before, between, rfl⟩ := List.append_of_mem connected
  obtain ⟨prior, policy, rfl, made, sound⟩ :=
    attested.explained before (.connected channel target) (between ++ .called channel request :: later)
      (by simp [split])
  have first := attested.explained prior (.verified channel (.itaVerifier policy) true)
    (.connected channel target :: between ++ .called channel request :: later) (by simp [split])
  exact ⟨prior, policy, target, between, by simp, first, made, sound⟩

structure ResolveAlike (env : AgentEnv) (state : McpState) (call other : ToolCall) : Prop where
  common : commonArgs env call.file call.arguments = commonArgs env other.file other.arguments
  stubs : ∀ network, getCachedStub env call.file network call.arguments =
    getCachedStub env other.file network other.arguments
  targets : ∀ channel target channel' target',
    .connected channel target ∈ ((mcpMachine env).step state call).1.history →
    .connected channel target ∉ state.history →
    .connected channel' target' ∈ ((mcpMachine env).step state other).1.history →
    .connected channel' target' ∉ state.history → target = target'

/-- Every RPC of every run is made on an attested channel, and arguments other than `backend`
have no say in where it goes. -/
theorem attestation_enforced (env : AgentEnv) (production : env.testEnvironment ≠ some (py "1"))
    (state : McpState) (reachable : (mcpMachine env).Reachable state) :
    (∀ earlier channel request later,
      state.history = earlier ++ .called channel request :: later →
        AttestedChannel earlier channel) ∧
      ∀ call other : ToolCall, call.file = other.file →
        call.arguments.get "backend" = other.arguments.get "backend" →
        ResolveAlike env state call other := by
  have gated : env.isTest = false := decide_eq_false production
  have attested := attested_of_reachable gated reachable
  refine ⟨fun earlier channel request later split => attested.channel split, ?_⟩
  intro call other files backends
  constructor
  · unfold commonArgs
    rw [files, backends]
  · intro network
    unfold getCachedStub
    rw [files, backends]
  · intro channel target channel' target' opened fresh opened' fresh'
    have reaches := ((step_guardedFrom gated call attested).opened channel target opened).resolve_left
      fresh
    have reaches' := ((step_guardedFrom gated other attested).opened channel' target'
      opened').resolve_left fresh'
    obtain ⟨backendId, given, resolves⟩ := reaches
    obtain ⟨backendId', given', resolves'⟩ := reaches'
    rw [backends, given'] at given
    cases given
    rw [files] at resolves
    exact resolves.unique resolves'

def plainPython : Python where
  toDecimal _ := none
  isSpace _ := false
  str _ := []
  describe _ := []
  reprLiteral text := text
  loads _ := none

-- One backend, which asks for attestation.
def attestedBackends : PyValue :=
  pyDict [("default_backend", pyText "tee"),
    ("backends", .list [pyDict [("backend_id", pyText "tee"), ("host", pyText "localhost"),
      ("port", .int 8000), ("verifier", pyText "ita"), ("expected_digest", pyText "sha256:00")]])]

def attestingNetwork : Network where
  fetchServerCertPem _ _ := .ok []
  extractAttestationToken _ := .ok (some (py "token"))
  itaVerifier _ _ _ := .ok true
  secureChannel := .ok ()
  rpc _ := .error (.rpcError .NOT_FOUND (py "Session not found."))
  uuid := py "nonce"
  decodeJwtPayload _ := .none

def resultCall : ToolCall where
  tool := .ztab_get_result
  arguments := pyDict [("participant_token", pyText "aa")]
  file := .present 1 (some attestedBackends)
  laterFile := .present 1 (some attestedBackends)
  network := attestingNetwork

def Event.isCall : Event → Bool
  | .called _ _ => true
  | _ => false

theorem result_call_attested :
    ∃ earlier channel request,
      ((mcpMachine ⟨plainPython, none⟩).after (mcpMachine ⟨plainPython, none⟩).initial
        [resultCall]).history = earlier ++ [.called channel request] ∧
      AttestedChannel earlier channel := by
  have ends : (((mcpMachine ⟨plainPython, none⟩).after (mcpMachine ⟨plainPython, none⟩).initial
      [resultCall]).history.getLast?).map Event.isCall = some true := by decide +kernel
  obtain ⟨event, last, isCalled⟩ := Option.map_eq_some_iff.mp ends
  obtain ⟨earlier, split⟩ := List.getLast?_eq_some_iff.mp last
  cases event with
  | called channel request =>
    have enforced := attestation_enforced ⟨plainPython, none⟩ (by simp) _ ⟨[resultCall], rfl⟩
    exact ⟨earlier, channel, request, split, enforced.1 earlier channel request [] split⟩
  | _ => cases isCalled

end Ztab
