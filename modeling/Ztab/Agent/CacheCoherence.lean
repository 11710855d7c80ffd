import Ztab.Agent.Attestation

set_option autoImplicit false

/-!
# Cached channels and the backends file

A cached channel stands for the entry it was made from. The cache is flushed when one
configuration takes the place of another, but not when a configuration is read after
the file could not be: then channels of an older configuration stay in use.
-/

namespace Ztab

open Effect

/-- What a dict tells apart: all numbers that are equal are one key. -/
inductive PyKey where
  | none
  | text (value : PyStr)
  | number (value : Rat)
  | infinite (negative : Bool)
  | nan

namespace PyValue

def key : PyValue → Option PyKey
  | .none => some .none
  | .str text => some (.text text)
  | .list _ | .dict _ => Option.none
  | .float (.infinite negative) => some (.infinite negative)
  | .float .nan => some .nan
  | number => number.ratio.map fun quotient => .number (mkRat quotient.1 quotient.2)

theorem key_isSome {value : PyValue} (hashed : value.hash = .ok ()) : value.key.isSome := by
  cases value with
  | list | dict => cases hashed
  | float value => cases value <;> rfl
  | _ => rfl

-- One case for each pair of constructors; numbers are compared across the diagonal.
theorem same_iff_key {left right : PyValue} (hashed : left.key.isSome ∨ right.key.isSome) :
    left.same right = true ↔ left.key = right.key := by
  rcases left with _ | _ | _ | (_ | _ | _) | _ | _ | _ <;>
    rcases right with _ | _ | _ | (_ | _ | _) | _ | _ | _ <;>
      simp_all [same, sameNumber, key, ratio, Rat.mkRat_eq_iff]

theorem eq_iff_key {left right : PyValue} (hashed : left.key.isSome ∨ right.key.isSome) :
    left.eq right = true ↔ left.isNan = false ∧ left.key = right.key := by
  simp [eq, same_iff_key hashed]

end PyValue

theorem findBackend_congr {bid other : PyValue} (hashed : bid.key.isSome)
    (alike : bid.key = other.key) (backends : List PyValue) :
    findBackend bid backends = findBackend other backends := by
  have same (held : PyValue) : held.eq bid = held.eq other := by
    rw [Bool.eq_iff_iff, PyValue.eq_iff_key (.inr hashed), PyValue.eq_iff_key (.inr (alike ▸ hashed)),
      alike]
  induction backends with
  | nil => rfl
  | cons entry rest ih => simp only [findBackend, same, ih]

theorem findBackend_held {bid entry : PyValue} {backends : List PyValue}
    (found : findBackend bid backends = .ok (some entry)) :
    ∃ held, entry.get "backend_id" = .ok held ∧ held.eq bid = true := by
  induction backends with
  | nil => cases found
  | cons head rest ih =>
    cases held : head.get "backend_id" with
    | error raised => simp [findBackend, held, bind, Except.bind] at found
    | ok value =>
      simp only [findBackend, held, bind, Except.bind] at found
      split at found
      next alike =>
        cases found
        exact ⟨value, held, alike⟩
      next => exact ih found

-- The end of a lookup, once the id is known.
def selectBackend (python : Python) (config bid : PyValue) : Except PyException PyValue := do
  let backends ← (← config.get "backends" (.list [])).iterate
  match ← findBackend bid backends with
  | some backend => .ok backend
  | none =>
    let available ← backends.mapM fun entry => entry.get "backend_id"
    let joined ← joinComma available
    throw (.valueError (py "Unknown backend '" ++ python.str bid ++ py "'. Available backends: " ++
      joined))

theorem lookupBackend_ok {python : Python} {config : Option PyValue} {backendId backend : PyValue}
    (found : lookupBackend python config backendId = .ok backend) :
    ∃ held bid, config = some held ∧ selectBackend python held bid = .ok backend := by
  cases config with
  | none => cases found
  | some held =>
    dsimp only [lookupBackend, Option.getD_some] at found
    split_ifs at found
    · cases found
    · cases found
    · obtain ⟨bid, -, selected⟩ := bind_eq_ok.mp found
      split_ifs at selected
      · cases selected
      · exact ⟨held, bid, rfl, selected⟩
    · obtain ⟨bid, -, selected⟩ := bind_eq_ok.mp found
      split_ifs at selected
      · cases selected
      · exact ⟨held, bid, rfl, selected⟩

theorem selectBackend_ok {python : Python} {config bid backend : PyValue}
    (selected : selectBackend python config bid = .ok backend) :
    ∃ held listed, config.get "backends" (.list []) = .ok held ∧ held.iterate = .ok listed ∧
      findBackend bid listed = .ok (some backend) := by
  obtain ⟨held, got, selected⟩ := bind_eq_ok.mp selected
  obtain ⟨listed, iterated, selected⟩ := bind_eq_ok.mp selected
  obtain ⟨entry, first, selected⟩ := bind_eq_ok.mp selected
  cases entry with
  | none =>
    obtain ⟨_, -, selected⟩ := bind_eq_ok.mp selected
    obtain ⟨_, -, selected⟩ := bind_eq_ok.mp selected
    cases selected
  | some entry =>
    cases selected
    exact ⟨held, listed, got, iterated, first⟩

theorem selectBackend_key {python : Python} {config wanted backend bid : PyValue}
    (selected : selectBackend python config wanted = .ok backend)
    (held : backend.item "backend_id" = .ok bid) (hashed : bid.key.isSome) :
    bid.key = wanted.key := by
  obtain ⟨_, listed, -, -, first⟩ := selectBackend_ok selected
  obtain ⟨other, got, alike⟩ := findBackend_held first
  cases (PyValue.get_of_item held).symm.trans got
  exact ((PyValue.eq_iff_key (.inl hashed)).mp alike).2

theorem lookupBackend_same {python : Python} {config : Option PyValue}
    {backendId otherId backend other bid otherBid : PyValue}
    (found : lookupBackend python config backendId = .ok backend)
    (foundOther : lookupBackend python config otherId = .ok other)
    (held : backend.item "backend_id" = .ok bid) (heldOther : other.item "backend_id" = .ok otherBid)
    (hashed : bid.key.isSome) (alike : otherBid.same bid = true) : other = backend := by
  have keys := (PyValue.same_iff_key (.inr hashed)).mp alike
  obtain ⟨config, wanted, rfl, selected⟩ := lookupBackend_ok found
  obtain ⟨_, otherWanted, loaded, otherSelected⟩ := lookupBackend_ok foundOther
  cases loaded
  have same : otherWanted.key = wanted.key := by
    rw [← selectBackend_key selected held hashed,
      ← selectBackend_key otherSelected heldOther (keys ▸ hashed), keys]
  obtain ⟨_, listed, got, iterated, first⟩ := selectBackend_ok selected
  obtain ⟨_, _, gotOther, iteratedOther, firstOther⟩ := selectBackend_ok otherSelected
  cases got.symm.trans gotOther
  cases iterated.symm.trans iteratedOther
  have known : otherWanted.key.isSome := by
    rw [same, ← selectBackend_key selected held hashed]
    exact hashed
  rw [findBackend_congr known same, first] at firstOther
  cases firstOther
  rfl

structure MadeFrom (python : Python) (backend : PyValue) (target : Target) : Prop where
  host : backendHost backend = .ok target.host
  port : backendPort python backend = .ok target.port
  policy : buildPolicyFromBackend python backend = .ok target.policy

-- Each change gives the file a new time stamp, so the stamp decides what is in it.
def FileView.Stamped (contentAt : Int → Option PyValue) : FileView → Prop
  | .present mtimeNs content => content = contentAt mtimeNs
  | _ => True

structure Coherent (python : Python) (contentAt : Int → Option PyValue) (state : McpState) : Prop where
  stamped : ∀ config, state.backendsConfig = some config →
    contentAt state.backendsMtimeNs = some config
  current : ∀ config, state.backendsConfig = some config → ∀ entry ∈ state.channelCache,
    ∃ backendId backend, lookupBackend python (some config) backendId = .ok backend ∧
      backend.item "backend_id" = .ok entry.1 ∧ MadeFrom python backend entry.2.target
  connected : ∀ entry ∈ state.channelCache, .connected entry.2.number entry.2.target ∈ state.history
  numbered : ∀ event ∈ state.history, event.channel < state.channels
  single : ∀ number target other, .connected number target ∈ state.history →
    .connected number other ∈ state.history → target = other

structure Served (python : Python) (contentAt : Int → Option PyValue) (base : List Event)
    (wanted : Target → Prop) (state : McpState) : Prop extends Coherent python contentAt state where
  served : ∃ made, state.history = base ++ made ∧ ∀ number request,
    .called number request ∈ made → ∃ target, .connected number target ∈ state.history ∧ wanted target

section Served

variable {python : Python} {contentAt : Int → Option PyValue} {base : List Event}
  {wanted : Target → Prop} {state : McpState}

theorem Coherent.initial : Coherent python contentAt {} where
  stamped _ impossible := by cases impossible
  current _ impossible := by cases impossible
  connected := by simp
  numbered := by simp
  single := by simp

namespace Served

theorem record (served : Served python contentAt base wanted state) {event : Event}
    (numbered : event.channel < state.channels)
    (unused : ∀ number target, event = .connected number target →
      ∀ other, .connected number other ∉ state.history)
    (called : ∀ number request, event = .called number request →
      ∃ target, .connected number target ∈ state.history ∧ wanted target) :
    Served python contentAt base wanted { state with history := state.history ++ [event] } where
  stamped := served.stamped
  current := served.current
  connected entry listed := List.mem_append_left _ (served.connected entry listed)
  numbered other listed := by
    rcases List.mem_append.mp listed with earlier | last
    · exact served.numbered other earlier
    · rw [List.mem_singleton.mp last]
      exact numbered
  single number target other first second := by
    simp only [List.mem_append, List.mem_singleton] at first second
    rcases first with first | first <;> rcases second with second | second
    · exact served.single number target other first second
    · exact absurd first (unused number other second.symm target)
    · exact absurd second (unused number target first.symm other)
    · cases first.trans second.symm
      rfl
  served := by
    obtain ⟨made, grown, only⟩ := served.served
    refine ⟨made ++ [event], by simp [grown], ?_⟩
    intro number request listed
    have known : ∃ target, .connected number target ∈ state.history ∧ wanted target := by
      rcases List.mem_append.mp listed with earlier | last
      · exact only number request earlier
      · exact called number request (List.mem_singleton.mp last).symm
    obtain ⟨target, connected, reached⟩ := known
    exact ⟨target, List.mem_append_left _ connected, reached⟩

theorem number (served : Served python contentAt base wanted state) :
    Served python contentAt base wanted { state with channels := state.channels + 1 } where
  stamped := served.stamped
  current := served.current
  connected := served.connected
  numbered event listed := Nat.lt_succ_of_lt (served.numbered event listed)
  single := served.single
  served := served.served

theorem reload (served : Served python contentAt base wanted state) {config : Option PyValue}
    {mtimeNs : Int} (stamped : ∀ held, config = some held → contentAt mtimeNs = some held)
    {cache : List (PyValue × ZtabChannel)} (kept : ∀ entry ∈ cache, entry ∈ state.channelCache)
    (flushed : ∀ held, config = some held → cache = []) :
    Served python contentAt base wanted { state with
      channelCache := cache, backendsConfig := config, backendsMtimeNs := mtimeNs } where
  stamped := stamped
  current held loaded entry listed := by
    rw [flushed held loaded] at listed
    cases listed
  connected entry listed := served.connected entry (kept entry listed)
  numbered := served.numbered
  single := served.single
  served := served.served

theorem evict (served : Served python contentAt base wanted state) (keep : PyValue × ZtabChannel → Bool) :
    Served python contentAt base wanted
      { state with channelCache := state.channelCache.filter keep } where
  stamped := served.stamped
  current config loaded entry listed :=
    served.current config loaded entry (List.mem_of_mem_filter listed)
  connected entry listed := served.connected entry (List.mem_of_mem_filter listed)
  numbered := served.numbered
  single := served.single
  served := served.served

theorem cache (served : Served python contentAt base wanted state) {config backendId backend : PyValue}
    {bid : PyValue} {channel : ZtabChannel} (loaded : state.backendsConfig = some config)
    (found : lookupBackend python (some config) backendId = .ok backend)
    (held : backend.item "backend_id" = .ok bid) (made : MadeFrom python backend channel.target)
    (connected : .connected channel.number channel.target ∈ state.history) :
    Served python contentAt base wanted
      { state with channelCache := state.channelCache ++ [(bid, channel)] } where
  stamped := served.stamped
  current other loadedOther entry listed := by
    rcases List.mem_append.mp listed with earlier | last
    · exact served.current other loadedOther entry earlier
    · cases loaded.symm.trans loadedOther
      cases List.mem_singleton.mp last
      exact ⟨backendId, backend, found, held, made⟩
  connected entry listed := by
    rcases List.mem_append.mp listed with earlier | last
    · exact served.connected entry earlier
    · cases List.mem_singleton.mp last
      exact connected
  numbered := served.numbered
  single := served.single
  served := served.served

end Served

end Served

/-- Reading a configuration where none is held finds the cache empty. -/
def Flushes (env : AgentEnv) (file : FileView) (state : McpState) : Prop :=
  ∀ mtimeNs content config, file = .present mtimeNs content → mtimeNs ≠ state.backendsMtimeNs →
    loadBackendsFrom env.python content = .ok (some config) → state.backendsConfig = none →
    state.channelCache = []

theorem flushes_of_loaded {env : AgentEnv} (file : FileView) {state : McpState}
    (loaded : state.backendsConfig ≠ none) : Flushes env file state := by
  intro _ _ _ _ _ _ missing
  contradiction

theorem loadBackendsFrom_content {python : Python} {content : Option PyValue} {config : PyValue}
    (loaded : loadBackendsFrom python content = .ok (some config)) : content = some config := by
  cases content with
  | none => cases loaded
  | some held =>
    obtain ⟨_, -, same⟩ := bind_eq_ok.mp loaded
    cases same
    rfl

structure Reads (env : AgentEnv) (file : FileView) (start : McpState) (config : PyValue)
    (state : McpState) : Prop where
  loaded : loadedConfig env file start = some config
  content : ∃ mtimeNs, file = .present mtimeNs (some config)
  held : state.backendsConfig = some config

section Calls

variable {env : AgentEnv} {contentAt : Int → Option PyValue} {base : List Event}
  {wanted : Target → Prop}

theorem getBackends_served {file : FileView} (stamped : file.Stamped contentAt) :
    Ensures (fun state => Served env.python contentAt base wanted state ∧ Flushes env file state)
      (getBackends env file)
      (fun loaded state => Served env.python contentAt base wanted state ∧
        ∀ config, loaded = some config →
          state.backendsConfig = some config ∧ ∃ mtimeNs, file = .present mtimeNs (some config))
      (Served env.python contentAt base wanted) := by
  cases file with
  | absent => exact ensures_pure fun _ both => ⟨both.1, fun _ impossible => by cases impossible⟩
  | inaccessible => exact ensures_throw fun _ both => both.1
  | present mtimeNs content =>
    apply ensures_bind_get
    intro state
    split
    next changed =>
      apply ensures_bind_ofExcept fun _ both => both.1.1
      intro newConfig loaded
      have read : ∀ config, newConfig = some config → content = some config := by
        intro config same
        subst same
        exact loadBackendsFrom_content loaded
      apply ensures_bind_modify fun state => Served env.python contentAt base wanted state ∧
        state.backendsConfig = newConfig
      · rintro current ⟨⟨served, flushes⟩, rfl⟩
        refine ⟨served.reload ?_ ?_ ?_, rfl⟩
        · intro config same
          rw [← read config same]
          exact stamped.symm
        · intro entry listed
          split_ifs at listed
          · cases listed
          · exact listed
        · intro config same
          subst same
          cases held : current.backendsConfig with
          | none => simp [flushes mtimeNs content config rfl changed loaded held]
          | some older => simp
      · apply ensures_pure
        rintro current ⟨served, rfl⟩
        refine ⟨served, fun config same => ⟨same, mtimeNs, ?_⟩⟩
        rw [read config same]
    next unchanged =>
      apply ensures_pure
      rintro current ⟨⟨served, -⟩, rfl⟩
      refine ⟨served, fun config same => ⟨same, mtimeNs, ?_⟩⟩
      have known := served.stamped config same
      rw [← not_not.mp unchanged, ← stamped] at known
      rw [known]

theorem getBackendInfo_served {file : FileView} (stamped : file.Stamped contentAt)
    (backendId : PyValue) (start : McpState) :
    Ensures (fun state => state = start ∧ Served env.python contentAt base wanted state ∧
        Flushes env file state)
      (getBackendInfo env file backendId)
      (fun backend state => Served env.python contentAt base wanted state ∧ ∃ config,
        Reads env file start config state ∧
          lookupBackend env.python (some config) backendId = .ok backend)
      (Served env.python contentAt base wanted) := by
  have loads : Ensures (fun state => state = start ∧ Served env.python contentAt base wanted state ∧
        Flushes env file state)
      (getBackends env file)
      (fun loaded state => Served env.python contentAt base wanted state ∧
        ∀ config, loaded = some config → Reads env file start config state)
      (Served env.python contentAt base wanted) := by
    rintro state ⟨rfl, both⟩
    have known := getBackends_served stamped state both
    have ends (config : PyValue) : loadedConfig env file state = some config ↔
        ((getBackends env file).exec state).1 = .ok (some config) := by
      unfold loadedConfig
      generalize (getBackends env file).exec state = outcome
      obtain ⟨_ | _, _⟩ := outcome <;> simp
    generalize (getBackends env file).exec state = outcome at known ends ⊢
    obtain ⟨_ | loaded, after⟩ := outcome
    · exact known
    · refine ⟨known.1, fun config same => ?_⟩
      obtain ⟨held, content⟩ := known.2 config same
      exact ⟨(ends config).mpr (congrArg Except.ok same), content, held⟩
  apply ensures_bind loads
  intro loaded
  apply ensures_ofExcept
  · rintro backend found state ⟨served, reads⟩
    obtain ⟨config, bid, rfl, -⟩ := lookupBackend_ok found
    exact ⟨served, config, reads config rfl, found⟩
  · exact fun _ both => both.1

-- While a channel is connected the configuration stays.
def Holding (python : Python) (contentAt : Int → Option PyValue) (base : List Event)
    (wanted : Target → Prop) (config : Option PyValue) (state : McpState) : Prop :=
  Served python contentAt base wanted state ∧ state.backendsConfig = config

theorem connect_served (network : Network) (number : Nat) (target : Target)
    (verifier : VerifierPolicy.Verifier) (config : Option PyValue) :
    Ensures (fun state => Holding env.python contentAt base wanted config state ∧
        number < state.channels ∧ ∀ other, .connected number other ∉ state.history)
      (connect env network number target verifier)
      (fun channel state => Holding env.python contentAt base wanted config state ∧
        channel.target = target ∧ .connected channel.number channel.target ∈ state.history)
      (Served env.python contentAt base wanted) := by
  apply ensures_bind_ofExcept fun _ taken => taken.1.1
  intro certPem fetched
  apply ensures_bind_ofExcept fun _ taken => taken.1.1
  intro extracted held
  cases extracted with
  | none => exact ensures_throw fun _ taken => taken.1.1
  | some token =>
    apply ensures_bind_ofExcept fun _ taken => taken.1.1
    intro verdict said
    apply ensures_bind_modify fun state => Holding env.python contentAt base wanted config state ∧
      number < state.channels ∧ ∀ other, .connected number other ∉ state.history
    · rintro state ⟨⟨served, same⟩, taken, unused⟩
      refine ⟨⟨served.record taken ?_ ?_, same⟩, taken, by simpa using unused⟩
      · simp
      · simp
    · split
      next accepted =>
        apply ensures_bind_ofExcept fun _ taken => taken.1.1
        intro _ opened
        apply ensures_bind_modify fun state => Holding env.python contentAt base wanted config state ∧
          .connected number target ∈ state.history
        · rintro state ⟨⟨served, same⟩, taken, unused⟩
          refine ⟨⟨served.record taken ?_ ?_, same⟩, by simp⟩
          · intro _ _ event
            cases event
            exact unused
          · simp
        · exact ensures_pure fun _ both => ⟨both.1, rfl, both.2⟩
      next => exact ensures_throw fun _ taken => taken.1.1

theorem getStub_served (network : Network) (target : Target) (config : Option PyValue) :
    Ensures (Holding env.python contentAt base wanted config)
      (getStub env network target)
      (fun channel state => Holding env.python contentAt base wanted config state ∧
        channel.target = target ∧ .connected channel.number channel.target ∈ state.history)
      (Served env.python contentAt base wanted) := by
  apply ensures_bind_ofExcept fun _ both => both.1
  intro verifier gated
  apply ensures_bind_get
  intro state
  refine ensures_bind_modify _ ?_ (connect_served network state.channels target verifier config)
  rintro current ⟨⟨served, same⟩, rfl⟩
  refine ⟨⟨served.number, same⟩, Nat.lt_succ_self _, ?_⟩
  intro other listed
  exact (served.numbered _ listed).false

def Names (env : AgentEnv) (file : FileView) (arguments : PyValue) (start : McpState)
    (backend : PyValue) : Prop :=
  ∃ backendId config mtimeNs, arguments.get "backend" = .ok backendId ∧
    loadedConfig env file start = some config ∧ file = .present mtimeNs (some config) ∧
    lookupBackend env.python (some config) backendId = .ok backend

theorem getCachedStub_served {file : FileView} (stamped : file.Stamped contentAt)
    (network : Network) (arguments : PyValue) (start : McpState) :
    Ensures (fun state => state = start ∧ Served env.python contentAt base wanted state ∧
        Flushes env file state)
      (getCachedStub env file network arguments)
      (fun answer state => (Served env.python contentAt base wanted state ∧
        state.backendsConfig ≠ none) ∧
        .connected answer.1.number answer.1.target ∈ state.history ∧
        Names env file arguments start answer.2 ∧ MadeFrom env.python answer.2 answer.1.target)
      (Served env.python contentAt base wanted) := by
  apply ensures_bind_ofExcept fun _ both => both.2.1
  intro backendId given
  apply ensures_bind (getBackendInfo_served stamped backendId start)
  intro backend
  apply ensures_bind_ofExcept fun _ both => both.1
  intro bid held
  apply ensures_bind_ofExcept fun _ both => both.1
  intro _ hashed
  apply ensures_bind_get
  intro state
  split
  next channel cached =>
    apply ensures_pure
    rintro current ⟨⟨served, config, reads, found⟩, rfl⟩
    obtain ⟨⟨key, _⟩, listed, rfl⟩ := Option.map_eq_some_iff.mp cached
    have alike := List.find?_some listed
    have member := List.mem_of_find?_eq_some listed
    -- The cached channel was made from an entry of this id, so from this entry.
    obtain ⟨otherId, other, foundOther, heldOther, made⟩ :=
      served.current config reads.held _ member
    cases lookupBackend_same found foundOther held heldOther (PyValue.key_isSome hashed) alike
    obtain ⟨mtimeNs, content⟩ := reads.content
    exact ⟨⟨served, by simp [reads.held]⟩, served.connected _ member,
      ⟨backendId, config, mtimeNs, given, reads.loaded, content, found⟩, made⟩
  next =>
    apply ensures_bind_ofExcept fun _ both => both.1.1
    intro policy built
    apply ensures_bind_ofExcept fun _ both => both.1.1
    intro host hosted
    apply ensures_bind_ofExcept fun _ both => both.1.1
    intro port ported
    have made : MadeFrom env.python backend ⟨host, port, policy⟩ := ⟨hosted, ported, built⟩
    rintro current ⟨⟨served, config, reads, found⟩, rfl⟩
    obtain ⟨mtimeNs, content⟩ := reads.content
    have names : Names env file arguments start backend :=
      ⟨backendId, config, mtimeNs, given, reads.loaded, content, found⟩
    refine ensures_bind (getStub_served network ⟨host, port, policy⟩ (some config)) ?_ current
      ⟨served, reads.held⟩
    intro channel
    apply ensures_bind_modify fun state => (Served env.python contentAt base wanted state ∧
      state.backendsConfig ≠ none) ∧ .connected channel.number channel.target ∈ state.history ∧
      MadeFrom env.python backend channel.target
    · rintro state ⟨⟨served, same⟩, target, connected⟩
      rw [← target] at made
      exact ⟨⟨served.cache same found held made connected, by simp [same]⟩, connected, made⟩
    · exact ensures_pure fun _ both => ⟨both.1, both.2.1, names, both.2.2⟩

theorem evictBackend_served {file : FileView} (stamped : file.Stamped contentAt)
    (arguments : PyValue) :
    Ensures (fun state => Served env.python contentAt base wanted state ∧
        state.backendsConfig ≠ none)
      (evictBackend env file arguments) (fun _ => Served env.python contentAt base wanted)
      (Served env.python contentAt base wanted) := by
  apply ensures_from
  intro start
  apply ensures_bind_ofExcept fun _ both => both.2.1
  intro backendId given
  refine ensures_bind ((getBackendInfo_served stamped backendId start).mono ?_
    (fun _ _ both => both) fun _ served => served) ?_
  · rintro state ⟨rfl, served, loaded⟩
    exact ⟨rfl, served, flushes_of_loaded file loaded⟩
  · intro backend
    apply ensures_bind_ofExcept fun _ both => both.1
    intro bid held
    apply ensures_bind_ofExcept fun _ both => both.1
    rintro _ hashed current ⟨served, -⟩
    exact served.evict _

theorem callRpc_served (network : Network) {channel : ZtabChannel} (request : RpcRequest)
    (reached : wanted channel.target) (config : Option PyValue) :
    Ensures (fun state => Holding env.python contentAt base wanted config state ∧
        .connected channel.number channel.target ∈ state.history)
      (callRpc network channel request)
      (fun _ => Holding env.python contentAt base wanted config)
      (Holding env.python contentAt base wanted config) := by
  apply ensures_bind_modify (Holding env.python contentAt base wanted config)
  · rintro state ⟨⟨served, same⟩, connected⟩
    have taken := served.numbered _ connected
    refine ⟨served.record taken (by simp) ?_, same⟩
    intro number other event
    cases event
    exact ⟨channel.target, connected, reached⟩
  · exact ensures_ofExcept (fun _ _ _ holding => holding) fun _ holding => holding

def ToolCall.Wants (env : AgentEnv) (call : ToolCall) (start : McpState) (target : Target) : Prop :=
  ∃ backend, Names env call.file call.arguments start backend ∧ MadeFrom env.python backend target

def ToolCall.Stamped (contentAt : Int → Option PyValue) (call : ToolCall) : Prop :=
  call.file.Stamped contentAt ∧ call.laterFile.Stamped contentAt

def ToolCall.ServedFrom (env : AgentEnv) (contentAt : Int → Option PyValue) (call : ToolCall)
    (start : McpState) : McpState → Prop :=
  Served env.python contentAt start.history (call.Wants env start)

theorem runCached_served {call : ToolCall} (stamped : call.Stamped contentAt)
    (build : PyValue → Except PyException RpcRequest) (start : McpState) :
    Ensures (fun state => state = start ∧ call.ServedFrom env contentAt start state ∧
        Flushes env call.file state)
      (runCached env call build) (fun _ => call.ServedFrom env contentAt start)
      (call.ServedFrom env contentAt start) := by
  apply ensures_bind (getCachedStub_served stamped.1 call.network call.arguments start)
  rintro ⟨channel, backend⟩ state ⟨⟨served, loaded⟩, connected, names, made⟩
  have reached : call.Wants env start channel.target := ⟨backend, names, made⟩
  have body : Ensures (fun current => Holding env.python contentAt start.history
        (call.Wants env start) state.backendsConfig current ∧
        .connected channel.number channel.target ∈ current.history)
      (do
        let request ← Effect.ofExcept (build backend)
        let response ← callRpc call.network channel request
        pure (successResult env.python request response))
      (fun _ => call.ServedFrom env contentAt start)
      (Holding env.python contentAt start.history (call.Wants env start) state.backendsConfig) := by
    apply ensures_bind_ofExcept fun _ both => both.1
    intro request built
    apply ensures_bind (callRpc_served call.network request reached state.backendsConfig)
    intro response
    exact ensures_pure fun _ holding => holding.1
  refine ensures_tryCatch _ body ?_ state ⟨⟨served, rfl⟩, connected⟩
  intro raised
  split
  next code details =>
    split
    next =>
      -- An eviction looks at the file again, with a configuration in hand.
      refine ensures_bind ((evictBackend_served stamped.2 call.arguments).mono ?_
        (fun _ _ served => served) fun _ served => served) ?_
      · rintro current ⟨served, same⟩
        rw [← same] at loaded
        exact ⟨served, loaded⟩
      · exact fun _ => ensures_pure fun _ served => served
    next => exact ensures_pure fun _ holding => holding.1
  next => exact ensures_throw fun _ holding => holding.1

theorem runConnectivityTest_served (network : Network) {target : Target} (reached : wanted target)
    (message : PyValue) :
    Ensures (Served env.python contentAt base wanted) (runConnectivityTest env network target message)
      (fun _ => Served env.python contentAt base wanted) (Served env.python contentAt base wanted) := by
  intro state served
  refine ensures_bind (getStub_served network target state.backendsConfig) ?_ state ⟨served, rfl⟩
  rintro channel current ⟨holding, rfl, connected⟩
  have body : Ensures (fun next => Holding env.python contentAt base wanted state.backendsConfig next ∧
        .connected channel.number channel.target ∈ next.history)
      (do
        let text ← Effect.ofExcept (protoString message)
        let response ← callRpc network channel (.echo text)
        pure (connectivityResult network channel response))
      (fun _ => Served env.python contentAt base wanted)
      (Served env.python contentAt base wanted) := by
    apply ensures_bind_ofExcept fun _ both => both.1.1
    intro text encoded
    apply ensures_bind ((callRpc_served network (.echo text) reached state.backendsConfig).mono
      (fun _ both => both) (fun _ _ holding => holding) fun _ holding => holding.1)
    intro response
    exact ensures_pure fun _ holding => holding.1
  refine ensures_tryCatch _ body ?_ current ⟨holding, connected⟩
  intro raised
  split
  · exact ensures_pure fun _ served => served
  · exact ensures_pure fun _ served => served

theorem commonArgs_served {call : ToolCall} (stamped : call.file.Stamped contentAt)
    (start : McpState) :
    Ensures (fun state => state = start ∧ Served env.python contentAt base wanted state ∧
        Flushes env call.file state)
      (commonArgs env call.file call.arguments)
      (fun target state => Served env.python contentAt base wanted state ∧
        call.Wants env start target)
      (Served env.python contentAt base wanted) := by
  apply ensures_bind_ofExcept fun _ both => both.2.1
  intro backendId given
  apply ensures_bind (getBackendInfo_served stamped backendId start)
  intro backend
  apply ensures_bind_ofExcept fun _ both => both.1
  intro host hosted
  apply ensures_bind_ofExcept fun _ both => both.1
  intro port ported
  apply ensures_bind_ofExcept fun _ both => both.1
  intro policy built
  apply ensures_pure
  rintro state ⟨served, config, reads, found⟩
  obtain ⟨mtimeNs, content⟩ := reads.content
  exact ⟨served, backend, ⟨backendId, config, mtimeNs, given, reads.loaded, content, found⟩,
    hosted, ported, built⟩

theorem handler_served {call : ToolCall} (stamped : call.Stamped contentAt) (start : McpState) :
    Ensures (fun state => state = start ∧ call.ServedFrom env contentAt start state ∧
        Flushes env call.file state)
      (Tool.handler env call) (fun _ => call.ServedFrom env contentAt start)
      (call.ServedFrom env contentAt start) := by
  unfold Tool.handler
  split
  next =>
    apply ensures_bind ((getBackends_served stamped.1).mono (fun _ both => both.2)
      (fun _ _ both => both.1) fun _ served => served)
    intro config
    dsimp only
    split
    · exact ensures_pure fun _ served => served
    · exact ensures_ofExcept (fun _ _ _ served => served) fun _ served => served
  next =>
    apply ensures_bind (commonArgs_served stamped.1 start)
    intro target
    apply ensures_bind_ofExcept fun _ both => both.1
    rintro message given state ⟨served, reached⟩
    exact runConnectivityTest_served call.network reached message state served
  all_goals exact runCached_served stamped _ start

theorem callTool_served {call : ToolCall} (stamped : call.Stamped contentAt) (start : McpState) :
    Ensures (fun state => state = start ∧ call.ServedFrom env contentAt start state ∧
        Flushes env call.file state)
      (callTool env call) (fun _ => call.ServedFrom env contentAt start)
      (call.ServedFrom env contentAt start) := by
  apply ensures_bind_ofExcept fun _ both => both.2.1
  intro refused checked
  cases refused with
  | some answer => exact ensures_pure fun _ both => both.2.1
  | none =>
    apply ensures_tryCatch (call.ServedFrom env contentAt start) (handler_served stamped start)
    intro raised
    split
    · exact ensures_pure fun _ served => served
    · exact ensures_pure fun _ served => served

end Calls

-- The step keeps the cache coherent, and its RPCs go where the call wants.
theorem step_served {env : AgentEnv} {contentAt : Int → Option PyValue} {call : ToolCall}
    (stamped : call.Stamped contentAt) {state : McpState}
    (coherent : Coherent env.python contentAt state) (flushes : Flushes env call.file state) :
    call.ServedFrom env contentAt state ((mcpMachine env).step state call).1 := by
  have start : call.ServedFrom env contentAt state state := ⟨coherent, [], by simp, by simp⟩
  exact (callTool_served stamped state).leaves ⟨rfl, start, flushes⟩

theorem coherent_after {env : AgentEnv} {contentAt : Int → Option PyValue} (calls : List ToolCall)
    (stamped : ∀ call ∈ calls, call.Stamped contentAt) (state : McpState)
    (coherent : Coherent env.python contentAt state)
    (flushed : (mcpMachine env).Allowed (fun state call => Flushes env call.file state) state calls) :
    Coherent env.python contentAt ((mcpMachine env).after state calls) := by
  induction calls generalizing state with
  | nil => exact coherent
  | cons call rest ih =>
    have first := stamped call List.mem_cons_self
    apply ih fun other listed => stamped other (List.mem_cons_of_mem _ listed)
    · exact (step_served first coherent flushed.1).toCoherent
    · exact flushed.2

/-- The channel that a call gets was made from the entry that the call names in the file, and
every RPC of the call is made on such a channel. -/
structure CurrentChannels (env : AgentEnv) (state : McpState) (call : ToolCall) : Prop where
  stub : ∀ channel backend after,
    (getCachedStub env call.file call.network call.arguments).exec state =
      (.ok (channel, backend), after) →
    Names env call.file call.arguments state backend ∧ MadeFrom env.python backend channel.target
  rpcs : ∃ made, ((mcpMachine env).step state call).1.history = state.history ++ made ∧
    ∀ number request, .called number request ∈ made → ∃ target, call.Wants env state target ∧
      .connected number target ∈ ((mcpMachine env).step state call).1.history ∧
      ∀ other, .connected number other ∈ ((mcpMachine env).step state call).1.history →
        other = target

theorem currentChannels_step {env : AgentEnv} {contentAt : Int → Option PyValue} {call : ToolCall}
    (stamped : call.Stamped contentAt) {state : McpState}
    (coherent : Coherent env.python contentAt state) (flushes : Flushes env call.file state) :
    CurrentChannels env state call := by
  constructor
  · intro channel backend after ended
    have start : call.ServedFrom env contentAt state state := ⟨coherent, [], by simp, by simp⟩
    have both := getCachedStub_served stamped.1 call.network call.arguments state state
      ⟨rfl, start, flushes⟩
    rw [ended] at both
    exact both.2.2
  · have served := step_served stamped coherent flushes
    obtain ⟨made, grown, only⟩ := served.served
    refine ⟨made, grown, ?_⟩
    intro number request listed
    obtain ⟨target, connected, reached⟩ := only number request listed
    exact ⟨target, reached, connected, fun other seen => served.single _ _ _ seen connected⟩

/-- In every run that reads no configuration into a cache left from an earlier one, channels
follow the file. -/
theorem channels_current_of_flushed (env : AgentEnv) (contentAt : Int → Option PyValue)
    (calls : List ToolCall) (stamped : ∀ call ∈ calls, call.Stamped contentAt)
    (flushed : (mcpMachine env).Allowed (fun state call => Flushes env call.file state)
      (mcpMachine env).initial calls) (earlier later : List ToolCall) (call : ToolCall)
    (split : calls = earlier ++ call :: later) :
    CurrentChannels env ((mcpMachine env).after (mcpMachine env).initial earlier) call := by
  subst split
  obtain ⟨before, flushes, -⟩ := ((mcpMachine env).allowed_append _ _ _).mp flushed
  have first : ∀ other ∈ earlier, other.Stamped contentAt := by
    intro other listed
    exact stamped other (List.mem_append_left _ listed)
  have coherent := coherent_after earlier first _ .initial before
  exact currentChannels_step (stamped call (by simp)) coherent flushes

def rotatedBackends : PyValue :=
  pyDict [("default_backend", pyText "tee"),
    ("backends", .list [pyDict [("backend_id", pyText "tee"), ("host", pyText "localhost"),
      ("port", .int 8000), ("verifier", pyText "ita"), ("expected_digest", pyText "sha256:11")]])]

-- The file is written, broken and repaired with another digest.
def rotation : Int → Option PyValue
  | 1 => some attestedBackends
  | 3 => some rotatedBackends
  | _ => none

def resultCallAt (mtimeNs : Int) : ToolCall :=
  { resultCall with
    file := .present mtimeNs (rotation mtimeNs)
    laterFile := .present mtimeNs (rotation mtimeNs) }

theorem resultCallAt_stamped (mtimeNs : Int) : (resultCallAt mtimeNs).Stamped rotation := ⟨rfl, rfl⟩

def productionAgent : AgentEnv := ⟨plainPython, none⟩

theorem rotated_digest_current :
    CurrentChannels productionAgent
      ((mcpMachine productionAgent).after (mcpMachine productionAgent).initial [resultCallAt 1])
      (resultCallAt 3) := by
  refine channels_current_of_flushed productionAgent rotation [resultCallAt 1, resultCallAt 3] ?_ ?_
    [resultCallAt 1] [] (resultCallAt 3) rfl
  · simp [resultCallAt_stamped]
  · refine ⟨?_, ?_, trivial⟩
    · intro _ _ _ _ _ _ _
      rfl
    · apply flushes_of_loaded
      have held : ((mcpMachine productionAgent).step (mcpMachine productionAgent).initial
        (resultCallAt 1)).1.backendsConfig.isSome = true := by decide +kernel
      exact Option.isSome_iff_ne_none.mp held

def VerifierPolicy.hasDigest (digest : String) : VerifierPolicy → Bool
  | .ita policy => policy.expectedImageDigests.any fun held => held.same (pyText digest)
  | .noop => false

-- The channel was attested for a digest that the entry it is returned with does not have.
def staleStub (digest : String) : Except PyException (ZtabChannel × PyValue) → Bool
  | .ok (channel, backend) =>
    channel.target.policy.hasDigest digest &&
      ((buildPolicyFromBackend plainPython backend).toOption.map fun policy =>
        policy.hasDigest digest) = some false
  | .error _ => false

/-- The file is broken and then repaired with another digest: the call after it gets the channel
of the old digest. -/
theorem stale_channel_after_malformed :
    (∀ call ∈ [resultCallAt 1, resultCallAt 2, resultCallAt 3], call.Stamped rotation) ∧
      ¬ CurrentChannels productionAgent
        ((mcpMachine productionAgent).after (mcpMachine productionAgent).initial
          [resultCallAt 1, resultCallAt 2]) (resultCallAt 3) := by
  refine ⟨by simp [resultCallAt_stamped], ?_⟩
  intro current
  have stale : staleStub "sha256:00" ((getCachedStub productionAgent (resultCallAt 3).file
      (resultCallAt 3).network (resultCallAt 3).arguments).exec
        ((mcpMachine productionAgent).after (mcpMachine productionAgent).initial
          [resultCallAt 1, resultCallAt 2])).1 = true := by decide +kernel
  have stub := current.stub
  generalize (getCachedStub productionAgent (resultCallAt 3).file
      (resultCallAt 3).network (resultCallAt 3).arguments).exec _ = outcome at stale stub
  obtain ⟨_ | ⟨channel, backend⟩, after⟩ := outcome
  · cases stale
  · obtain ⟨-, made⟩ := stub channel backend after rfl
    have policy : buildPolicyFromBackend plainPython backend = .ok channel.target.policy := made.policy
    simp [staleStub, policy, Except.toOption] at stale

end Ztab
