import Mathlib.Algebra.Order.BigOperators.Group.Finset
import Ztab.Shared.RefCount
import Ztab.Tee.Drain
import Ztab.Tee.Rebuilds

set_option autoImplicit false

/-!
# The shared contexts

`cached_ssl_ctx_` and every `raw_ctx` are pointers to the same `SSL_CTX` objects, which BoringSSL
counts the references of. The connection threads, `GetOrCreateSSLCtx` and the end of `Stop` over
that heap, and the value-level cache that they refine.
-/

namespace Ztab

open RefCount (Heap)

structure ContextCache (Key : Type) where
  cachedTime : Int := 0
  cachedCertPem : Bytes := []
  cachedKeyPem : Bytes := []
  cachedSslCtx : Option Nat := none
  -- SSL_CTX_new gives an empty context; certificate and key are loaded into it.
  heap : Heap (Option (SslCtx Key)) := {}

section Cache

variable {Key : Type} (ssl : BoringSsl Key)

namespace ContextCache

def loaded (cache : ContextCache Key) (id : Nat) : Option (SslCtx Key) :=
  (cache.heap.value id).join

def view (cache : ContextCache Key) : CredentialCache Key where
  cachedTime := cache.cachedTime
  cachedCertPem := cache.cachedCertPem
  cachedKeyPem := cache.cachedKeyPem
  cachedSslCtx := cache.cachedSslCtx.bind cache.loaded

def dropCached (cache : ContextCache Key) : ContextCache Key :=
  match cache.cachedSslCtx with
  | some id => { cache with heap := cache.heap.free id, cachedSslCtx := none }
  | none => cache

def rebuildSslCtx (fails : SslCtxStep → Bool) (cache : ContextCache Key) :
    ContextCache Key × Option Nat :=
  let cache := cache.dropCached
  if fails .new then (cache, none)
  else
    let (heap, id) := cache.heap.new none
    match cache.view.loadSslCtx ssl fails with
    | none => ({ cache with heap := heap.free id, cachedSslCtx := none }, none)
    | some ctx => ({ cache with heap := (heap.write id (some ctx)).upRef id, cachedSslCtx := some id }, some id)

def getOrCreateSslCtx (cache : ContextCache Key) (call : SslCtxCall Key) :
    ContextCache Key × Option Nat :=
  if cache.view.Fresh call.start then
    match cache.cachedSslCtx with
    | some id => ({ cache with heap := cache.heap.upRef id }, some id)
    | none => (cache, none)
  else
    match call.credentials ssl with
    | none => (cache, none)
    | some (certPem, keyPem) =>
      rebuildSslCtx ssl call.ctxFails
        { cache with cachedCertPem := certPem, cachedKeyPem := keyPem, cachedTime := call.finish }

/-- What a call can do: share the cached context, give nothing and keep the cache, or let go of the
cached context and put a new one, or none, in its place. -/
inductive Serves (cache : ContextCache Key) (call : SslCtxCall Key) :
    ContextCache Key × Option Nat → Prop
  | hit (id : Nat) (fresh : cache.view.Fresh call.start) (cached : cache.cachedSslCtx = some id) :
      Serves cache call ({ cache with heap := cache.heap.upRef id }, some id)
  | spoiled (fresh : cache.view.Fresh call.start) (missing : cache.cachedSslCtx = none) :
      Serves cache call (cache, none)
  | failed (stale : ¬ cache.view.Fresh call.start) (failed : call.credentials ssl = none) :
      Serves cache call (cache, none)
  | rebuilt (stale : ¬ cache.view.Fresh call.start) (certPem keyPem : Bytes)
      (made : call.credentials ssl = some (certPem, keyPem)) :
      Serves cache call (rebuildSslCtx ssl call.ctxFails
        { cache with cachedCertPem := certPem, cachedKeyPem := keyPem, cachedTime := call.finish })

theorem getOrCreateSslCtx_serves (cache : ContextCache Key) (call : SslCtxCall Key) :
    cache.Serves ssl call (cache.getOrCreateSslCtx ssl call) := by
  unfold getOrCreateSslCtx
  split
  next fresh =>
    split
    next id cached => exact .hit id fresh cached
    next missing => exact .spoiled fresh missing
  next stale =>
    split
    next failed => exact .failed stale failed
    next certPem keyPem made => exact .rebuilt stale certPem keyPem made

variable {ssl} {cache : ContextCache Key}

def references (cachedSslCtx : Option Nat) (others : Nat → Nat) (id : Nat) : Nat :=
  (if cachedSslCtx = some id then 1 else 0) + others id

structure Sound (cache : ContextCache Key) (others : Nat → Nat) : Prop where
  balanced : cache.heap.Balanced (references cache.cachedSslCtx others)
  filled : ∀ id, 0 < references cache.cachedSslCtx others id → (cache.loaded id).isSome = true

variable {others : Nat → Nat}

theorem loaded_adjust (heap : Heap (Option (SslCtx Key))) (id : Nat) (there : 0 < heap.count id)
    (next : Nat → Nat) (other : Nat) :
    ((heap.adjust id next).value other).join = (heap.value other).join := by
  rw [Heap.value_adjust there]

theorem Sound.dropCached (sound : cache.Sound others) :
    cache.dropCached.Sound others ∧ cache.dropCached.cachedSslCtx = none ∧
      ∀ id, cache.dropCached.loaded id = cache.loaded id := by
  unfold ContextCache.dropCached
  cases cached : cache.cachedSslCtx with
  | none => exact ⟨sound, cached, fun _ => rfl⟩
  | some id =>
    have held : 0 < references cache.cachedSslCtx others id := by
      simp only [references, cached, if_true]
      omega
    have there : 0 < cache.heap.count id := by rwa [sound.balanced.exact]
    have same (other : Nat) :
        loaded { cache with heap := cache.heap.free id, cachedSslCtx := none } other =
          cache.loaded other := loaded_adjust cache.heap id there _ other
    refine ⟨⟨?_, ?_⟩, rfl, same⟩
    · apply sound.balanced.free id
      intro other
      simp only [references, cached, Option.some.injEq, reduceCtorEq, if_false, eq_comm (a := id)]
      omega
    · intro other kept
      rw [same]
      apply sound.filled
      simp only [references, cached, reduceCtorEq, if_false] at kept ⊢
      omega

theorem Sound.free (sound : cache.Sound others) {fewer : Nat → Nat} {id : Nat}
    (loses : ∀ other, fewer other + (if other = id then 1 else 0) = others other) :
    Sound { cache with heap := cache.heap.free id } fewer ∧
      ∀ other, loaded { cache with heap := cache.heap.free id } other = cache.loaded other := by
  have held : 0 < references cache.cachedSslCtx others id := by
    have mine := loses id
    simp only [if_true] at mine
    simp only [references]
    omega
  have same (other : Nat) : loaded { cache with heap := cache.heap.free id } other =
      cache.loaded other := loaded_adjust cache.heap id (by rwa [sound.balanced.exact]) _ other
  refine ⟨⟨?_, ?_⟩, same⟩
  · apply sound.balanced.free id
    intro other
    simp only [references, ← loses]
    omega
  · intro other kept
    rw [same]
    apply sound.filled
    simp only [references, ← loses] at kept ⊢
    omega

theorem Sound.rebuildSslCtx (sound : cache.Sound others) (fails : SslCtxStep → Bool) :
    let served := cache.rebuildSslCtx ssl fails
    served.1.Sound (fun id => others id + if served.2 = some id then 1 else 0) ∧
      (∀ id, 0 < others id → served.1.loaded id = cache.loaded id) ∧
      served.1.view = (cache.view.rebuildSslCtx ssl fails).1 ∧
      served.2.bind served.1.loaded = (cache.view.rebuildSslCtx ssl fails).2 := by
  obtain ⟨dropped, cleared, same⟩ := sound.dropCached
  have view : cache.dropCached.view.loadSslCtx ssl fails = cache.view.loadSslCtx ssl fails := by
    unfold ContextCache.dropCached
    cases cache.cachedSslCtx <;> rfl
  have pems : cache.dropCached.cachedTime = cache.cachedTime ∧
      cache.dropCached.cachedCertPem = cache.cachedCertPem ∧
      cache.dropCached.cachedKeyPem = cache.cachedKeyPem := by
    unfold ContextCache.dropCached
    cases cache.cachedSslCtx <;> exact ⟨rfl, rfl, rfl⟩
  unfold ContextCache.rebuildSslCtx CredentialCache.rebuildSslCtx
  rw [← view]
  generalize cache.dropCached = empty at *
  obtain ⟨time, certPem, keyPem⟩ := pems
  have balanced := dropped.balanced
  rw [cleared] at balanced
  have inside (id : Nat) (held : 0 < others id) : id < empty.heap.cells.length :=
    balanced.inside (by simpa [references] using held)
  by_cases noMemory : fails .new = true
  next =>
    have unloaded : empty.view.loadSslCtx ssl fails = none := by
      simp [CredentialCache.loadSslCtx, noMemory]
    simp only [noMemory, if_true, unloaded]
    refine ⟨by simpa using dropped, fun id _ => same id, ?_, by simp⟩
    simp [ContextCache.view, cleared, time, certPem, keyPem]
  next =>
    have filled (id : Nat) (held : 0 < others id) : (cache.loaded id).isSome = true := by
      rw [← same]
      exact dropped.filled id (by simpa [references, cleared] using held)
    simp only [noMemory]
    cases loads : empty.view.loadSslCtx ssl fails with
    | none =>
      obtain ⟨books, values⟩ := balanced.discarded (none : Option (SslCtx Key))
      have kept (id : Nat) (held : 0 < others id) :
          (((empty.heap.new none).1.free empty.heap.cells.length).value id).join =
            cache.loaded id := by
        rw [values id (inside id held), ← same]
        rfl
      refine ⟨⟨books.congr fun id => by simp, fun id held => ?_⟩, kept, ?_, rfl⟩
      · simp only [references, reduceCtorEq, if_false, Nat.zero_add, Nat.add_zero] at held
        exact (congrArg Option.isSome (kept id held)).trans (filled id held)
      · simp [ContextCache.view, time, certPem, keyPem]
    | some ctx =>
      have gains (id : Nat) : references (some empty.heap.cells.length)
          (fun id => others id + if some empty.heap.cells.length = some id then 1 else 0) id =
          references none others id + if id = empty.heap.cells.length then 2 else 0 := by
        simp only [references, Option.some.injEq, reduceCtorEq, if_false, eq_comm (a := id)]
        split_ifs <;> omega
      obtain ⟨books, fresh, values⟩ :=
        balanced.filled (none : Option (SslCtx Key)) (some ctx) gains
      have kept (id : Nat) (held : 0 < others id) :
          ((((empty.heap.new none).1.write empty.heap.cells.length (some ctx)).upRef
            empty.heap.cells.length).value id).join = cache.loaded id := by
        rw [values id (inside id held), ← same]
        rfl
      refine ⟨⟨books, fun id held => ?_⟩, kept, ?_, congrArg Option.join fresh⟩
      · by_cases new : id = empty.heap.cells.length
        · subst new
          exact congrArg (fun held => held.join.isSome) fresh
        · have apart : ¬ empty.heap.cells.length = id := fun equal => new equal.symm
          have older : 0 < others id := by simpa [references, Heap.new, apart] using held
          exact (congrArg Option.isSome (kept id older)).trans (filled id older)
      · simp only [ContextCache.view, time, certPem, keyPem]
        congr 1
        exact congrArg Option.join fresh

theorem credentialCache_getOrCreateSslCtx (cache : CredentialCache Key) (call : SslCtxCall Key) :
    cache.getOrCreateSslCtx ssl call =
      if cache.Fresh call.start then (cache, cache.cachedSslCtx)
      else
        match call.credentials ssl with
        | none => (cache, none)
        | some (certPem, keyPem) =>
          CredentialCache.rebuildSslCtx ssl call.ctxFails
            { cache with
              cachedCertPem := certPem
              cachedKeyPem := keyPem
              cachedTime := call.finish } := by
  split
  next fresh => exact getOrCreateSslCtx_hit fresh
  next stale =>
    rw [getOrCreateSslCtx_stale stale]
    cases call.credentials ssl <;> rfl

theorem Sound.getOrCreateSslCtx (sound : cache.Sound others) (ssl : BoringSsl Key)
    (call : SslCtxCall Key) :
    let served := cache.getOrCreateSslCtx ssl call
    served.1.Sound (fun id => others id + if served.2 = some id then 1 else 0) ∧
      (∀ id, 0 < others id → served.1.loaded id = cache.loaded id) ∧
      served.1.view = (cache.view.getOrCreateSslCtx ssl call).1 ∧
      served.2.bind served.1.loaded = (cache.view.getOrCreateSslCtx ssl call).2 := by
  intro served
  have serves : cache.Serves ssl call served := cache.getOrCreateSslCtx_serves ssl call
  rw [credentialCache_getOrCreateSslCtx]
  clear_value served
  cases serves with
  | hit id fresh cached =>
    have held : 0 < references cache.cachedSslCtx others id := by
      simp only [references, cached, if_true]
      omega
    have there : 0 < cache.heap.count id := by rwa [sound.balanced.exact]
    have same (other : Nat) : loaded { cache with heap := cache.heap.upRef id } other =
        cache.loaded other := loaded_adjust cache.heap id there _ other
    rw [if_pos fresh]
    refine ⟨⟨?_, ?_⟩, fun other _ => same other, ?_, ?_⟩
    · apply sound.balanced.upRef held
      intro other
      simp only [references, Option.some.injEq, eq_comm (a := id)]
      omega
    · intro other kept
      rw [same]
      apply sound.filled
      simp only [references, cached, Option.some.injEq] at kept ⊢
      by_cases here : id = other
      · simp [here]
      · simpa [here] using kept
    · simp only [ContextCache.view]
      congr 1
      exact Option.bind_congr fun other _ => same other
    · refine (same id).trans ?_
      simp [ContextCache.view, cached]
  | spoiled fresh missing =>
    rw [if_pos fresh]
    refine ⟨by simpa using sound, fun _ _ => rfl, rfl, ?_⟩
    simp [ContextCache.view, missing]
  | failed stale failed =>
    rw [if_neg stale, failed]
    exact ⟨by simpa using sound, fun _ _ => rfl, rfl, rfl⟩
  | rebuilt stale certPem keyPem made =>
    rw [if_neg stale, made]
    have renewed : Sound { cache with
        cachedCertPem := certPem
        cachedKeyPem := keyPem
        cachedTime := call.finish } others := ⟨sound.balanced, sound.filled⟩
    exact renewed.rebuildSslCtx call.ctxFails

end ContextCache

end Cache

/-- What an `SSL` object is to the counter of its context: SSL_new takes so many references, and
SSL_free gives them back. -/
structure SslReferences where
  new : Nat
  free : Nat
  paired : free = new

def ConnectionPhase.references (object : SslReferences) : ConnectionPhase → Nat
  | .contextHeld | .localForgotten _ | .closing => 1
  | .shaken | .localOpened _ | .localRegistered _ | .refused _ | .piping _ | .drained _ =>
    1 + object.new
  | .launched | .counted | .registered | .closed | .forgotten | .notifying | .finished => 0

def ConnectionPhase.useContext {Value : Type} (object : SslReferences) (result : Option Nat)
    (heap : Heap Value) (id : Nat) : ConnectionPhase → Heap Value
  -- SSL_new, and SSL_free when the handshake fails.
  | .contextHeld =>
    if result.isSome then heap.upRefs id object.new
    else (heap.upRefs id object.new).frees id object.free
  | .shaken => if result.isSome then heap else heap.frees id object.free
  | .refused _ | .drained _ => heap.frees id object.free
  -- The return from HandleConnectionImpl destroys `ctx`.
  | .closing => heap.free id
  | _ => heap

structure ServingProxy (Key : Type) where
  life : ProxyLife
  cache : ContextCache Key := {}
  -- What GetOrCreateSSLCtx returned to each connection.
  rawCtx : Nat → Option Nat := fun _ => none

inductive ServingAction (Key : Type) where
  | life (action : LifeAction)
  | getOrCreateSslCtx (index : Nat) (call : SslCtxCall Key)

namespace ServingProxy

variable {Key : Type} (ssl : BoringSsl Key) (object : SslReferences)

def connection? (serving : ServingProxy Key) (index : Nat) : Option Connection :=
  serving.life.proxy.connections[index]?

def useContext (serving : ServingProxy Key) (index : Nat) (phase : ConnectionPhase)
    (result : Option Nat) : ServingProxy Key :=
  match serving.rawCtx index with
  | none => serving
  | some id =>
    { serving with
      cache := { serving.cache with heap := phase.useContext object result serving.cache.heap id } }

def handle (serving : ServingProxy Key) (index : Nat) (result : Option Nat) : ServingProxy Key :=
  match serving.connection? index with
  | none => serving
  | some connection =>
    -- A thread that is in GetOrCreateSSLCtx moves when that call returns.
    if connection.phase = .registered ∨ index ∈ serving.life.abandoned ∨
        serving.life.proxy.possible (connection.next result).2 = false then
      serving
    else
      { serving.useContext object index connection.phase result with
        life := serving.life.handle index result }

/-- The exception destroys `ctx`, and nobody frees the `SSL` object. -/
def threadFails (serving : ServingProxy Key) (index : Nat) : ServingProxy Key :=
  match serving.connection? index with
  | none => serving
  | some connection =>
    if connection.phase.pipes = true ∧ index ∉ serving.life.abandoned then
      match serving.rawCtx index with
      | none => { serving with life := serving.life.threadFails index }
      | some id =>
        { serving with
          life := serving.life.threadFails index
          cache := { serving.cache with heap := serving.cache.heap.free id } }
    else serving

def getOrCreateSslCtx (serving : ServingProxy Key) (index : Nat) (call : SslCtxCall Key) :
    ServingProxy Key :=
  if (serving.connection? index).any fun connection => connection.phase = .registered then
    let (cache, ctx) := serving.cache.getOrCreateSslCtx ssl call
    { life := serving.life.handle index ctx
      cache
      rawCtx := Function.update serving.rawCtx index ctx }
  else serving

def stop (serving : ServingProxy Key) : ServingProxy Key :=
  if serving.life.proxy.stop = .stopped then { serving with cache := serving.cache.dropCached }
  else { serving with life := serving.life.stop }

def step (serving : ServingProxy Key) : ServingAction Key → ServingProxy Key
  | .life (.proxy (.handle index result)) => serving.handle object index result
  | .life (.proxy .stop) => serving.stop
  | .life (.threadFails index) => serving.threadFails index
  | .life action => { serving with life := serving.life.step action }
  | .getOrCreateSslCtx index call => serving.getOrCreateSslCtx ssl index call

def machine : Machine (ServingProxy Key) (ServingAction Key) Unit where
  initial := { life := ProxyLife.constructed }
  step serving action := (serving.step ssl object action, ())

def references (serving : ServingProxy Key) (index : Nat) : Nat :=
  match serving.connection? index with
  | none => 0
  | some connection =>
    if index ∈ serving.life.abandoned then object.new else connection.phase.references object

def held (serving : ServingProxy Key) (id index : Nat) : Nat :=
  if serving.rawCtx index = some id then serving.references object index else 0

def threads (serving : ServingProxy Key) (id : Nat) : Nat :=
  ∑ index ∈ Finset.range serving.life.proxy.connections.length, serving.held object id index

structure Counted (serving : ServingProxy Key) : Prop where
  sound : serving.cache.Sound (serving.threads object)
  given : ∀ (index : Nat) (connection : Connection),
    serving.connection? index = some connection → connection.phase ≠ .closing →
      0 < connection.phase.references object → (serving.rawCtx index).isSome = true
  piping : serving.life.AbandonedPiping

end ServingProxy

theorem ConnectionPhase.useContext_balanced {Value : Type} {heap : Heap Value}
    {references next : Nat → Nat} (object : SslReferences) (balanced : heap.Balanced references)
    (connection : Connection) (asked : connection.phase ≠ .registered) (result : Option Nat) {id : Nat}
    (enough : connection.phase.references object ≤ references id)
    (moves : ∀ other, next other + (if other = id then connection.phase.references object else 0) =
      references other +
        if other = id then (connection.next result).1.phase.references object else 0) :
    (connection.phase.useContext object result heap id).Balanced next ∧
      ∀ other, (connection.phase.useContext object result heap id).value other = heap.value other := by
  obtain ⟨clientFd, phase⟩ := connection
  dsimp only at enough moves
  have unchanged (same : phase.references object =
      (Connection.next ⟨clientFd, phase⟩ result).1.phase.references object) : heap.Balanced next := by
    apply balanced.congr
    intro other
    have change := moves other
    rw [← same] at change
    omega
  have freed {count : Nat} (drop : phase.references object =
        (Connection.next ⟨clientFd, phase⟩ result).1.phase.references object + count) :
      (heap.frees id count).Balanced next ∧
        ∀ other, (heap.frees id count).value other = heap.value other := by
    have covered : count ≤ references id := by omega
    obtain ⟨fewer, same⟩ := balanced.frees covered
    refine ⟨fewer.congr fun other => ?_, same⟩
    have change := moves other
    by_cases here : other = id
    · subst here
      simp only [if_true] at change ⊢
      omega
    · simp only [here, if_false] at change ⊢
      omega
  cases phase with
  | registered => exact absurd rfl asked
  | contextHeld =>
    have held : 0 < references id := enough
    obtain ⟨gained, same⟩ := balanced.upRefs held object.new
    cases result with
    | none =>
      have covered : object.free ≤ references id + if id = id then object.new else 0 := by
        rw [if_pos rfl, object.paired]
        omega
      obtain ⟨fewer, still⟩ := gained.frees covered
      refine ⟨fewer.congr fun other => ?_, fun other => (still other).trans (same other)⟩
      have change := moves other
      simp only [ConnectionPhase.references, Connection.next, Connection.handleConnection] at change
      have paired := object.paired
      by_cases here : other = id
      · subst here
        simp_all
      · simp_all
    | some value =>
      refine ⟨gained.congr fun other => ?_, same⟩
      have change := moves other
      simp only [ConnectionPhase.references, Connection.next, Connection.handleConnection] at change
      by_cases here : other = id
      · subst here
        simp at change ⊢
        omega
      · simpa [here] using change
  | shaken =>
    cases result with
    | none => exact freed (by
        simp [ConnectionPhase.references, Connection.next, Connection.handleConnection, object.paired])
    | some value => exact ⟨unchanged rfl, fun _ => rfl⟩
  | refused | drained => exact freed (by
      simp [ConnectionPhase.references, Connection.next, Connection.handleConnection, object.paired])
  | closing => exact freed (show 1 = 0 + 1 from rfl)
  | localRegistered =>
    cases result with
    | none => exact ⟨unchanged rfl, fun _ => rfl⟩
    | some value => exact ⟨unchanged rfl, fun _ => rfl⟩
  | _ => exact ⟨unchanged rfl, fun _ => rfl⟩

-- Only GetOrCreateSSLCtx gives a thread its first reference.
theorem Connection.references_pos (object : SslReferences) (connection : Connection)
    (asked : connection.phase ≠ .registered) (result : Option Nat)
    (holds : 0 < (connection.next result).1.phase.references object) :
    0 < connection.phase.references object := by
  obtain ⟨clientFd, phase⟩ := connection
  cases phase with
  | registered => exact absurd rfl asked
  | launched | counted | closed | forgotten | notifying | finished =>
    simp [next, handleConnection, ConnectionPhase.references] at holds
  | _ => simp [ConnectionPhase.references]

theorem Connection.next_past (connection : Connection)
    (past : connection.phase ∉ [.launched, .counted, .registered]) (result : Option Nat) :
    (connection.next result).1.phase ∉ [.launched, .counted, .registered] := by
  obtain ⟨clientFd, phase⟩ := connection
  cases phase with
  | launched | counted | registered => simp at past
  | contextHeld | shaken | localRegistered => cases result <;> simp [next, handleConnection]
  | _ => simp [next, handleConnection]

namespace ServingProxy

variable {Key : Type} {ssl : BoringSsl Key} {object : SslReferences}
  {serving next : ServingProxy Key} {index : Nat} {connection changed : Connection}

theorem threads_changed (inside : index < serving.life.proxy.connections.length)
    (length : next.life.proxy.connections.length = serving.life.proxy.connections.length) {id : Nat}
    (others : ∀ other, other ≠ index → next.held object id other = serving.held object id other) :
    next.threads object id + serving.held object id index =
      serving.threads object id + next.held object id index := by
  unfold threads
  rw [length]
  exact RefCount.sum_changed inside others

theorem threads_moved (object : SslReferences) (next : ServingProxy Key) (found : serving.connection? index = some connection)
    (connections : next.life.proxy.connections = serving.life.proxy.connections.set index changed)
    (abandoned : next.life.abandoned = serving.life.abandoned) (running : index ∉ serving.life.abandoned)
    (others : ∀ other, other ≠ index → next.rawCtx other = serving.rawCtx other) (id : Nat) :
    next.threads object id + serving.held object id index =
      serving.threads object id +
        if next.rawCtx index = some id then changed.phase.references object else 0 := by
  obtain ⟨inside, -⟩ := List.getElem?_eq_some_iff.mp found
  have mine : next.held object id index =
      if next.rawCtx index = some id then changed.phase.references object else 0 := by
    simp [held, references, connection?, connections, inside, abandoned, running]
  rw [← mine]
  apply threads_changed inside (by simp [connections])
  intro other apart
  have elsewhere : ¬ index = other := fun equal => apart equal.symm
  simp [held, references, connection?, connections, elsewhere, abandoned, others other apart]

theorem threads_launched (fd : Nat)
    (connections : next.life.proxy.connections =
      serving.life.proxy.connections ++ [{ clientFd := fd, phase := .launched }])
    (abandoned : next.life.abandoned = serving.life.abandoned)
    (piping : serving.life.AbandonedPiping)
    (rawCtx : next.rawCtx = serving.rawCtx) : next.threads object = serving.threads object := by
  funext id
  unfold threads
  rw [connections, List.length_append, List.length_singleton, Finset.sum_range_succ]
  have running : serving.life.proxy.connections.length ∉ serving.life.abandoned := by
    intro gone
    obtain ⟨connection, found, -⟩ := piping _ gone
    simp at found
  have last : next.held object id serving.life.proxy.connections.length = 0 := by
    simp [held, references, connection?, connections, abandoned, running,
      ConnectionPhase.references]
  rw [last, Nat.add_zero]
  apply Finset.sum_congr rfl
  intro other member
  have inside := Finset.mem_range.mp member
  simp [held, references, connection?, connections, rawCtx, abandoned,
    List.getElem?_append_left inside]

theorem Counted.framed (counted : serving.Counted object) (cache : next.cache = serving.cache)
    (rawCtx : next.rawCtx = serving.rawCtx)
    (connections : next.life.proxy.connections = serving.life.proxy.connections)
    (abandoned : next.life.abandoned = serving.life.abandoned) : next.Counted object := by
  have threads : next.threads object = serving.threads object := by
    funext id
    simp [ServingProxy.threads, held, references, connection?, connections, rawCtx, abandoned]
  constructor
  · rw [cache, threads]
    exact counted.sound
  · simp only [connection?, connections, rawCtx]
    exact counted.given
  · exact counted.piping.framed abandoned fun _ _ => by rw [connections]

theorem Counted.life (counted : serving.Counted object) (action : LifeAction)
    (shared : ∀ index result, action ≠ .proxy (.handle index result))
    (quiet : ∀ index, action ≠ .threadFails index) :
    Counted object { serving with life := serving.life.step action } := by
  have abandoned := serving.life.step_abandoned quiet
  obtain connections | ⟨fd, connections⟩ := serving.life.step_connections shared
  · exact counted.framed rfl rfl connections abandoned
  · constructor
    · have threads : ServingProxy.threads object { serving with
          life := serving.life.step action } = serving.threads object :=
        threads_launched fd connections abandoned counted.piping rfl
      rw [threads]
      exact counted.sound
    · intro position other found
      rw [connection?, connections, List.getElem?_append] at found
      split at found
      next inside => exact counted.given position other found
      next outside =>
        have last := List.mem_of_getElem? found
        simp only [List.mem_singleton] at last
        simp [last, ConnectionPhase.references]
    · exact counted.piping.step action

theorem held_le_threads (found : serving.connection? index = some connection) (id : Nat) :
    serving.held object id index ≤ serving.threads object id := by
  obtain ⟨inside, -⟩ := List.getElem?_eq_some_iff.mp found
  exact Finset.single_le_sum (fun _ _ => Nat.zero_le _) (Finset.mem_range.mpr inside)

theorem held_running (found : serving.connection? index = some connection)
    (running : index ∉ serving.life.abandoned) (id : Nat) :
    serving.held object id index =
      if serving.rawCtx index = some id then connection.phase.references object else 0 := by
  simp [held, references, found, running]

-- The context is there by then, unless the thread never got one and goes straight to the close.
theorem Counted.given_next (counted : serving.Counted object)
    (found : serving.connection? index = some connection)
    (asked : connection.phase ≠ .registered) (result : Option Nat)
    (holds : 0 < (connection.next result).1.phase.references object) :
    (serving.rawCtx index).isSome = true := by
  apply counted.given index connection found
  · intro phase
    simp [Connection.next, Connection.handleConnection, phase, ConnectionPhase.references] at holds
  · exact connection.references_pos object asked result holds

theorem Counted.useContext (counted : serving.Counted object)
    (found : serving.connection? index = some connection)
    (running : index ∉ serving.life.abandoned)
    (asked : connection.phase ≠ .registered) (result : Option Nat) {id : Nat}
    (raw : serving.rawCtx index = some id)
    (moved : ∀ other, next.threads object other + serving.held object other index =
      serving.threads object other + if serving.rawCtx index = some other then
        (connection.next result).1.phase.references object else 0)
    (cache : next.cache = { serving.cache with
      heap := connection.phase.useContext object result serving.cache.heap id }) :
    next.cache.Sound (next.threads object) ∧
      ∀ other, next.cache.loaded other = serving.cache.loaded other := by
  have mine (other : Nat) : serving.held object other index =
      if other = id then connection.phase.references object else 0 := by
    simp [held_running found running, raw, eq_comm (a := id)]
  have enough : connection.phase.references object ≤
      ContextCache.references serving.cache.cachedSslCtx (serving.threads object) id := by
    have most : serving.held object id index ≤ serving.threads object id := held_le_threads found id
    rw [mine, if_pos rfl] at most
    exact most.trans (Nat.le_add_left _ _)
  have moves (other : Nat) :
      ContextCache.references serving.cache.cachedSslCtx (next.threads object) other +
          (if other = id then connection.phase.references object else 0) =
        ContextCache.references serving.cache.cachedSslCtx (serving.threads object) other +
          if other = id then (connection.next result).1.phase.references object else 0 := by
    have change := moved other
    simp only [raw, Option.some.injEq, mine, eq_comm (a := id)] at change
    simp only [ContextCache.references]
    omega
  obtain ⟨balanced, same⟩ := ConnectionPhase.useContext_balanced object counted.sound.balanced
    connection asked result enough moves
  have loaded (other : Nat) : next.cache.loaded other = serving.cache.loaded other := by
    simp [cache, ContextCache.loaded, same]
  refine ⟨⟨by rwa [cache], ?_⟩, loaded⟩
  intro other kept
  rw [cache] at kept
  have before :
      0 < ContextCache.references serving.cache.cachedSslCtx (serving.threads object) other := by
    have change := moves other
    by_cases here : other = id
    · subst here
      simp only [if_true] at change
      have first := connection.references_pos object asked result
      simp only at kept
      omega
    · simp only [here, if_false] at change
      simp only at kept
      omega
  rw [loaded]
  exact counted.sound.filled other before

theorem Counted.handle (counted : serving.Counted object) (index : Nat) (result : Option Nat) :
    (serving.handle object index result).Counted object ∧
      ∀ id, (serving.handle object index result).cache.loaded id = serving.cache.loaded id := by
  unfold ServingProxy.handle
  split
  next => exact ⟨counted, fun _ => rfl⟩
  next connection found =>
    split
    next => exact ⟨counted, fun _ => rfl⟩
    next moving =>
      have asked : connection.phase ≠ .registered := fun phase => moving (.inl phase)
      have running : index ∉ serving.life.abandoned := fun gone => moving (.inr (.inl gone))
      have possible : serving.life.proxy.possible (connection.next result).2 = true := by
        simpa using fun refused => moving (.inr (.inr refused))
      have piping : (serving.life.handle index result).AbandonedPiping :=
        counted.piping.step (.proxy (.handle index result))
      have moves : serving.life.handle index result = { serving.life with
          proxy := (serving.life.proxy.perform index (connection.next result).2).moveTo index
            (connection.next result).1 } := by
        rw [connection?] at found
        simp [ProxyLife.handle, running, TlsProxy.handle, found, possible]
      have connections : (serving.life.handle index result).proxy.connections =
          serving.life.proxy.connections.set index (connection.next result).1 := by
        simp [moves, TlsProxy.moveTo]
      have abandoned : (serving.life.handle index result).abandoned = serving.life.abandoned := by
        rw [moves]
      have given : ∀ (position : Nat) (other : Connection),
          (serving.life.handle index result).proxy.connections[position]? = some other →
            other.phase ≠ .closing → 0 < other.phase.references object →
              (serving.rawCtx position).isSome = true := by
        intro position other there open_ holds
        rw [moves, TlsProxy.getElem?_moveTo _ _ found] at there
        split at there
        next here =>
          cases there
          rw [← here]
          exact counted.given_next found asked result holds
        next elsewhere => exact counted.given position other there open_ holds
      have moved (cache : ContextCache Key) := threads_moved object
        { serving with cache := cache, life := serving.life.handle index result } found
        connections abandoned running fun _ _ => rfl
      unfold ServingProxy.useContext
      cases raw : serving.rawCtx index with
      | none =>
        refine ⟨⟨?_, given, piping⟩, fun _ => rfl⟩
        have threads : ServingProxy.threads object
            { serving with life := serving.life.handle index result } = serving.threads object := by
          funext id
          have change := moved serving.cache id
          simpa [held, raw] using change
        simp only
        rw [threads]
        exact counted.sound
      | some id =>
        obtain ⟨sound, loaded⟩ :=
          counted.useContext found running asked result raw (moved _) rfl
        exact ⟨⟨sound, given, piping⟩, loaded⟩

theorem Counted.threadFails (counted : serving.Counted object) (index : Nat) :
    (serving.threadFails index).Counted object ∧
      ∀ id, (serving.threadFails index).cache.loaded id = serving.cache.loaded id := by
  unfold ServingProxy.threadFails
  split
  next => exact ⟨counted, fun _ => rfl⟩
  next connection found =>
    split
    next throwing =>
      obtain ⟨pipes, running⟩ := throwing
      obtain ⟨localFd, phase⟩ : ∃ localFd, connection.phase = .piping localFd := by
        cases phase : connection.phase with
        | piping localFd => exact ⟨localFd, rfl⟩
        | _ => simp [phase, ConnectionPhase.pipes] at pipes
      obtain ⟨inside, -⟩ := List.getElem?_eq_some_iff.mp found
      have piping : (serving.life.threadFails index).AbandonedPiping :=
        counted.piping.step (.threadFails index)
      have thrown : serving.life.threadFails index =
          { serving.life with abandoned := insert index serving.life.abandoned } := by
        rw [connection?] at found
        simp [ProxyLife.threadFails, found, pipes]
      obtain ⟨id, raw⟩ := Option.isSome_iff_exists.mp
        (counted.given index connection found (by simp [phase])
          (by simp [phase, ConnectionPhase.references]))
      simp only [raw]
      generalize same : ServingProxy.mk (serving.life.threadFails index)
        { serving.cache with heap := serving.cache.heap.free id } serving.rawCtx = next
      have life : next.life = serving.life.threadFails index := by rw [← same]
      have rawCtx : next.rawCtx = serving.rawCtx := by rw [← same]
      have cache : next.cache = { serving.cache with heap := serving.cache.heap.free id } := by
        rw [← same]
      have gone (other : Nat) : next.threads object other + (if other = id then 1 else 0) =
          serving.threads object other := by
        have change : next.threads object other + serving.held object other index =
            serving.threads object other + next.held object other index :=
          threads_changed inside (by rw [life, thrown]) fun position apart => by
            simp [held, references, connection?, rawCtx, life, thrown, apart]
        have left : next.held object other index = if other = id then object.new else 0 := by
          rw [connection?] at found
          simp [held, references, connection?, rawCtx, life, thrown, found, raw, eq_comm (a := id)]
        rw [held_running found running, left, raw, phase] at change
        simp only [Option.some.injEq, ConnectionPhase.references, eq_comm (a := id)] at change
        by_cases here : other = id
        · simp only [here, if_true] at change ⊢
          omega
        · simp only [here, if_false] at change ⊢
          omega
      obtain ⟨sound, loaded⟩ := counted.sound.free gone
      refine ⟨⟨by rwa [cache], ?_, by rwa [life]⟩, loaded⟩
      simp only [connection?, life, thrown, rawCtx]
      exact counted.given
    next => exact ⟨counted, fun _ => rfl⟩

theorem asking_iff : ((serving.connection? index).any fun connection =>
      decide (connection.phase = .registered)) = true ↔
    ∃ connection : Connection, serving.connection? index = some connection ∧
      connection.phase = .registered := by
  rw [Option.any_eq_true]
  simp

theorem running_of_asking {life : ProxyLife} (piping : life.AbandonedPiping)
    (found : life.proxy.connections[index]? = some connection)
    (phase : connection.phase = .registered) : index ∉ life.abandoned := by
  intro gone
  obtain ⟨other, there, pipes⟩ := piping index gone
  cases found.symm.trans there
  simp [phase, ConnectionPhase.pipes] at pipes

theorem handle_registered {life : ProxyLife} (piping : life.AbandonedPiping)
    (found : life.proxy.connections[index]? = some connection)
    (phase : connection.phase = .registered) (ctx : Option Nat) :
    (life.handle index ctx).proxy.connections =
        life.proxy.connections.set index (connection.next ctx).1 ∧
      (life.handle index ctx).abandoned = life.abandoned := by
  have running := running_of_asking piping found phase
  simp [ProxyLife.handle, running, TlsProxy.handle, found, Connection.next, phase,
    Connection.handleConnection, TlsProxy.possible, TlsProxy.perform, TlsProxy.moveTo]

theorem Counted.getOrCreateSslCtx (counted : serving.Counted object) (index : Nat)
    (call : SslCtxCall Key) : (serving.getOrCreateSslCtx ssl index call).Counted object := by
  unfold ServingProxy.getOrCreateSslCtx
  split
  next asking =>
    obtain ⟨connection, found, phase⟩ := asking_iff.mp asking
    have running := running_of_asking counted.piping found phase
    obtain ⟨sound, -, -, -⟩ := counted.sound.getOrCreateSslCtx ssl call
    generalize serving.cache.getOrCreateSslCtx ssl call = served at sound ⊢
    obtain ⟨cache, ctx⟩ := served
    obtain ⟨connections, abandoned⟩ := handle_registered counted.piping found phase ctx
    constructor
    · have threads : ServingProxy.threads object
          { life := serving.life.handle index ctx
            cache := cache
            rawCtx := Function.update serving.rawCtx index ctx } =
          fun id => serving.threads object id + if ctx = some id then 1 else 0 := by
        funext id
        have change := threads_moved object
          { life := serving.life.handle index ctx
            cache := cache
            rawCtx := Function.update serving.rawCtx index ctx } found connections abandoned running
          (fun other apart => Function.update_of_ne apart _ _) id
        rw [held_running found running] at change
        cases ctx with
        | none => simpa [phase, ConnectionPhase.references] using change
        | some made =>
          simpa [phase, ConnectionPhase.references, Connection.next,
            Connection.handleConnection] using change
      simp only
      rw [threads]
      exact sound
    · intro position other there open_ holds
      simp only [connection?] at there ⊢
      rw [connections, List.getElem?_set] at there
      split at there
      next here =>
        subst here
        cases ctx with
        | none =>
          obtain ⟨-, rfl⟩ : index < serving.life.proxy.connections.length ∧
              (connection.next none).1 = other := by simpa using there
          simp [Connection.next, Connection.handleConnection, phase] at open_
        | some made => simp
      next elsewhere =>
        rw [Function.update_of_ne (fun equal => elsewhere equal.symm)]
        exact counted.given position other there open_ holds
    · exact counted.piping.step (.proxy (.handle index ctx))
  next => exact counted

theorem Counted.stop (counted : serving.Counted object) : serving.stop.Counted object := by
  unfold ServingProxy.stop
  split
  next stopped =>
    obtain ⟨sound, -, -⟩ := counted.sound.dropCached
    exact ⟨sound, counted.given, counted.piping⟩
  next running => exact counted.life (.proxy .stop) (by simp) (by simp)

theorem Counted.step (counted : serving.Counted object) (action : ServingAction Key) :
    (serving.step ssl object action).Counted object := by
  cases action with
  | getOrCreateSslCtx index call => exact counted.getOrCreateSslCtx index call
  | life action =>
    cases action with
    | start result => exact counted.life (.start result) (by simp) (by simp)
    | threadFails index => exact (counted.threadFails index).1
    | proxy action =>
      cases action with
      | handle index result => exact (counted.handle index result).1
      | stop => exact counted.stop
      | listen accepted => exact counted.life (.proxy (.listen accepted)) (by simp) (by simp)
      | openElsewhere fd => exact counted.life (.proxy (.openElsewhere fd)) (by simp) (by simp)
      | closeElsewhere fd => exact counted.life (.proxy (.closeElsewhere fd)) (by simp) (by simp)

theorem machine_counted (ssl : BoringSsl Key) (object : SslReferences)
    (actions : List (ServingAction Key)) :
    ((machine ssl object).after (machine ssl object).initial actions).Counted object := by
  apply (machine ssl object).after_preserves (Counted object)
  · intro serving action counted
    exact counted.step action
  · constructor
    · refine ⟨⟨rfl, ?_⟩, ?_⟩
      · intro id
        simp [Heap.count, ContextCache.references, threads, machine, ProxyLife.constructed,
          TlsProxy.started]
      · intro id
        simp [ContextCache.references, threads, machine, ProxyLife.constructed, TlsProxy.started]
    · simp [machine, connection?, ProxyLife.constructed, TlsProxy.started]
    · simp [machine, ProxyLife.AbandonedPiping, ProxyLife.constructed]

theorem step_life (ssl : BoringSsl Key) (object : SslReferences) (serving : ServingProxy Key)
    (action : ServingAction Key) :
    (serving.step ssl object action).life = serving.life ∨
      ∃ underneath, (serving.step ssl object action).life = serving.life.step underneath := by
  cases action with
  | getOrCreateSslCtx index call =>
    simp only [step, getOrCreateSslCtx]
    split
    · exact .inr ⟨.proxy (.handle index (serving.cache.getOrCreateSslCtx ssl call).2), rfl⟩
    · exact .inl rfl
  | life action =>
    cases action with
    | start result => exact .inr ⟨.start result, rfl⟩
    | threadFails index =>
      simp only [step, threadFails]
      split
      · exact .inl rfl
      · split
        · split <;> exact .inr ⟨.threadFails index, rfl⟩
        · exact .inl rfl
    | proxy action =>
      cases action with
      | handle index result =>
        simp only [step, handle]
        split
        · exact .inl rfl
        · split
          · exact .inl rfl
          · exact .inr ⟨.proxy (.handle index result), rfl⟩
      | stop =>
        simp only [step, stop]
        split
        · exact .inl rfl
        · exact .inr ⟨.proxy .stop, rfl⟩
      | listen accepted => exact .inr ⟨.proxy (.listen accepted), rfl⟩
      | openElsewhere fd => exact .inr ⟨.proxy (.openElsewhere fd), rfl⟩
      | closeElsewhere fd => exact .inr ⟨.proxy (.closeElsewhere fd), rfl⟩

theorem machine_life (ssl : BoringSsl Key) (object : SslReferences)
    (actions : List (ServingAction Key)) :
    ProxyLife.machine.Reachable ((machine ssl object).after (machine ssl object).initial actions).life := by
  apply (machine ssl object).after_preserves
    (fun serving => ProxyLife.machine.Reachable serving.life)
  · intro serving action reachable
    obtain same | ⟨underneath, moved⟩ := serving.step_life ssl object action
    · exact same ▸ reachable
    · have next := reachable.step underneath
      rw [show ((machine ssl object).step serving action).1.life = _ from moved]
      exact next
  · exact ⟨[], rfl⟩

theorem machine_ended (ssl : BoringSsl Key) (object : SslReferences)
    (actions : List (ServingAction Key)) :
    let serving := (machine ssl object).after (machine ssl object).initial actions
    serving.life.proxy.stop = .stopped → ∀ (index : Nat) (connection : Connection),
      serving.connection? index = some connection → connection.phase = .finished ∨
        index ∈ serving.life.abandoned ∧ connection.phase.pipes = true := by
  intro serving stopped index connection found
  obtain ⟨before, same⟩ := machine_life ssl object actions
  have awaited : serving.life.Awaited := same ▸ ProxyLife.machine_awaited before
  exact awaited.ended (machine_counted ssl object actions).piping stopped found

theorem references_pipes (pipes : connection.phase.pipes = true) :
    0 < connection.phase.references object := by
  cases phase : connection.phase with
  | piping localFd => simp [ConnectionPhase.references]
  | _ => simp [phase, ConnectionPhase.pipes] at pipes

theorem references_phase (piping : serving.life.AbandonedPiping)
    (found : serving.connection? index = some connection)
    (holds : 0 < serving.references object index) : 0 < connection.phase.references object := by
  simp only [references, found] at holds
  split at holds
  next gone =>
    obtain ⟨other, there, pipes⟩ := piping index gone
    cases found.symm.trans there
    exact references_pipes pipes
  next => exact holds

theorem threads_ended (piping : serving.life.AbandonedPiping)
    (ended : ∀ (index : Nat) (connection : Connection), serving.connection? index = some connection →
      connection.phase = .finished ∨ index ∈ serving.life.abandoned ∧ connection.phase.pipes = true)
    (id : Nat) :
    serving.threads object id =
      ∑ index ∈ serving.life.abandoned, if serving.rawCtx index = some id then object.new else 0 := by
  have left (index : Nat) (gone : index ∈ serving.life.abandoned) :
      serving.held object id index = if serving.rawCtx index = some id then object.new else 0 := by
    obtain ⟨connection, found, -⟩ := piping index gone
    simp [held, references, connection?, found, gone]
  rw [← Finset.sum_congr rfl left]
  symm
  apply Finset.sum_subset
  · intro index gone
    obtain ⟨connection, found, -⟩ := piping index gone
    obtain ⟨inside, -⟩ := List.getElem?_eq_some_iff.mp found
    exact Finset.mem_range.mpr inside
  · intro index _ running
    unfold held references
    cases found : serving.connection? index with
    | none => simp
    | some connection =>
      obtain finished | ⟨gone, -⟩ := ended index connection found
      · simp [running, finished, ConnectionPhase.references]
      · exact absurd gone running

/--
In every interleaving the counter of each context is the number of its users, so that no call is
ever made on one that has been freed; a connection that got a context has it, loaded and alive,
until it gives it back; and when Stop is through, only what exceptions left is left.
-/
theorem contexts_counted_exactly (ssl : BoringSsl Key) (object : SslReferences)
    (actions : List (ServingAction Key)) :
    let serving := (machine ssl object).after (machine ssl object).initial actions
    serving.cache.heap.corrupted = false ∧
      (∀ id, serving.cache.heap.count id =
        (if serving.cache.cachedSslCtx = some id then 1 else 0) + serving.threads object id) ∧
      (∀ (index : Nat) (connection : Connection), serving.connection? index = some connection →
        connection.phase ≠ .closing → 0 < serving.references object index →
          ∃ id ctx, serving.rawCtx index = some id ∧
            0 < serving.cache.heap.count id ∧ serving.cache.loaded id = some ctx) ∧
      (serving.life.proxy.stop = .stopped →
        ∀ id, (serving.step ssl object (.life (.proxy .stop))).cache.heap.count id =
          ∑ index ∈ serving.life.abandoned,
            if serving.rawCtx index = some id then object.new else 0) := by
  intro serving
  have counted : serving.Counted object := machine_counted ssl object actions
  have balanced := counted.sound.balanced
  refine ⟨balanced.sound, balanced.exact, ?_, ?_⟩
  · intro index connection found open_ holds
    obtain ⟨id, raw⟩ := Option.isSome_iff_exists.mp (counted.given index connection found open_
      (references_phase counted.piping found holds))
    have least : serving.held object id index ≤ serving.threads object id := held_le_threads found id
    have positive :
        0 < ContextCache.references serving.cache.cachedSslCtx (serving.threads object) id := by
      simp only [held, raw, if_true] at least
      simp only [ContextCache.references]
      omega
    obtain ⟨ctx, loaded⟩ := Option.isSome_iff_exists.mp (counted.sound.filled id positive)
    exact ⟨id, ctx, raw, by rwa [balanced.exact], loaded⟩
  · intro stopped id
    have left : serving.threads object id = _ :=
      threads_ended counted.piping (machine_ended ssl object actions stopped) id
    obtain ⟨dropped, cleared, -⟩ := counted.sound.dropCached
    have exact_ := dropped.balanced.exact id
    simpa [step, stop, stopped, ContextCache.references, cleared, left] using exact_

theorem view_congr {cache next : ContextCache Key} (fields : next.cachedTime = cache.cachedTime ∧
      next.cachedCertPem = cache.cachedCertPem ∧ next.cachedKeyPem = cache.cachedKeyPem ∧
      next.cachedSslCtx = cache.cachedSslCtx)
    (loaded : ∀ id, next.loaded id = cache.loaded id) : next.view = cache.view := by
  obtain ⟨time, certPem, keyPem, cached⟩ := fields
  unfold ContextCache.view
  rw [time, certPem, keyPem, cached, funext loaded]

theorem Counted.view_handle (counted : serving.Counted object) (index : Nat) (result : Option Nat) :
    (serving.handle object index result).cache.view = serving.cache.view := by
  apply view_congr
  · unfold ServingProxy.handle
    split
    · exact ⟨rfl, rfl, rfl, rfl⟩
    · split
      · exact ⟨rfl, rfl, rfl, rfl⟩
      · unfold ServingProxy.useContext
        split <;> exact ⟨rfl, rfl, rfl, rfl⟩
  · exact (counted.handle index result).2

theorem Counted.view_threadFails (counted : serving.Counted object) (index : Nat) :
    (serving.threadFails index).cache.view = serving.cache.view := by
  apply view_congr
  · unfold ServingProxy.threadFails
    split
    · exact ⟨rfl, rfl, rfl, rfl⟩
    · split
      · split <;> exact ⟨rfl, rfl, rfl, rfl⟩
      · exact ⟨rfl, rfl, rfl, rfl⟩
  · exact (counted.threadFails index).2

theorem Counted.view_step (counted : serving.Counted object) (ssl : BoringSsl Key)
    (running : serving.life.proxy.stop ≠ .stopped) (action : ServingAction Key) :
    (serving.step ssl object action).cache.view = serving.cache.view ∨
      ∃ call, (serving.step ssl object action).cache.view =
        ((credentialMachine ssl).step serving.cache.view call).1 := by
  cases action with
  | getOrCreateSslCtx index call =>
    simp only [ServingProxy.step, ServingProxy.getOrCreateSslCtx]
    split
    · obtain ⟨-, -, view, -⟩ := counted.sound.getOrCreateSslCtx ssl call
      exact .inr ⟨call, view⟩
    · exact .inl rfl
  | life action =>
    left
    cases action with
    | start result => rfl
    | threadFails index => exact counted.view_threadFails index
    | proxy action =>
      cases action with
      | handle index result => exact counted.view_handle index result
      | stop => simp only [ServingProxy.step, ServingProxy.stop, running, if_false]
      | listen | openElsewhere | closeElsewhere => rfl

theorem machine_view (ssl : BoringSsl Key) (object : SslReferences)
    (actions : List (ServingAction Key)) :
    let serving := (machine ssl object).after (machine ssl object).initial actions
    serving.life.proxy.stop = .stopped ∨ (credentialMachine ssl).Reachable serving.cache.view := by
  induction actions using List.reverseRecOn with
  | nil => exact .inr ⟨[], rfl⟩
  | append_singleton earlier action ih =>
    have counted := machine_counted ssl object earlier
    rw [Machine.after_append]
    generalize (machine ssl object).after (machine ssl object).initial earlier = serving at *
    show (serving.step ssl object action).life.proxy.stop = .stopped ∨
      (credentialMachine ssl).Reachable (serving.step ssl object action).cache.view
    by_cases stopped : serving.life.proxy.stop = .stopped
    · left
      obtain same | ⟨underneath, moved⟩ := serving.step_life ssl object action
      · rwa [same]
      · rw [moved]
        exact ProxyLife.stopped_step stopped underneath
    · right
      have reachable := ih.resolve_left stopped
      obtain same | ⟨call, moved⟩ := counted.view_step ssl stopped action
      · rwa [same]
      · rw [moved]
        exact reachable.step call

def Past (serving : ServingProxy Key) (index : Nat) : Prop :=
  ∃ connection : Connection, serving.connection? index = some connection ∧
    connection.phase ∉ [.launched, .counted, .registered]

structure Keeps (object : SslReferences) (serving next : ServingProxy Key) (index : Nat) : Prop where
  past : next.Past index
  rawCtx : next.rawCtx index = serving.rawCtx index
  references : 0 < next.references object index → 0 < serving.references object index

theorem Keeps.of_same (past : serving.Past index) (connection : next.connection? index = serving.connection? index)
    (abandoned : next.life.abandoned = serving.life.abandoned)
    (rawCtx : next.rawCtx index = serving.rawCtx index) : Keeps object serving next index := by
  refine ⟨?_, rawCtx, ?_⟩
  · rw [Past, connection]
    exact past
  · simp [ServingProxy.references, connection, abandoned]

theorem Keeps.life (past : serving.Past index) {action : LifeAction}
    (shared : ∀ position result, action ≠ .proxy (.handle position result))
    (quiet : ∀ position, action ≠ .threadFails position) :
    Keeps object serving { serving with life := serving.life.step action } index := by
  refine .of_same past ?_ (serving.life.step_abandoned quiet) rfl
  obtain same | ⟨fd, launched⟩ := serving.life.step_connections shared
  · simp only [connection?, same]
  · obtain ⟨connection, found, -⟩ := past
    obtain ⟨inside, -⟩ := List.getElem?_eq_some_iff.mp found
    simp only [connection?, launched, List.getElem?_append_left inside]

theorem Keeps.threadFails (past : serving.Past index) (position : Nat) : Keeps object serving (serving.threadFails position) index := by
  unfold ServingProxy.threadFails
  split
  next => exact .of_same past rfl rfl rfl
  next connection found =>
    split
    next throwing =>
      have thrown : serving.life.threadFails position =
          { serving.life with abandoned := insert position serving.life.abandoned } := by
        rw [connection?] at found
        simp [ProxyLife.threadFails, found, throwing.1]
      have keeps (cache : ContextCache Key) : Keeps object serving
          { serving with life := serving.life.threadFails position, cache } index := by
        refine ⟨?_, rfl, fun holds => ?_⟩
        · simpa only [Past, connection?, thrown] using past
        · by_cases here : index = position
          · subst here
            simpa [ServingProxy.references, found, throwing.2] using references_pipes throwing.1
          · simpa [ServingProxy.references, connection?, thrown, here] using holds
      split
      · exact keeps serving.cache
      · exact keeps _
    next => exact .of_same past rfl rfl rfl

theorem Keeps.handle (past : serving.Past index) (position : Nat) (result : Option Nat) :
    Keeps object serving (serving.handle object position result) index := by
  unfold ServingProxy.handle
  split
  next => exact .of_same past rfl rfl rfl
  next connection found =>
    split
    next => exact .of_same past rfl rfl rfl
    next moving =>
      have asked : connection.phase ≠ .registered := fun phase => moving (.inl phase)
      have running : position ∉ serving.life.abandoned := fun gone => moving (.inr (.inl gone))
      have possible : serving.life.proxy.possible (connection.next result).2 = true := by
        simpa using fun refused => moving (.inr (.inr refused))
      obtain ⟨inside, -⟩ := List.getElem?_eq_some_iff.mp found
      have abandoned : (serving.life.handle position result).abandoned = serving.life.abandoned := by
        simp [ProxyLife.handle, running]
      have connections (other : Nat) : (serving.life.handle position result).proxy.connections[other]? =
          if position = other then some (connection.next result).1
          else serving.life.proxy.connections[other]? := by
        rw [connection?] at found
        simp only [ProxyLife.handle, running, if_false, TlsProxy.handle, found, possible, if_true]
        exact TlsProxy.getElem?_moveTo _ _ found other
      have rawCtx : (serving.useContext object position connection.phase result).rawCtx =
          serving.rawCtx := by
        unfold ServingProxy.useContext
        split <;> rfl
      by_cases here : position = index
      · subst here
        refine ⟨⟨(connection.next result).1, by simp [connection?, connections], ?_⟩,
          congrFun rawCtx position, fun holds => ?_⟩
        · obtain ⟨used, there, past⟩ := past
          cases there.symm.trans found
          exact connection.next_past past result
        · simp only [ServingProxy.references, connection?, connections, if_true, abandoned, running,
            if_false] at holds
          simpa [ServingProxy.references, found, running] using
            connection.references_pos object asked result holds
      · exact .of_same past (by simp [connection?, connections, here]) abandoned
          (congrFun rawCtx index)

theorem Keeps.getOrCreateSslCtx (past : serving.Past index) (piping : serving.life.AbandonedPiping)
    (position : Nat) (call : SslCtxCall Key) :
    Keeps object serving (serving.getOrCreateSslCtx ssl position call) index := by
  unfold ServingProxy.getOrCreateSslCtx
  split
  next asking =>
    obtain ⟨connection, found, phase⟩ := asking_iff.mp asking
    have apart : position ≠ index := by
      rintro rfl
      obtain ⟨used, there, past⟩ := past
      cases there.symm.trans found
      simp [phase] at past
    obtain ⟨connections, abandoned⟩ := handle_registered piping found phase
      (serving.cache.getOrCreateSslCtx ssl call).2
    refine .of_same past ?_ abandoned (Function.update_of_ne apart.symm _ _)
    simp only [connection?, connections, List.getElem?_set_ne apart]
  next => exact .of_same past rfl rfl rfl

theorem Counted.keeps (counted : serving.Counted object) (ssl : BoringSsl Key)
    (past : serving.Past index) (action : ServingAction Key) :
    Keeps object serving (serving.step ssl object action) index := by
  cases action with
  | getOrCreateSslCtx position call => exact .getOrCreateSslCtx past counted.piping position call
  | life action =>
    cases action with
    | start result => exact .life past (by simp) (by simp)
    | threadFails position => exact .threadFails past position
    | proxy action =>
      cases action with
      | handle position result => exact .handle past position result
      | stop =>
        simp only [ServingProxy.step, ServingProxy.stop]
        split
        next => exact .of_same past rfl rfl rfl
        next =>
          exact .of_same past (by simp only [connection?, serving.life.stop_frame.2])
            serving.life.stop_frame.1 rfl
      | listen accepted => exact .life past (by simp) (by simp)
      | openElsewhere fd => exact .life past (by simp) (by simp)
      | closeElsewhere fd => exact .life past (by simp) (by simp)

theorem Counted.loaded_step (counted : serving.Counted object) (ssl : BoringSsl Key)
    (action : ServingAction Key) {id : Nat} (used : 0 < serving.threads object id) :
    (serving.step ssl object action).cache.loaded id = serving.cache.loaded id := by
  cases action with
  | getOrCreateSslCtx position call =>
    simp only [ServingProxy.step, ServingProxy.getOrCreateSslCtx]
    split
    · obtain ⟨-, loaded, -, -⟩ := counted.sound.getOrCreateSslCtx ssl call
      exact loaded id used
    · rfl
  | life action =>
    cases action with
    | start result => rfl
    | threadFails position => exact (counted.threadFails position).2 id
    | proxy action =>
      cases action with
      | handle position result => exact (counted.handle position result).2 id
      | stop =>
        simp only [ServingProxy.step, ServingProxy.stop]
        split
        · exact counted.sound.dropCached.2.2 id
        · rfl
      | listen | openElsewhere | closeElsewhere => rfl

structure Uses (object : SslReferences) (serving : ServingProxy Key) (index : Nat) (ctx : SslCtx Key) :
    Prop where
  past : serving.Past index
  same : 0 < serving.references object index →
    ∃ id, serving.rawCtx index = some id ∧ serving.cache.loaded id = some ctx

theorem Uses.used {ctx : SslCtx Key} (uses : serving.Uses object index ctx)
    (holds : 0 < serving.references object index) :
    ∃ id, serving.rawCtx index = some id ∧ serving.cache.loaded id = some ctx ∧
      0 < serving.threads object id := by
  obtain ⟨id, raw, loaded⟩ := uses.same holds
  obtain ⟨connection, found, -⟩ := uses.past
  have least : serving.held object id index ≤ serving.threads object id := held_le_threads found id
  simp only [held, raw, if_true] at least
  exact ⟨id, raw, loaded, by omega⟩

theorem Uses.step {ctx : SslCtx Key} (uses : serving.Uses object index ctx)
    (counted : serving.Counted object) (ssl : BoringSsl Key) (action : ServingAction Key) :
    (serving.step ssl object action).Uses object index ctx := by
  have keeps := counted.keeps ssl uses.past action
  refine ⟨keeps.past, fun holds => ?_⟩
  obtain ⟨id, raw, loaded, used⟩ := uses.used (keeps.references holds)
  exact ⟨id, keeps.rawCtx.trans raw, (counted.loaded_step ssl action used).trans loaded⟩

theorem Counted.answered (counted : serving.Counted object) (ssl : BoringSsl Key)
    (found : serving.connection? index = some connection)
    (phase : connection.phase = .registered) (call : SslCtxCall Key) :
    let next := serving.getOrCreateSslCtx ssl index call
    let answer := (serving.cache.view.getOrCreateSslCtx ssl call).2
    next.Past index ∧ (next.rawCtx index).bind next.cache.loaded = answer ∧
      (answer = none → next.rawCtx index = none) := by
  obtain ⟨inside, -⟩ := List.getElem?_eq_some_iff.mp found
  obtain ⟨sound, -, -, returned⟩ := counted.sound.getOrCreateSslCtx ssl call
  obtain ⟨connections, -⟩ := handle_registered counted.piping found phase
    (serving.cache.getOrCreateSslCtx ssl call).2
  unfold ServingProxy.getOrCreateSslCtx
  rw [if_pos (asking_iff.mpr ⟨connection, found, phase⟩)]
  refine ⟨⟨(connection.next (serving.cache.getOrCreateSslCtx ssl call).2).1, ?_, ?_⟩, ?_, ?_⟩
  · simp [connection?, connections, inside]
  · cases (serving.cache.getOrCreateSslCtx ssl call).2 <;>
      simp [Connection.next, Connection.handleConnection, phase]
  · simpa using returned
  · intro null
    rw [← returned] at null
    simp only [Function.update_self]
    cases given : (serving.cache.getOrCreateSslCtx ssl call).2 with
    | none => rfl
    | some id =>
      -- A pointer that is handed over is to a context that has been loaded.
      have loaded := sound.filled id (by simp [ContextCache.references, given])
      rw [given, Option.bind_some] at null
      simp [null] at loaded

/--
Whatever GetOrCreateSSLCtx gives a connection is what the cache of values answers to that call, in a
state that such calls lead to: nothing, when that is null; and otherwise, however often the cache is
rebuilt or emptied afterwards, the connection has that very context, alive, for as long as it has
not given it back.
-/
theorem served_context_outlives_rebuilds (ssl : BoringSsl Key) (object : SslReferences)
    (earlier later : List (ServingAction Key)) (index : Nat) (connection : Connection)
    (found : ((machine ssl object).after (machine ssl object).initial
      earlier).connection? index = some connection)
    (phase : connection.phase = .registered) (call : SslCtxCall Key) :
    let serving := (machine ssl object).after (machine ssl object).initial earlier
    let next := (machine ssl object).after
      (serving.step ssl object (.getOrCreateSslCtx index call)) later
    (credentialMachine ssl).Reachable serving.cache.view ∧
      (((credentialMachine ssl).step serving.cache.view call).2 = none →
        next.rawCtx index = none) ∧
      ∀ ctx, ((credentialMachine ssl).step serving.cache.view call).2 = some ctx →
        0 < next.references object index → ∃ id, next.rawCtx index = some id ∧
          0 < next.cache.heap.count id ∧ next.cache.loaded id = some ctx := by
  intro serving next
  have counted : serving.Counted object := machine_counted ssl object earlier
  obtain ⟨past, given, refused⟩ := counted.answered ssl found phase call
  refine ⟨?_, fun null => ?_, fun ctx served holds => ?_⟩
  · obtain stopped | reachable := machine_view ssl object earlier
    · obtain finished | ⟨-, pipes⟩ := machine_ended ssl object earlier stopped index connection found
      · simp [phase] at finished
      · simp [phase, ConnectionPhase.pipes] at pipes
    · exact reachable
  · have kept : next.Counted object ∧ next.Past index ∧ next.rawCtx index = none := by
      apply (machine ssl object).after_preserves fun state =>
        state.Counted object ∧ state.Past index ∧ state.rawCtx index = none
      · rintro state action ⟨counted, past, none_⟩
        have keeps := counted.keeps ssl past action
        exact ⟨counted.step action, keeps.past, keeps.rawCtx.trans none_⟩
      · exact ⟨counted.step _, past, refused null⟩
    exact kept.2.2
  · have kept : next.Counted object ∧ next.Uses object index ctx := by
      apply (machine ssl object).after_preserves fun state =>
        state.Counted object ∧ state.Uses object index ctx
      · intro state action both
        exact ⟨both.1.step action, both.2.step both.1 ssl action⟩
      · refine ⟨counted.step _, past, fun _ => ?_⟩
        exact Option.bind_eq_some_iff.mp (given.trans served)
    obtain ⟨books, uses⟩ := kept
    obtain ⟨id, raw, loaded, used⟩ := uses.used holds
    refine ⟨id, raw, ?_, loaded⟩
    rw [books.sound.balanced.exact]
    simp only [ContextCache.references]
    omega

-- An SSL object of BoringSSL has its context twice.
def boringReferences : SslReferences := ⟨2, 2, rfl⟩

def smallAccept (index fd : Nat) : List (ServingAction Bytes) :=
  [.life (.proxy (.listen none)), .life (.proxy (.listen (some fd))), .life (.proxy (.listen none)),
    .life (.proxy (.listen none)), .life (.proxy (.listen none)), .life (.proxy (.listen none)),
    .life (.proxy (.handle index none)), .life (.proxy (.handle index none))]

def smallStart : List (ServingAction Bytes) :=
  (ProxyLife.startedActions 3).map .life ++ smallAccept 0 7

def smallContext : SslCtxCall Bytes :=
  ⟨20 * 1000000000, 21 * 1000000000, [1], fun _ => false, fun _ => .ok [7], fun _ => false,
    fun _ => false⟩

-- Another connection finds the cache stale and cannot make a context in place of the old one, while
-- the first is between its handshake and its local socket.
def smallRebuild : List (ServingAction Bytes) :=
  smallAccept 1 9 ++
    [.getOrCreateSslCtx 1 ⟨40 * 1000000000, 41 * 1000000000, [1], fun _ => false,
      fun _ => .ok [7], fun _ => false, fun step => step == .new⟩,
    .life (.proxy (.handle 0 (some 0)))]

theorem small_context_outlives_rebuild :
    let serving := (machine smallSsl boringReferences).after (machine smallSsl boringReferences).initial
      smallStart
    let next := (machine smallSsl boringReferences).after
      (serving.step smallSsl boringReferences (.getOrCreateSslCtx 0 smallContext)) smallRebuild
    next.cache.cachedSslCtx = none ∧ ∃ id, next.rawCtx 0 = some id ∧ 0 < next.cache.heap.count id ∧
      next.cache.loaded id = some ⟨smallCertificate, [1]⟩ := by
  obtain ⟨-, -, outlives⟩ := served_context_outlives_rebuilds smallSsl boringReferences smallStart
    smallRebuild 0 ⟨7, .registered⟩ (by decide +kernel) rfl smallContext
  exact ⟨by decide +kernel,
    outlives ⟨smallCertificate, [1]⟩ (by decide +kernel) (by decide +kernel)⟩

end ServingProxy

end Ztab
