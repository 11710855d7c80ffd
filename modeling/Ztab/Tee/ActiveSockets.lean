import Mathlib.Data.Finset.Basic
import Ztab.Tee.TlsProxy

set_option autoImplicit false

/-!
# The active sockets

`active_sockets_` against the descriptors that are open. A connection's own books say what it
has opened and what it has registered; the set is exact as long as no descriptor is closed
before it is taken off the books.
-/

namespace Ztab

namespace Connection

def owned (connection : Connection) : Finset Nat :=
  match connection.phase with
  | .launched | .counted | .registered | .contextHeld | .shaken | .closing => {connection.clientFd}
  | .localOpened fd | .localRegistered fd | .refused fd | .piping fd | .drained fd
  | .localForgotten fd => {fd, connection.clientFd}
  | .closed | .forgotten | .notifying | .finished => ∅

def registered (connection : Connection) : Finset Nat :=
  match connection.phase with
  | .launched | .counted | .forgotten | .notifying | .finished => ∅
  | .localRegistered fd | .refused fd | .piping fd | .drained fd => {fd, connection.clientFd}
  | .registered | .contextHeld | .shaken | .localOpened _ | .localForgotten _ | .closing
  | .closed => {connection.clientFd}

def localFd (connection : Connection) : Option Nat :=
  match connection.phase with
  | .localOpened fd | .localRegistered fd | .refused fd | .piping fd | .drained fd
  | .localForgotten fd => some fd
  | _ => none

@[mk_iff tidy_iff]
structure Tidy (connection : Connection) : Prop where
  apart : connection.clientFd ∉ connection.localFd
  within : connection.registered ⊆ connection.owned

def Piping (connection : Connection) (localFd : Nat) : Prop :=
  connection.phase = .piping localFd ∨ connection.phase = .drained localFd

/-- The next step closes a descriptor that is registered: the client's, or the local one after
a failed connect. -/
def ClosesRegistered (connection : Connection) : Prop :=
  connection.phase = .closing ∨ ∃ localFd, connection.phase = .refused localFd

end Connection

namespace Operation

def opens : Operation → Finset Nat → Finset Nat
  | .socket fd, fds => insert fd fds
  | .close fd, fds => fds.erase fd
  | _, fds => fds

def activates : Operation → Finset Nat → Finset Nat
  | .addActiveSocket fd, fds => insert fd fds
  | .removeActiveSocket fd, fds => fds.erase fd
  | _, fds => fds

def Within (connection : Connection) : Operation → Prop
  | .addActiveSocket fd | .close fd => fd ∈ connection.owned
  | .removeActiveSocket fd => fd ∈ connection.registered
  | .socket fd => fd ∉ connection.owned
  | _ => True

theorem mem_activates {connection : Connection} {operation : Operation}
    (within : operation.Within connection) {fds : Finset Nat}
    (registered : connection.registered ⊆ fds) (fd : Nat) :
    fd ∈ operation.activates fds ↔
      fd ∈ operation.activates connection.registered ∨
        fd ∈ fds ∧ fd ∉ connection.registered := by
  have known : fd ∈ connection.registered → fd ∈ fds := fun member => registered member
  cases operation with
  | addActiveSocket other =>
    simp only [activates, Finset.mem_insert]
    tauto
  | removeActiveSocket other =>
    simp only [Within] at within
    simp only [activates, Finset.mem_erase]
    by_cases same : fd = other
    · subst same
      simp [within]
    · tauto
  | skip | increment | decrement | socket | close | notifyOne =>
    simp only [activates]
    tauto

end Operation

-- What a thread opens, closes, adds and removes is its own, and its books follow.
theorem Connection.next_books {connection : Connection} (tidy : connection.Tidy)
    (open_ : ¬ connection.ClosesRegistered) (result : Option Nat)
    (fresh : ∀ fd, (connection.next result).2 = .socket fd → fd ∉ connection.owned) :
    (connection.next result).2.Within connection ∧
    (connection.next result).1.owned = (connection.next result).2.opens connection.owned ∧
    (connection.next result).1.registered =
      (connection.next result).2.activates connection.registered ∧
    (connection.next result).1.Tidy := by
  obtain ⟨clientFd, phase⟩ := connection
  obtain ⟨apart, within⟩ := tidy
  cases phase with
  | closing => exact absurd (.inl rfl) open_
  | refused localFd => exact absurd (.inr ⟨localFd, rfl⟩) open_
  | shaken =>
    cases result with
    | none =>
      refine ⟨trivial, rfl, rfl, ⟨?_, ?_⟩⟩ <;>
        simp [next, handleConnection, localFd, registered, owned]
    | some fd =>
      have new : fd ≠ clientFd := by simpa [owned] using fresh fd rfl
      refine ⟨?_, rfl, rfl, ⟨?_, ?_⟩⟩
      · simpa [next, handleConnection, Operation.Within, owned] using new
      · simpa [next, handleConnection, localFd] using new
      · simp [next, handleConnection, registered, owned]
  | closed => simp [registered, owned] at within
  | registered | contextHeld | localRegistered =>
    cases result <;>
      simp_all [next, handleConnection, localFd, registered, owned, Operation.Within,
        Operation.opens, Operation.activates, tidy_iff]
  | drained fd | localForgotten fd =>
    have other : fd ≠ clientFd := by simpa [localFd] using apart
    have remaining : ({fd, clientFd} : Finset Nat).erase fd = {clientFd} :=
      Finset.erase_insert (by simpa using other)
    simp [next, handleConnection, localFd, registered, owned, Operation.Within,
      Operation.opens, Operation.activates, tidy_iff, remaining, other]
  | _ =>
    simp_all [next, handleConnection, localFd, registered, owned, Operation.Within,
      Operation.opens, Operation.activates, tidy_iff]

namespace TlsProxy

structure ExactlyLive (proxy : TlsProxy) (sockets : Finset Nat) : Prop where
  live : ∀ fd ∈ sockets, ∃ (index : Nat) (connection : Connection),
    proxy.connections[index]? = some connection ∧ connection.phase ≠ .finished ∧
      proxy.descriptors fd = some (.connection index)
  piping : ∀ connection ∈ proxy.connections, ∀ localFd, connection.Piping localFd →
    connection.clientFd ∈ sockets ∧ localFd ∈ sockets

/-- The set is exact, and so is what Stop's loop shuts down when it runs from here. -/
structure SocketsExact (proxy : TlsProxy) : Prop where
  active : proxy.ExactlyLive proxy.activeSockets
  interrupted : proxy.stop = .interrupting → proxy.ExactlyLive (proxy.step .stop).interrupted

def ClosesRegistered (proxy : TlsProxy) : Action → Prop
  | .handle index _ => ∃ connection : Connection, proxy.connections[index]? = some connection ∧
      connection.ClosesRegistered
  | _ => False

structure Owned (proxy : TlsProxy) : Prop where
  held : ∀ (index : Nat) (connection : Connection), proxy.connections[index]? = some connection →
    ∀ fd ∈ connection.owned, proxy.descriptors fd = some (.connection index)
  tidy : ∀ (index : Nat) (connection : Connection),
    proxy.connections[index]? = some connection → connection.Tidy
  registered : ∀ fd, fd ∈ proxy.activeSockets ↔
    ∃ (index : Nat) (connection : Connection), proxy.connections[index]? = some connection ∧
      fd ∈ connection.registered
  waiting : ∀ fd, proxy.listener.waitingFd = some fd → proxy.descriptors fd = some .listenLoop
  listening : proxy.stop = .idle ∨ proxy.stop = .closingListener →
    proxy.descriptors proxy.listenFd = some .start

theorem owned_started (listenFd : Nat) : (started listenFd).Owned := by
  constructor <;> simp [started, ListenerPhase.waitingFd]

theorem Owned.socketsExact {proxy : TlsProxy} (owned : proxy.Owned) : proxy.SocketsExact := by
  have active : proxy.ExactlyLive proxy.activeSockets := by
    constructor
    · intro fd member
      obtain ⟨index, connection, found, inside⟩ := (owned.registered fd).mp member
      have mine := (owned.tidy index connection found).within inside
      refine ⟨index, connection, found, ?_, owned.held index connection found fd mine⟩
      intro ended
      simp [Connection.registered, ended] at inside
    · intro connection member localFd piping
      obtain ⟨index, found⟩ := List.mem_iff_getElem?.mp member
      have both : connection.registered = {localFd, connection.clientFd} := by
        obtain phase | phase := piping <;> simp [Connection.registered, phase]
      constructor
      · exact (owned.registered _).mpr ⟨index, connection, found, by simp [both]⟩
      · exact (owned.registered _).mpr ⟨index, connection, found, by simp [both]⟩
  refine ⟨active, ?_⟩
  intro interrupting
  simpa [step, stopStep, interrupting] using active

theorem Owned.moved {proxy next : TlsProxy} (owned : proxy.Owned) {index : Nat}
    {connection changed : Connection} (found : proxy.connections[index]? = some connection)
    (connections : next.connections = proxy.connections.set index changed)
    (tidy : changed.Tidy)
    (held : ∀ fd ∈ changed.owned, next.descriptors fd = some (.connection index))
    (others : ∀ fd owner, owner ≠ .connection index → proxy.descriptors fd = some owner →
      next.descriptors fd = some owner)
    (registered : ∀ fd, fd ∈ next.activeSockets ↔
      fd ∈ changed.registered ∨ fd ∈ proxy.activeSockets ∧ fd ∉ connection.registered)
    (waiting : next.listener.waitingFd = proxy.listener.waitingFd)
    (stop : next.stop = proxy.stop) (listenFd : next.listenFd = proxy.listenFd) :
    next.Owned := by
  obtain ⟨inside, same⟩ := List.getElem?_eq_some_iff.mp found
  have lookup (position : Nat) : next.connections[position]? =
      if index = position then some changed else proxy.connections[position]? := by
    rw [connections, List.getElem?_set]
    by_cases here : index = position
    · subst here
      simp [inside]
    · simp [here]
  constructor
  · intro position other found fd member
    rw [lookup] at found
    split at found
    next here =>
      cases found
      rw [← here]
      exact held fd member
    next elsewhere =>
      refine others fd _ ?_ (owned.held position other found fd member)
      intro equal
      exact elsewhere (FdOwner.connection.inj equal).symm
  · intro position other found
    rw [lookup] at found
    split at found
    next here =>
      cases found
      exact tidy
    next elsewhere => exact owned.tidy position other found
  · intro fd
    rw [registered, owned.registered]
    constructor
    · rintro (mine | ⟨⟨position, other, there, member⟩, foreign⟩)
      · exact ⟨index, changed, by rw [lookup, if_pos rfl], mine⟩
      · refine ⟨position, other, ?_, member⟩
        rw [lookup, if_neg]
        · exact there
        · rintro rfl
          rw [found] at there
          cases there
          exact foreign member
    · rintro ⟨position, other, there, member⟩
      rw [lookup] at there
      split at there
      next here =>
        cases there
        exact .inl member
      next elsewhere =>
        -- Whatever two connections have registered, they own, and nothing has two owners.
        refine .inr ⟨⟨position, other, there, member⟩, ?_⟩
        intro mine
        have first := owned.held index connection found fd ((owned.tidy _ _ found).within mine)
        have second := owned.held position other there fd ((owned.tidy _ _ there).within member)
        rw [first] at second
        cases second
        exact elsewhere rfl
  · intro fd held
    rw [waiting] at held
    exact others fd _ (by simp) (owned.waiting fd held)
  · intro before
    rw [stop] at before
    rw [listenFd]
    exact others _ _ (by simp) (owned.listening before)

section

variable (proxy : TlsProxy) (index : Nat) (operation : Operation)

theorem perform_activeSockets :
    (proxy.perform index operation).activeSockets = operation.activates proxy.activeSockets := by
  cases operation <;> rfl

theorem perform_waitingFd :
    (proxy.perform index operation).listener.waitingFd = proxy.listener.waitingFd := by
  cases operation with
  | notifyOne =>
    simp only [perform]
    cases proxy.listener <;> rfl
  | _ => rfl

end

theorem perform_held {proxy : TlsProxy} {index : Nat} {operation : Operation} {fds : Finset Nat}
    (held : ∀ fd ∈ fds, proxy.descriptors fd = some (.connection index)) :
    ∀ fd ∈ operation.opens fds,
      (proxy.perform index operation).descriptors fd = some (.connection index) := by
  intro fd member
  cases operation with
  | socket new =>
    by_cases same : fd = new
    · simp [perform, same]
    · have earlier : fd ∈ fds := by simpa [Operation.opens, same] using member
      simpa [perform, same] using held fd earlier
  | close old =>
    have kept : fd ≠ old ∧ fd ∈ fds := by simpa [Operation.opens] using member
    simpa [perform, kept.1] using held fd kept.2
  | _ => exact held fd member

theorem update_kept {descriptors : Nat → Option FdOwner} {fd other : Nat} {held : FdOwner}
    (there : descriptors other = some held) (apart : descriptors fd ≠ some held)
    (value : Option FdOwner) : Function.update descriptors fd value other = some held := by
  have different : other ≠ fd := by
    rintro rfl
    exact apart there
  rw [Function.update_of_ne different]
  exact there

theorem perform_others {proxy : TlsProxy} {index : Nat} {connection : Connection}
    {operation : Operation} (within : operation.Within connection)
    (possible : proxy.possible operation = true)
    (held : ∀ fd ∈ connection.owned, proxy.descriptors fd = some (.connection index))
    (fd : Nat) (owner : FdOwner) (foreign : owner ≠ .connection index)
    (there : proxy.descriptors fd = some owner) :
    (proxy.perform index operation).descriptors fd = some owner := by
  cases operation with
  | socket new =>
    have free : proxy.descriptors new = none := by simpa [TlsProxy.possible] using possible
    exact update_kept there (by simp [free]) _
  | close old =>
    have mine := held old within
    refine update_kept there ?_ none
    rw [mine]
    intro same
    exact foreign (Option.some.inj same).symm
  | _ => exact there

theorem Owned.handle {proxy : TlsProxy} (owned : proxy.Owned) {index : Nat} {result : Option Nat}
    (allowed : ¬ proxy.ClosesRegistered (.handle index result)) :
    (proxy.handle index result).Owned := by
  obtain still | ⟨connection, found, possible, moves⟩ := proxy.handle_cases index result
  · rw [still]
    exact owned
  · have held := owned.held index connection found
    have fresh (fd : Nat) (opens : (connection.next result).2 = .socket fd) :
        fd ∉ connection.owned := by
      intro mine
      rw [opens] at possible
      simp [TlsProxy.possible, held fd mine] at possible
    have open_ : ¬ connection.ClosesRegistered := fun closes => allowed ⟨connection, found, closes⟩
    obtain ⟨within, books, active, tidy⟩ :=
      Connection.next_books (owned.tidy index connection found) open_ result fresh
    have member : connection.registered ⊆ proxy.activeSockets := fun fd mine =>
      (owned.registered fd).mpr ⟨index, connection, found, mine⟩
    rw [moves]
    refine owned.moved found (by simp [moveTo]) tidy ?_ ?_ ?_ ?_ ?_ ?_
    · rw [books]
      exact perform_held held
    · exact perform_others within possible held
    · intro fd
      rw [active]
      simp only [moveTo, perform_activeSockets]
      exact Operation.mem_activates within member fd
    · exact proxy.perform_waitingFd index _
    · simp [moveTo]
    · simp [moveTo]

theorem Owned.framed {proxy next : TlsProxy} (owned : proxy.Owned)
    (connections : next.connections = proxy.connections)
    (activeSockets : next.activeSockets = proxy.activeSockets)
    (kept : ∀ fd index, proxy.descriptors fd = some (.connection index) →
      next.descriptors fd = some (.connection index))
    (waiting : ∀ fd, next.listener.waitingFd = some fd → next.descriptors fd = some .listenLoop)
    (listening : next.stop = .idle ∨ next.stop = .closingListener →
      next.descriptors next.listenFd = some .start) : next.Owned := by
  refine ⟨?_, ?_, ?_, waiting, listening⟩
  · intro index connection found fd member
    rw [connections] at found
    exact kept fd index (owned.held index connection found fd member)
  · intro index connection found
    rw [connections] at found
    exact owned.tidy index connection found
  · intro fd
    rw [activeSockets, connections]
    exact owned.registered fd

-- A number that is free, or whose owner gives it up, takes no part in the invariant.
theorem Owned.rebound {proxy : TlsProxy} (owned : proxy.Owned) (fd : Nat) (owner : Option FdOwner)
    (unowned : ∀ index, proxy.descriptors fd ≠ some (.connection index))
    (unwaited : proxy.descriptors fd ≠ some .listenLoop)
    (unlistened : proxy.descriptors fd ≠ some .start) :
    Owned { proxy with descriptors := Function.update proxy.descriptors fd owner } := by
  apply owned.framed
  · rfl
  · rfl
  · intro other index there
    exact update_kept there (unowned index) owner
  · intro other waits
    exact update_kept (owned.waiting other waits) unwaited owner
  · intro before
    exact update_kept (owned.listening before) unlistened owner

theorem Owned.listens {proxy : TlsProxy} (owned : proxy.Owned) {phase : ListenerPhase}
    (waits : ∀ fd, phase.waitingFd = some fd → proxy.listener.waitingFd = some fd) :
    Owned { proxy with listener := phase } := by
  apply owned.framed
  · rfl
  · rfl
  · intro fd index there
    exact there
  · intro fd waiting
    exact owned.waiting fd (waits fd waiting)
  · exact owned.listening

theorem Owned.launch {proxy : TlsProxy} (owned : proxy.Owned) {fd : Nat}
    (waits : proxy.listener.waitingFd = some fd) (phase : ListenerPhase)
    (idle : phase.waitingFd = none) :
    Owned { proxy with
      listener := phase
      connections := proxy.connections ++ [{ clientFd := fd, phase := .launched }]
      descriptors :=
        Function.update proxy.descriptors fd
          (some (.connection proxy.connections.length)) } := by
  have mine := owned.waiting fd waits
  have lookup (index : Nat) (connection : Connection)
      (found : (proxy.connections ++ [Connection.mk fd .launched])[index]? = some connection) :
      proxy.connections[index]? = some connection ∨
        index = proxy.connections.length ∧ connection = Connection.mk fd .launched := by
    rw [List.getElem?_append] at found
    split at found
    next inside => exact .inl found
    next outside =>
      obtain ⟨position, same⟩ := List.getElem?_eq_some_iff.mp found
      simp only [List.length_singleton] at position
      refine .inr ⟨by omega, ?_⟩
      rw [← same]
      simp
  constructor
  · intro index connection found number member
    obtain earlier | ⟨rfl, rfl⟩ := lookup index connection found
    · have there := owned.held index connection earlier number member
      exact update_kept there (by simp [mine]) _
    · have same : number = fd := by simpa [Connection.owned] using member
      simp [same]
  · intro index connection found
    obtain earlier | ⟨rfl, rfl⟩ := lookup index connection found
    · exact owned.tidy index connection earlier
    · constructor <;> simp [Connection.localFd, Connection.registered]
  · intro number
    rw [owned.registered]
    constructor
    · rintro ⟨index, connection, found, member⟩
      obtain ⟨inside, same⟩ := List.getElem?_eq_some_iff.mp found
      refine ⟨index, connection, ?_, member⟩
      simp only [List.getElem?_append_left inside, found]
    · rintro ⟨index, connection, found, member⟩
      obtain earlier | ⟨rfl, rfl⟩ := lookup index connection found
      · exact ⟨index, connection, earlier, member⟩
      · simp [Connection.registered] at member
  · intro number waiting
    simp [idle] at waiting
  · intro before
    exact update_kept (owned.listening before) (by simp [mine]) _

theorem Owned.listenLoop {proxy : TlsProxy} (owned : proxy.Owned) (accepted : Option Nat) :
    (proxy.listenLoop accepted).Owned := by
  cases phase : proxy.listener with
  | accepting =>
    cases accepted with
    | none =>
      simp only [TlsProxy.listenLoop, phase]
      exact owned.listens (by simp [ListenerPhase.waitingFd])
    | some fd =>
      simp only [TlsProxy.listenLoop, phase]
      split
      next free =>
        have rebound := owned.rebound fd (some .listenLoop) (by simp [free.1]) (by simp [free.1])
          (by simp [free.1])
        refine rebound.framed rfl rfl (fun _ _ there => there) ?_ rebound.listening
        intro other waits
        cases waits
        simp
      next taken => exact owned
  | closing fd =>
    have mine := owned.waiting fd (by simp [phase, ListenerPhase.waitingFd])
    have idle : Owned { proxy with listener := .exited } :=
      owned.listens (by simp [ListenerPhase.waitingFd])
    simp only [TlsProxy.listenLoop, phase]
    refine idle.framed rfl rfl ?_ (by simp [ListenerPhase.waitingFd]) ?_
    · intro other index there
      exact update_kept there (by simp [mine]) none
    · intro before
      exact update_kept (owned.listening before) (by simp [mine]) none
  | launching fd =>
    simp only [TlsProxy.listenLoop, phase]
    exact owned.launch (by simp [phase, ListenerPhase.waitingFd]) _ rfl
  | recording index =>
    simp only [TlsProxy.listenLoop, phase]
    exact owned.framed rfl rfl (fun _ _ there => there) (by simp [ListenerPhase.waitingFd])
      owned.listening
  | blocked fd | exited =>
    simp only [TlsProxy.listenLoop, phase]
    exact owned
  | parking fd =>
    simp only [TlsProxy.listenLoop, phase]
    exact owned.listens (by simp [phase, ListenerPhase.waitingFd])
  | loopTop | acceptFailed =>
    simp only [TlsProxy.listenLoop, phase]
    apply owned.listens
    intro other waits
    split at waits <;> simp [ListenerPhase.waitingFd] at waits
  | testCount fd | testShutdown fd | checkShutdown fd =>
    simp only [TlsProxy.listenLoop, phase]
    apply owned.listens
    intro other waits
    split at waits <;> simpa [phase, ListenerPhase.waitingFd] using waits

theorem Owned.stopStep {proxy : TlsProxy} (owned : proxy.Owned) : proxy.stopStep.Owned := by
  cases phase : proxy.stop with
  | closingListener =>
    have mine := owned.listening (.inr phase)
    simp only [TlsProxy.stopStep, phase]
    refine owned.framed rfl rfl ?_ ?_ (by simp)
    · intro fd index there
      exact update_kept there (by simp [mine]) none
    · intro fd waits
      exact update_kept (owned.waiting fd waits) (by simp [mine]) none
  | idle =>
    simp only [TlsProxy.stopStep, phase]
    exact owned.framed rfl rfl (fun _ _ there => there) owned.waiting
      fun _ => owned.listening (.inl phase)
  | joining | draining =>
    simp only [TlsProxy.stopStep, phase]
    split
    · exact owned.framed rfl rfl (fun _ _ there => there) owned.waiting (by simp)
    · exact owned
  | interrupting =>
    simp only [TlsProxy.stopStep, phase]
    exact owned.framed rfl rfl (fun _ _ there => there) owned.waiting (by simp)
  | stopped =>
    simp only [TlsProxy.stopStep, phase]
    exact owned

theorem Owned.step {proxy : TlsProxy} (owned : proxy.Owned) {action : Action}
    (allowed : ¬ proxy.ClosesRegistered action) : (proxy.step action).Owned := by
  cases action with
  | listen accepted => exact owned.listenLoop accepted
  | handle index result => exact owned.handle allowed
  | stop => exact owned.stopStep
  | openElsewhere fd =>
    simp only [TlsProxy.step]
    split
    next free => exact owned.rebound _ _ (by simp [free]) (by simp [free]) (by simp [free])
    next taken => exact owned
  | closeElsewhere fd =>
    simp only [TlsProxy.step]
    split
    next foreign => exact owned.rebound _ _ (by simp [foreign]) (by simp [foreign]) (by simp [foreign])
    next other => exact owned

theorem Owned.not_socketsExact_closed {proxy : TlsProxy} (owned : proxy.Owned) {action : Action}
    (closes : proxy.ClosesRegistered action) : ¬ (proxy.step action).SocketsExact := by
  intro exact_
  cases action with
  | handle index result =>
    obtain ⟨connection, found, phase⟩ := closes
    have member : connection.registered ⊆ proxy.activeSockets := fun fd mine =>
      (owned.registered fd).mpr ⟨index, connection, found, mine⟩
    obtain ⟨fd, closed, mine⟩ : ∃ fd, (connection.next result).2 = .close fd ∧
        fd ∈ connection.registered := by
      obtain closing | ⟨localFd, refused⟩ := phase
      · exact ⟨connection.clientFd, by simp [Connection.next, closing, Connection.handleConnection],
          by simp [Connection.registered, closing]⟩
      · exact ⟨localFd, by simp [Connection.next, refused, Connection.handleConnection],
          by simp [Connection.registered, refused]⟩
    obtain ⟨_, _, _, _, still⟩ := exact_.active.live fd (by
      simpa [TlsProxy.step, TlsProxy.handle, found, closed, possible, perform, moveTo]
        using member mine)
    simp [TlsProxy.step, TlsProxy.handle, found, closed, possible, perform, moveTo] at still
  | _ => exact closes

theorem active_sockets_exact_iff (listenFd : Nat) (actions : List Action) :
    (∀ earlier later, actions = earlier ++ later →
        ((machine listenFd).after (machine listenFd).initial earlier).SocketsExact) ↔
      (machine listenFd).Allowed (fun proxy action => ¬ proxy.ClosesRegistered action)
        (machine listenFd).initial actions := by
  apply Machine.allowed_iff_always (machine listenFd) Owned SocketsExact
  · intro proxy action allowed owned
    exact owned.step allowed
  · intro proxy owned
    exact owned.socketsExact
  · intro proxy action owned closes
    exact owned.not_socketsExact_closed (not_not.mp closes)
  · exact owned_started listenFd

def reusedDescriptor : List Action :=
  let accept := [.listen none, .listen (some 7), .listen none, .listen none, .listen none,
    .listen none]
  accept ++ [.handle 0 none, .handle 0 none, .handle 0 none, .handle 0 none] ++
    accept ++ [.handle 1 none, .handle 1 none, .handle 1 (some 0), .handle 1 (some 0),
      .handle 1 (some 8), .handle 1 none, .handle 1 (some 0)] ++ [.handle 0 none]

theorem reused_descriptor_unregistered :
    let proxy := (machine 3).after (machine 3).initial reusedDescriptor
    proxy.connections[1]? = some { clientFd := 7, phase := .piping 8 } ∧
      proxy.descriptors 7 = some (.connection 1) ∧ 7 ∉ proxy.activeSockets ∧
      ¬ proxy.SocketsExact := by
  have found : ((machine 3).after (machine 3).initial reusedDescriptor).connections[1]? =
      some { clientFd := 7, phase := .piping 8 } := by decide
  have missing : 7 ∉ ((machine 3).after (machine 3).initial reusedDescriptor).activeSockets := by
    decide
  refine ⟨found, by decide, missing, ?_⟩
  intro exact_
  exact missing (exact_.active.piping _ (List.mem_of_getElem? found) 8 (.inl rfl)).1

end TlsProxy

end Ztab
