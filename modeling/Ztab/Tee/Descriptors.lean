import Ztab.Shared.Ledger
import Ztab.Tee.ActiveSockets
import Ztab.Tee.ProxyLife
import Ztab.Tee.Throttle

set_option autoImplicit false

/-!
# The descriptors of the proxy

What each thread of the proxy holds against the descriptor table of the process, in every
interleaving, from `Start` and its failing exits on.
-/

namespace Ztab

def Connection.Apart (connection : Connection) : Prop :=
  connection.clientFd ∉ connection.localFd

theorem Connection.erase_localFd {fd clientFd : Nat} (other : fd ≠ clientFd) :
    ({fd, clientFd} : Finset Nat).erase fd = {clientFd} :=
  Finset.erase_insert (by simpa using other)

theorem Connection.next_owned {connection : Connection} (apart : connection.Apart)
    (result : Option Nat)
    (fresh : ∀ fd, (connection.next result).2 = .socket fd → fd ∉ connection.owned) :
    (∀ fd, (connection.next result).2 = .close fd → fd ∈ connection.owned) ∧
      (connection.next result).1.owned = (connection.next result).2.opens connection.owned ∧
      (connection.next result).1.Apart := by
  obtain ⟨clientFd, phase⟩ := connection
  cases phase with
  | shaken =>
    cases result with
    | none => simp [next, handleConnection, owned, Operation.opens, Apart, localFd]
    | some fd =>
      have new : fd ≠ clientFd := by simpa [owned] using fresh fd rfl
      simp [next, handleConnection, owned, Operation.opens, Apart, localFd, new]
  | registered | contextHeld | localRegistered =>
    cases result <;> simp_all [next, handleConnection, owned, Operation.opens, Apart, localFd]
  | refused fd | localForgotten fd =>
    have other : fd ≠ clientFd := by simpa [Apart, localFd] using apart
    simp [next, handleConnection, owned, Operation.opens, Apart, localFd, erase_localFd other]
  | _ => simp_all [next, handleConnection, owned, Operation.opens, Apart, localFd]

namespace TlsProxy

def Holds (proxy : TlsProxy) : FdOwner → Nat → Prop
  | .start, fd => fd = proxy.listenFd ∧ (proxy.stop = .idle ∨ proxy.stop = .closingListener)
  | .listenLoop, fd => proxy.listener.waitingFd = some fd
  | .connection index, fd => ∃ connection, proxy.connections[index]? = some connection ∧
      fd ∈ connection.owned
  | .elsewhere, fd => proxy.descriptors fd = some .elsewhere

def closes (proxy : TlsProxy) : Action → Option (FdOwner × Nat)
  | .listen _ =>
    match proxy.listener with
    | .closing fd => some (.listenLoop, fd)
    | _ => none
  | .handle index result =>
    match proxy.connections[index]? with
    | none => none
    | some connection =>
      match (connection.next result).2 with
      | .close fd => some (.connection index, fd)
      | _ => none
  | .stop => if proxy.stop = .closingListener then some (.start, proxy.listenFd) else none
  | .openElsewhere _ | .closeElsewhere _ => none

structure Kept (proxy : TlsProxy) : Prop where
  agrees : Ledger.Agrees proxy.descriptors proxy.Holds
  apart : ∀ (index : Nat) (connection : Connection),
    proxy.connections[index]? = some connection → connection.Apart

section

variable {proxy next : TlsProxy}

theorem Kept.congr (kept : proxy.Kept) (descriptors : next.descriptors = proxy.descriptors)
    (connections : next.connections = proxy.connections)
    (waiting : next.listener.waitingFd = proxy.listener.waitingFd)
    (start : ∀ fd, next.Holds .start fd ↔ proxy.Holds .start fd) : next.Kept := by
  constructor
  · rw [descriptors]
    apply kept.agrees.congr
    intro owner fd
    cases owner with
    | start => exact start fd
    | listenLoop => simp [Holds, waiting]
    | connection index => simp [Holds, connections]
    | elsewhere => simp [Holds, descriptors]
  · rw [connections]
    exact kept.apart

theorem Kept.listens (kept : proxy.Kept) {phase : ListenerPhase}
    (waits : phase.waitingFd = proxy.listener.waitingFd) :
    Kept { proxy with listener := phase } :=
  kept.congr rfl rfl waits (fun _ => Iff.rfl)

end

section

variable {proxy : TlsProxy} {index : Nat} {connection : Connection}

theorem getElem?_moveTo (changed : Connection) (operation : Operation)
    (found : proxy.connections[index]? = some connection) (position : Nat) :
    ((proxy.perform index operation).moveTo index changed).connections[position]? =
      if index = position then some changed else proxy.connections[position]? := by
  obtain ⟨inside, -⟩ := List.getElem?_eq_some_iff.mp found
  simp only [moveTo, perform_connections, List.getElem?_set]
  by_cases here : index = position
  · subst here
    simp [inside]
  · simp [here]

theorem holds_moveTo {changed : Connection} {operation : Operation}
    (found : proxy.connections[index]? = some connection)
    (elsewhere : ∀ fd, (proxy.perform index operation).descriptors fd = some .elsewhere ↔
      proxy.descriptors fd = some .elsewhere) (owner : FdOwner) (fd : Nat) :
    ((proxy.perform index operation).moveTo index changed).Holds owner fd ↔
      if owner = .connection index then fd ∈ changed.owned else proxy.Holds owner fd := by
  cases owner with
  | start => simp [Holds, moveTo]
  | listenLoop =>
    have waiting := proxy.perform_waitingFd index operation
    simp [Holds, moveTo, waiting]
  | connection position =>
    simp only [Holds, getElem?_moveTo changed operation found, FdOwner.connection.injEq, eq_comm]
    by_cases here : index = position <;> simp [here]
  | elsewhere => simpa [Holds, moveTo] using elsewhere fd

theorem Kept.holds_iff (found : proxy.connections[index]? = some connection) (fd : Nat) :
    proxy.Holds (.connection index) fd ↔ fd ∈ connection.owned := by
  simp [Holds, found]

theorem Kept.handle (kept : proxy.Kept) (index : Nat) (result : Option Nat) :
    (proxy.handle index result).Kept := by
  obtain still | ⟨connection, found, possible, moves⟩ := proxy.handle_cases index result
  · rw [still]
    exact kept
  · have mine := Kept.holds_iff found
    have fresh (fd : Nat) (opens : (connection.next result).2 = .socket fd) :
        fd ∉ connection.owned := by
      rw [opens] at possible
      rw [← mine]
      exact kept.agrees.unheld (by simpa [TlsProxy.possible] using possible)
    obtain ⟨own, books, apart⟩ :=
      Connection.next_owned (kept.apart index connection found) result fresh
    rw [moves]
    constructor
    · generalize (connection.next result).1 = changed at *
      generalize (connection.next result).2 = operation at *
      cases operation with
      | socket new =>
        have free : proxy.descriptors new = none := by simpa [TlsProxy.possible] using possible
        apply kept.agrees.acquire free
        intro owner fd
        rw [holds_moveTo found, books]
        · split
          next same => simp [same, mine, Operation.opens]
          next other => simp [other]
        · intro fd
          by_cases same : fd = new <;> simp [perform, same, free]
      | close old =>
        have held := (mine old).mpr (own old rfl)
        have there := (kept.agrees old _).mpr held
        apply kept.agrees.release held
        intro owner fd
        rw [holds_moveTo found, books]
        · split
          next same => simp [same, mine, Operation.opens, and_comm]
          next other => simp [other]
        · intro fd
          by_cases same : fd = old <;> simp [perform, same, there]
      | skip | increment | decrement | addActiveSocket | removeActiveSocket | notifyOne =>
        apply kept.agrees.congr
        intro owner fd
        rw [holds_moveTo found (fun _ => Iff.rfl), books]
        split
        next same => simp [same, mine, Operation.opens]
        next other => rfl
    · intro position other there
      rw [getElem?_moveTo _ _ found] at there
      split at there
      next here =>
        cases there
        exact apart
      next elsewhere => exact kept.apart position other there

theorem holds_update (fd : Nat) (value : Option FdOwner) (here : proxy.descriptors fd ≠ some .elsewhere)
    (there : value ≠ some .elsewhere) (other : Nat) :
    Function.update proxy.descriptors fd value other = some .elsewhere ↔
      proxy.descriptors other = some .elsewhere := by
  by_cases same : other = fd <;> simp [same, here, there]

theorem Kept.listenLoop (kept : proxy.Kept) (accepted : Option Nat) :
    (proxy.listenLoop accepted).Kept := by
  cases phase : proxy.listener with
  | accepting =>
    cases accepted with
    | none =>
      simp only [TlsProxy.listenLoop, phase]
      exact kept.listens (by simp [phase, ListenerPhase.waitingFd])
    | some fd =>
      simp only [TlsProxy.listenLoop, phase]
      split
      next free =>
        refine ⟨kept.agrees.acquire free.1 ?_, kept.apart⟩
        intro owner other
        cases owner with
        | listenLoop => simp [Holds, phase, ListenerPhase.waitingFd, eq_comm]
        | elsewhere => simpa [Holds] using holds_update fd _ (by simp [free.1]) (by simp) other
        | _ => simp [Holds]
      next taken => exact kept
  | closing fd =>
    have held : proxy.Holds .listenLoop fd := by simp [Holds, phase, ListenerPhase.waitingFd]
    have there := (kept.agrees fd _).mpr held
    simp only [TlsProxy.listenLoop, phase]
    refine ⟨kept.agrees.release held ?_, kept.apart⟩
    intro owner other
    cases owner with
    | listenLoop => simp [Holds, phase, ListenerPhase.waitingFd, eq_comm]
    | elsewhere => simpa [Holds] using holds_update fd none (by simp [there]) (by simp) other
    | _ => simp [Holds]
  | launching fd =>
    have held : proxy.Holds .listenLoop fd := by simp [Holds, phase, ListenerPhase.waitingFd]
    have there := (kept.agrees fd _).mpr held
    simp only [TlsProxy.listenLoop, phase]
    refine ⟨kept.agrees.transfer held ?_, ?_⟩
    · intro owner other
      cases owner with
      | start => simp [Holds]
      | listenLoop => simp [Holds, phase, ListenerPhase.waitingFd, eq_comm]
      | connection index =>
        simp only [Holds, List.getElem?_append, FdOwner.connection.injEq]
        split
        next inside =>
          have before : index ≠ proxy.connections.length := by omega
          simp [before]
        next outside =>
          have missing : proxy.connections[index]? = none := by simpa using outside
          by_cases new : index = proxy.connections.length
          · simp [new, Connection.owned]
          · have beyond : [Connection.mk fd .launched][index - proxy.connections.length]? = none := by
              rw [List.getElem?_eq_none_iff, List.length_singleton]
              omega
            simp [missing, new, beyond]
      | elsewhere => simpa [Holds] using holds_update fd _ (by simp [there]) (by simp) other
    · intro index connection found
      rw [List.getElem?_append] at found
      split at found
      next inside => exact kept.apart index connection found
      next outside =>
        have last := List.mem_of_getElem? found
        simp only [List.mem_singleton] at last
        simp [last, Connection.Apart, Connection.localFd]
  | recording index =>
    simp only [TlsProxy.listenLoop, phase]
    exact kept.congr rfl rfl (by simp [phase, ListenerPhase.waitingFd]) (fun _ => Iff.rfl)
  | blocked fd | exited =>
    simp only [TlsProxy.listenLoop, phase]
    exact kept
  | parking fd =>
    simp only [TlsProxy.listenLoop, phase]
    exact kept.listens (by simp [phase, ListenerPhase.waitingFd])
  | loopTop | acceptFailed | testCount fd | testShutdown fd | checkShutdown fd =>
    simp only [TlsProxy.listenLoop, phase]
    apply kept.listens
    split <;> simp [phase, ListenerPhase.waitingFd]

theorem Kept.stopStep (kept : proxy.Kept) : proxy.stopStep.Kept := by
  cases phase : proxy.stop with
  | idle =>
    simp only [TlsProxy.stopStep, phase]
    exact kept.congr rfl rfl rfl (by simp [Holds, phase])
  | closingListener =>
    have held : proxy.Holds .start proxy.listenFd := by simp [Holds, phase]
    have there := (kept.agrees _ _).mpr held
    simp only [TlsProxy.stopStep, phase]
    refine ⟨kept.agrees.release held ?_, kept.apart⟩
    intro owner other
    cases owner with
    | elsewhere => simpa [Holds] using holds_update _ none (by simp [there]) (by simp) other
    | start => simp +contextual [Holds]
    | _ => simp [Holds]
  | joining | draining =>
    simp only [TlsProxy.stopStep, phase]
    split
    · exact kept.congr rfl rfl rfl (by simp [Holds, phase])
    · exact kept
  | interrupting =>
    simp only [TlsProxy.stopStep, phase]
    exact kept.congr rfl rfl rfl (by simp [Holds, phase])
  | stopped =>
    simp only [TlsProxy.stopStep, phase]
    exact kept

theorem Kept.step (kept : proxy.Kept) (action : Action) : (proxy.step action).Kept := by
  cases action with
  | listen accepted => exact kept.listenLoop accepted
  | handle index result => exact kept.handle index result
  | stop => exact kept.stopStep
  | openElsewhere fd =>
    simp only [TlsProxy.step]
    split
    next free =>
      refine ⟨kept.agrees.acquire free ?_, kept.apart⟩
      intro owner other
      cases owner with
      | elsewhere => by_cases same : other = fd <;> simp [Holds, same]
      | _ => simp [Holds]
    next taken => exact kept
  | closeElsewhere fd =>
    simp only [TlsProxy.step]
    split
    next foreign =>
      refine ⟨kept.agrees.release ((kept.agrees fd _).mp foreign) ?_, kept.apart⟩
      intro owner other
      cases owner with
      | elsewhere => by_cases same : other = fd <;> simp [Holds, same]
      | _ => simp [Holds]
    next other => exact kept

theorem Kept.closes (kept : proxy.Kept) {action : Action} {owner : FdOwner} {fd : Nat}
    (closes : proxy.closes action = some (owner, fd)) :
    proxy.Holds owner fd ∧ (proxy.step action).descriptors fd = none := by
  cases action with
  | listen accepted =>
    simp only [TlsProxy.closes] at closes
    split at closes
    next closing phase =>
      cases closes
      simp [Holds, phase, ListenerPhase.waitingFd, TlsProxy.step, TlsProxy.listenLoop]
    next => cases closes
  | handle index result =>
    simp only [TlsProxy.closes] at closes
    split at closes
    next => cases closes
    next connection found =>
      split at closes
      next closed operation =>
        cases closes
        have fresh (fd : Nat) (opens : (connection.next result).2 = .socket fd) :
            fd ∉ connection.owned := by
          rw [operation] at opens
          cases opens
        obtain ⟨own, -, -⟩ :=
          Connection.next_owned (kept.apart index connection found) result fresh
        refine ⟨(Kept.holds_iff found fd).mpr (own fd operation), ?_⟩
        simp [TlsProxy.step, TlsProxy.handle, found, operation, possible, perform, moveTo]
      next => cases closes
  | stop =>
    simp only [TlsProxy.closes] at closes
    split at closes
    next phase =>
      cases closes
      simp [Holds, phase, TlsProxy.step, TlsProxy.stopStep]
    next => cases closes
  | openElsewhere | closeElsewhere => cases closes

end

theorem handle_frame (proxy : TlsProxy) (index : Nat) (result : Option Nat) :
    (proxy.handle index result).connections.length = proxy.connections.length ∧
      (proxy.handle index result).futures = proxy.futures ∧
      (proxy.handle index result).stop = proxy.stop := by
  obtain still | ⟨connection, found, possible, moves⟩ := proxy.handle_cases index result
  · rw [still]
    exact ⟨rfl, rfl, rfl⟩
  · rw [moves]
    generalize (connection.next result).2 = operation
    cases operation <;> simp [moveTo, perform]

end TlsProxy

namespace ProxyLife

/-- What an exception has left open still counts as its connection's. -/
def Holds (life : ProxyLife) : FdOwner → Nat → Prop
  | .start, fd => life.start.opened = true ∧ life.proxy.Holds .start fd
  | owner, fd => life.proxy.Holds owner fd

def closes (life : ProxyLife) : LifeAction → Option (FdOwner × Nat)
  | .start result =>
    if life.start = .setup ∧ result = none then some (.start, life.proxy.listenFd) else none
  | .threadFails _ => none
  | .proxy (.handle index result) =>
    if index ∈ life.abandoned then none else life.proxy.closes (.handle index result)
  | .proxy .stop =>
    if life.start.ended = true ∧ life.start ≠ .noSocket then life.proxy.closes .stop else none
  | .proxy action => life.proxy.closes action

/-- Stop after a Start that has closed its socket and kept the number. -/
def ClosesAgain (life : ProxyLife) (action : LifeAction) : Prop :=
  life.start = .setupFailed ∧ action = .proxy .stop

structure Kept (life : ProxyLife) : Prop where
  opened : life.start.opened = true → life.proxy.Kept
  foreign : life.start.opened = false →
    ∀ fd owner, life.proxy.descriptors fd = some owner → owner = .elsewhere
  unserved : life.start ≠ .serving → life.proxy.connections = [] ∧ life.proxy.listener = .exited
  early : life.start.ended = false → life.proxy.stop = .idle

theorem kept_constructed : constructed.Kept := by
  constructor <;> simp [constructed, StartPhase.opened, TlsProxy.started]

section

variable {life : ProxyLife}

theorem unserved_of_unopened (unopened : life.start.opened = false) : life.start ≠ .serving := by
  intro serving
  rw [serving] at unopened
  cases unopened

theorem handle_unserved {proxy : TlsProxy} (unserved : proxy.connections = []) (index : Nat)
    (result : Option Nat) : proxy.handle index result = proxy := by
  simp [TlsProxy.handle, unserved]

theorem listenLoop_unserved {proxy : TlsProxy} (unserved : proxy.listener = .exited)
    (accepted : Option Nat) : proxy.listenLoop accepted = proxy := by
  simp [TlsProxy.listenLoop, unserved]

theorem foreign_update {descriptors : Nat → Option FdOwner} {fd : Nat} {value : Option FdOwner}
    (foreign : ∀ other owner, descriptors other = some owner → owner = .elsewhere)
    (yields : ∀ owner, value = some owner → owner = .elsewhere) (other : Nat) (owner : FdOwner)
    (there : Function.update descriptors fd value other = some owner) : owner = .elsewhere := by
  by_cases same : other = fd
  · subst same
    rw [Function.update_self] at there
    exact yields owner there
  · rw [Function.update_of_ne same] at there
    exact foreign other owner there

theorem kept_listening {proxy : TlsProxy} {fd : Nat}
    (foreign : ∀ other owner, proxy.descriptors other = some owner → owner = .elsewhere)
    (connections : proxy.connections = []) (listener : proxy.listener = .exited)
    (idle : proxy.stop = .idle) (free : proxy.descriptors fd = none) :
    TlsProxy.Kept { proxy with
      listenFd := fd
      descriptors := Function.update proxy.descriptors fd (some .start) } := by
  refine ⟨?_, by simp [connections]⟩
  have before : Ledger.Agrees proxy.descriptors
      fun owner other => owner = .elsewhere ∧ proxy.descriptors other = some .elsewhere := by
    intro other owner
    constructor
    · intro there
      cases foreign other owner there
      exact ⟨rfl, there⟩
    · rintro ⟨rfl, there⟩
      exact there
  apply before.acquire free
  intro owner other
  cases owner with
  | start => simp [TlsProxy.Holds, idle]
  | listenLoop => simp [TlsProxy.Holds, listener, ListenerPhase.waitingFd]
  | connection index => simp [TlsProxy.Holds, connections]
  | elsewhere =>
    simpa [TlsProxy.Holds] using
      TlsProxy.holds_update fd (some .start) (by simp [free]) (by simp) other

theorem foreign_of_closed {proxy : TlsProxy} (books : proxy.Kept)
    (connections : proxy.connections = []) (listener : proxy.listener = .exited) (fd : Nat)
    (owner : FdOwner)
    (there : Function.update proxy.descriptors proxy.listenFd none fd = some owner) :
    owner = .elsewhere := by
  by_cases same : fd = proxy.listenFd
  · simp [same] at there
  · rw [Function.update_of_ne same] at there
    have held := (books.agrees fd owner).mp there
    cases owner with
    | start => exact absurd held.1 same
    | listenLoop => simp [TlsProxy.Holds, listener, ListenerPhase.waitingFd] at held
    | connection index => simp [TlsProxy.Holds, connections] at held
    | elsewhere => rfl

theorem Kept.startStep (kept : life.Kept) (result : Option Nat) : (life.startStep result).Kept := by
  unfold ProxyLife.startStep
  cases phase : life.start with
  | socket =>
    have unserved := kept.unserved (by simp [phase])
    have idle := kept.early (by simp [phase, StartPhase.ended])
    have foreign := kept.foreign (by simp [phase, StartPhase.opened])
    cases result with
    | none => exact ⟨by simp [StartPhase.opened], fun _ => foreign, fun _ => unserved, fun _ => idle⟩
    | some fd =>
      dsimp only
      split
      next free =>
        exact ⟨fun _ => kept_listening foreign unserved.1 unserved.2 idle free,
          by simp [StartPhase.opened], fun _ => unserved, fun _ => idle⟩
      next taken => exact kept
  | setup =>
    have unserved := kept.unserved (by simp [phase])
    have idle := kept.early (by simp [phase, StartPhase.ended])
    have books := kept.opened (by simp [phase, StartPhase.opened])
    dsimp only
    split
    next => exact ⟨fun _ => books, by simp [StartPhase.opened], fun _ => unserved, fun _ => idle⟩
    next =>
      exact ⟨by simp [StartPhase.opened],
        fun _ => foreign_of_closed books unserved.1 unserved.2, fun _ => unserved, fun _ => idle⟩
  | thread =>
    have unserved := kept.unserved (by simp [phase])
    have idle := kept.early (by simp [phase, StartPhase.ended])
    have books := kept.opened (by simp [phase, StartPhase.opened])
    dsimp only
    split
    next =>
      refine ⟨fun _ => books.listens ?_, by simp [StartPhase.opened], by simp, fun _ => idle⟩
      simp [unserved.2, ListenerPhase.waitingFd]
    next => exact ⟨fun _ => books, by simp [StartPhase.opened], fun _ => unserved, fun _ => idle⟩
  | serving | noSocket | setupFailed | threadFailed => exact kept

theorem Kept.handle (kept : life.Kept) (index : Nat) (result : Option Nat) :
    (life.handle index result).Kept := by
  unfold ProxyLife.handle
  split
  next => exact kept
  next =>
    refine ⟨fun opened => (kept.opened opened).handle index result, fun unopened => ?_,
      fun unserved => ?_, fun running => ?_⟩
    · rw [handle_unserved (kept.unserved (unserved_of_unopened unopened)).1]
      exact kept.foreign unopened
    · rw [handle_unserved (kept.unserved unserved).1]
      exact kept.unserved unserved
    · exact (life.proxy.handle_frame index result).2.2.trans (kept.early running)

theorem Kept.listenLoop (kept : life.Kept) (accepted : Option Nat) :
    (life.listenLoop accepted).Kept := by
  obtain ⟨futures, moves⟩ := life.listenLoop_proxy accepted
  rw [moves]
  refine ⟨fun opened => ?_, fun unopened => ?_, fun unserved => ?_, fun running => ?_⟩
  · exact ((kept.opened opened).listenLoop accepted).congr rfl rfl rfl (fun _ => Iff.rfl)
  · rw [listenLoop_unserved (kept.unserved (unserved_of_unopened unopened)).2]
    exact kept.foreign unopened
  · rw [listenLoop_unserved (kept.unserved unserved).2]
    exact kept.unserved unserved
  · exact (life.proxy.listenLoop_frame accepted).2.2.trans (kept.early running)

theorem stopStep_descriptors {proxy : TlsProxy} {fd : Nat} {owner : FdOwner}
    (there : proxy.stopStep.descriptors fd = some owner) : proxy.descriptors fd = some owner := by
  unfold TlsProxy.stopStep at there
  cases phase : proxy.stop with
  | closingListener =>
    simp only [phase] at there
    by_cases same : fd = proxy.listenFd
    · simp [same] at there
    · rwa [Function.update_of_ne same] at there
  | joining | draining =>
    simp only [phase] at there
    split at there <;> exact there
  | idle | interrupting | stopped => simpa only [phase] using there

theorem Kept.stopped (kept : life.Kept) (ended : life.start.ended = true) :
    Kept { life with proxy := life.proxy.stopStep } := by
  obtain ⟨-, connections, listener⟩ := life.proxy.stopStep_frame
  refine ⟨fun opened => (kept.opened opened).stopStep, fun unopened fd owner there => ?_,
    fun unserved => ?_, fun running => ?_⟩
  · exact kept.foreign unopened fd owner (stopStep_descriptors there)
  · rw [connections, listener]
    exact kept.unserved unserved
  · rw [ended] at running
    cases running

theorem Kept.stop (kept : life.Kept) : life.stop.Kept := by
  unfold ProxyLife.stop
  split
  next ended =>
    cases phase : life.proxy.stop with
    | closingListener =>
      dsimp only
      split
      next noSocket =>
        refine ⟨?_, fun _ => kept.foreign (by simp [noSocket, StartPhase.opened]), kept.unserved, ?_⟩
        · simp [noSocket, StartPhase.opened]
        · simp [noSocket, StartPhase.ended]
      next => exact kept.stopped ended
    | draining =>
      dsimp only
      split
      next =>
        refine ⟨fun opened => ?_, kept.foreign, kept.unserved, ?_⟩
        · exact (kept.opened opened).congr rfl rfl rfl (by simp [TlsProxy.Holds, phase])
        · simp [ended]
      next => exact kept
    | idle | joining | interrupting | stopped => exact kept.stopped ended
  next => exact kept

theorem Kept.step (kept : life.Kept) (action : LifeAction) : (life.step action).Kept := by
  cases action with
  | start result => exact kept.startStep result
  | threadFails index =>
    simp only [ProxyLife.step, ProxyLife.threadFails]
    split
    · exact ⟨kept.opened, kept.foreign, kept.unserved, kept.early⟩
    · exact kept
  | proxy action =>
    cases action with
    | listen accepted => exact kept.listenLoop accepted
    | handle index result => exact kept.handle index result
    | stop => exact kept.stop
    | openElsewhere fd | closeElsewhere fd =>
      refine ⟨fun opened => ?_, fun unopened => ?_, ?_, ?_⟩
      · have books := kept.opened opened
        first | exact books.step (.openElsewhere fd) | exact books.step (.closeElsewhere fd)
      all_goals simp only [ProxyLife.step, TlsProxy.step]
      · have foreign := kept.foreign unopened
        split
        · exact foreign_update foreign (by simp)
        · exact foreign
      · split <;> exact kept.unserved
      · split <;> exact kept.early

theorem holds_of_opened (opened : life.start.opened = true) (owner : FdOwner) (fd : Nat) :
    life.Holds owner fd ↔ life.proxy.Holds owner fd := by
  cases owner <;> simp [ProxyLife.Holds, opened]

theorem Kept.closes_thread (kept : life.Kept) {action : TlsProxy.Action} (thread : action ≠ .stop)
    {owner : FdOwner} {fd : Nat} (closes : life.proxy.closes action = some (owner, fd)) :
    life.Holds owner fd ∧ (life.proxy.step action).descriptors fd = none := by
  have opened : life.start.opened = true := by
    by_contra unopened
    obtain ⟨connections, listener⟩ :=
      kept.unserved (unserved_of_unopened (by simpa using unopened))
    cases action with
    | stop => exact thread rfl
    | listen | handle | openElsewhere | closeElsewhere =>
      simp [TlsProxy.closes, connections, listener] at closes
  rw [holds_of_opened opened]
  exact (kept.opened opened).closes closes

theorem Kept.closes (kept : life.Kept) {action : LifeAction} {owner : FdOwner} {fd : Nat}
    (closes : life.closes action = some (owner, fd)) :
    (life.Holds owner fd ↔ ¬ life.ClosesAgain action) ∧
      (life.step action).proxy.descriptors fd = none := by
  cases action with
  | start result =>
    simp only [ProxyLife.closes] at closes
    split at closes
    next fails =>
      cases closes
      obtain ⟨phase, rfl⟩ := fails
      have idle := kept.early (by simp [phase, StartPhase.ended])
      refine ⟨?_, by simp [ProxyLife.step, ProxyLife.startStep, phase]⟩
      simp [ProxyLife.Holds, TlsProxy.Holds, ClosesAgain, phase, StartPhase.opened, idle]
    next => cases closes
  | threadFails index => cases closes
  | proxy action =>
    cases action with
    | listen accepted =>
      have listens : life.proxy.closes (.listen accepted) = some (owner, fd) := closes
      obtain ⟨held, freed⟩ := kept.closes_thread (by simp) listens
      obtain ⟨futures, moves⟩ := life.listenLoop_proxy accepted
      refine ⟨by simp [held, ClosesAgain], ?_⟩
      simpa [ProxyLife.step, TlsProxy.step, moves] using freed
    | handle index result =>
      simp only [ProxyLife.closes] at closes
      split at closes
      next => cases closes
      next running =>
        obtain ⟨held, freed⟩ := kept.closes_thread (by simp) closes
        refine ⟨by simp [held, ClosesAgain], ?_⟩
        simpa [ProxyLife.step, TlsProxy.step, ProxyLife.handle, running] using freed
    | stop =>
      simp only [ProxyLife.closes, TlsProxy.closes] at closes
      split at closes
      next ended =>
        obtain ⟨ended, socket⟩ := ended
        split at closes
        next phase =>
          cases closes
          refine ⟨?_, by simp [ProxyLife.step, ProxyLife.stop, ended, phase, socket, TlsProxy.stopStep]⟩
          simp only [ProxyLife.Holds, TlsProxy.Holds, ClosesAgain, phase]
          cases exit_ : life.start <;> simp_all [StartPhase.opened, StartPhase.ended]
        next => cases closes
      next => cases closes
    | openElsewhere fd | closeElsewhere fd => cases closes

end

theorem machine_kept (actions : List LifeAction) :
    (machine.after machine.initial actions).Kept :=
  machine.after_preserves Kept (fun _ action kept => kept.step action) _ kept_constructed actions

theorem Kept.agrees {life : ProxyLife} (kept : life.Kept) :
    Ledger.Agrees life.proxy.descriptors life.Holds := by
  cases opened : life.start.opened with
  | true => exact (kept.opened opened).agrees.congr fun owner fd => holds_of_opened opened owner fd
  | false =>
    obtain ⟨connections, listener⟩ := kept.unserved (unserved_of_unopened opened)
    intro fd owner
    cases owner with
    | elsewhere => rfl
    | start | listenLoop | connection index =>
      constructor
      · intro there
        cases kept.foreign opened fd _ there
      · simp [ProxyLife.Holds, TlsProxy.Holds, opened, connections, listener, ListenerPhase.waitingFd]

/--
In every interleaving the descriptor table says exactly what the threads hold or an exception left
open. Whatever a thread closes is open and its own at that moment, unless Stop closes the number of
a socket that Start has closed before.
-/
theorem descriptors_held_and_closed_once (actions : List LifeAction) (action : LifeAction) :
    let life := machine.after machine.initial actions
    (∀ fd owner, life.proxy.descriptors fd = some owner ↔ life.Holds owner fd) ∧
      ∀ owner fd, life.closes action = some (owner, fd) →
        (life.proxy.descriptors fd = some owner ↔ ¬ life.ClosesAgain action) ∧
          (life.step action).proxy.descriptors fd = none := by
  intro life
  have kept : life.Kept := machine_kept actions
  refine ⟨kept.agrees, ?_⟩
  intro owner fd closes
  obtain ⟨held, freed⟩ := kept.closes closes
  exact ⟨(kept.agrees fd owner).trans held, freed⟩

/-- Start fails at bind, the rest of the process is given the number, and Stop closes it. -/
def reusedListener : List LifeAction :=
  [.start (some 3), .start none, .proxy (.openElsewhere 3), .proxy .stop]

example :
    let life := machine.after machine.initial reusedListener
    life.proxy.descriptors 3 = some .elsewhere ∧
      (life.step (.proxy .stop)).proxy.descriptors 3 = none := by decide

end ProxyLife

end Ztab
