import Mathlib.Data.Finset.Erase
import Mathlib.Data.Finset.Insert
import Mathlib.Logic.Function.Basic
import Ztab.Shared.Machine

set_option autoImplicit false

/-!
# The threads of the TLS proxy

`ListenLoop`, `HandleConnection` and `Stop` as threads over the atomics, the condition
variable, the set of active sockets and the descriptor table of the process. A step is one
access to what the threads share, so that a run may interleave them in any order.
-/

namespace Ztab

def kMaxConcurrentConnections : Int := 50

inductive ListenerPhase where
  | loopTop
  | accepting
  | acceptFailed
  -- The two loads of the predicate that connection_throttle_cv_.wait tests.
  | testCount (clientFd : Nat)
  | testShutdown (clientFd : Nat)
  -- The predicate was false: about to block, and blocked.
  | parking (clientFd : Nat)
  | blocked (clientFd : Nat)
  | checkShutdown (clientFd : Nat)
  | closing (clientFd : Nat)
  | launching (clientFd : Nat)
  | recording (index : Nat)
  | exited
  deriving DecidableEq, Repr

def ListenerPhase.waitingFd : ListenerPhase → Option Nat
  | .testCount fd | .testShutdown fd | .parking fd | .blocked fd => some fd
  | .checkShutdown fd | .closing fd | .launching fd => some fd
  | .loopTop | .accepting | .acceptFailed | .recording _ | .exited => none

def ListenerPhase.notified : ListenerPhase → ListenerPhase
  | .blocked fd => .testCount fd
  | phase => phase

inductive ConnectionPhase where
  | launched
  | counted
  -- Inside HandleConnectionImpl, until closed.
  | registered
  | contextHeld
  | shaken
  | localOpened (localFd : Nat)
  | localRegistered (localFd : Nat)
  | refused (localFd : Nat)
  | piping (localFd : Nat)
  | drained (localFd : Nat)
  | localForgotten (localFd : Nat)
  | closing
  | closed
  | forgotten
  | notifying
  | finished
  deriving DecidableEq, Repr

structure Connection where
  clientFd : Nat
  phase : ConnectionPhase
  deriving DecidableEq, Repr

inductive Operation where
  | skip
  | increment
  | decrement
  | addActiveSocket (fd : Nat)
  | removeActiveSocket (fd : Nat)
  | socket (fd : Nat)
  | close (fd : Nat)
  | notifyOne
  deriving DecidableEq, Repr

/--
The next step of the thread. `result` is what the call it waits for returned: nothing for a
failure, and a new descriptor where the call gives one.
-/
def Connection.handleConnection (clientFd : Nat) (result : Option Nat) :
    ConnectionPhase → ConnectionPhase × Operation
  | .launched => (.counted, .increment)
  | .counted => (.registered, .addActiveSocket clientFd)
  -- GetOrCreateSSLCtx, SSL_accept and socket: a failure goes straight to close(client_fd).
  | .registered => (if result.isSome then .contextHeld else .closing, .skip)
  | .contextHeld => (if result.isSome then .shaken else .closing, .skip)
  | .shaken =>
    match result with
    | some localFd => (.localOpened localFd, .socket localFd)
    | none => (.closing, .skip)
  | .localOpened localFd => (.localRegistered localFd, .addActiveSocket localFd)
  | .localRegistered localFd => (if result.isSome then .piping localFd else .refused localFd, .skip)
  | .refused localFd => (.closing, .close localFd)
  -- Both piping threads have ended.
  | .piping localFd => (.drained localFd, .skip)
  | .drained localFd => (.localForgotten localFd, .removeActiveSocket localFd)
  | .localForgotten localFd => (.closing, .close localFd)
  | .closing => (.closed, .close clientFd)
  | .closed => (.forgotten, .removeActiveSocket clientFd)
  | .forgotten => (.notifying, .decrement)
  | .notifying => (.finished, .notifyOne)
  | .finished => (.finished, .skip)

def Connection.next (connection : Connection) (result : Option Nat) : Connection × Operation :=
  let next := handleConnection connection.clientFd result connection.phase
  ({ connection with phase := next.1 }, next.2)

inductive StopPhase where
  | idle
  | closingListener
  | joining
  | interrupting
  | draining
  | stopped
  deriving DecidableEq, Repr

inductive FdOwner where
  | start
  | listenLoop
  | connection (index : Nat)
  | elsewhere
  deriving DecidableEq, Repr

structure TlsProxy where
  shutdown : Bool
  activeConnections : Int
  activeSockets : Finset Nat
  listenFd : Nat
  -- The descriptor table: a number is free, or open and somebody's.
  descriptors : Nat → Option FdOwner
  listener : ListenerPhase
  connections : List Connection
  -- futures_, by the connection each is the future of.
  futures : List Nat
  stop : StopPhase
  -- What Stop's loop called shutdown(fd, SHUT_RDWR) on.
  interrupted : Finset Nat

namespace TlsProxy

def started (listenFd : Nat) : TlsProxy where
  shutdown := false
  activeConnections := 0
  activeSockets := ∅
  listenFd := listenFd
  descriptors := fun fd => if fd = listenFd then some .start else none
  listener := .loopTop
  connections := []
  futures := []
  stop := .idle
  interrupted := ∅

/-- The kernel only hands out numbers that are free. -/
def possible (proxy : TlsProxy) : Operation → Bool
  | .socket fd => (proxy.descriptors fd).isNone
  | _ => true

def perform (proxy : TlsProxy) (index : Nat) : Operation → TlsProxy
  | .skip => proxy
  | .increment => { proxy with activeConnections := proxy.activeConnections + 1 }
  | .decrement => { proxy with activeConnections := proxy.activeConnections - 1 }
  | .addActiveSocket fd => { proxy with activeSockets := insert fd proxy.activeSockets }
  | .removeActiveSocket fd => { proxy with activeSockets := proxy.activeSockets.erase fd }
  | .socket fd =>
    { proxy with descriptors := Function.update proxy.descriptors fd (some (.connection index)) }
  | .close fd => { proxy with descriptors := Function.update proxy.descriptors fd none }
  | .notifyOne => { proxy with listener := proxy.listener.notified }

section

variable (proxy : TlsProxy) (index : Nat) (operation : Operation)

@[simp] theorem perform_connections :
    (proxy.perform index operation).connections = proxy.connections := by
  cases operation <;> rfl

@[simp] theorem perform_shutdown : (proxy.perform index operation).shutdown = proxy.shutdown := by
  cases operation <;> rfl

@[simp] theorem perform_stop : (proxy.perform index operation).stop = proxy.stop := by
  cases operation <;> rfl

@[simp] theorem perform_listenFd : (proxy.perform index operation).listenFd = proxy.listenFd := by
  cases operation <;> rfl

end

def moveTo (proxy : TlsProxy) (index : Nat) (connection : Connection) : TlsProxy :=
  { proxy with connections := proxy.connections.set index connection }

def handle (proxy : TlsProxy) (index : Nat) (result : Option Nat) : TlsProxy :=
  match proxy.connections[index]? with
  | none => proxy
  | some connection =>
    let next := connection.next result
    if proxy.possible next.2 then (proxy.perform index next.2).moveTo index next.1 else proxy

theorem handle_cases (proxy : TlsProxy) (index : Nat) (result : Option Nat) :
    proxy.handle index result = proxy ∨
      ∃ connection, proxy.connections[index]? = some connection ∧
        proxy.possible (connection.next result).2 = true ∧
        proxy.handle index result =
          (proxy.perform index (connection.next result).2).moveTo index
            (connection.next result).1 := by
  cases found : proxy.connections[index]? with
  | none =>
    left
    simp [handle, found]
  | some connection =>
    by_cases possible : proxy.possible (connection.next result).2 = true
    · right
      exact ⟨connection, rfl, possible, by simp [handle, found, possible]⟩
    · left
      simp [handle, found, possible]

def finished (proxy : TlsProxy) (index : Nat) : Bool :=
  proxy.connections[index]?.any fun connection => connection.phase = .finished

def listenLoop (proxy : TlsProxy) (accepted : Option Nat) : TlsProxy :=
  match proxy.listener with
  | .loopTop => { proxy with listener := if proxy.shutdown then .exited else .accepting }
  | .accepting =>
    match accepted with
    | none => { proxy with listener := .acceptFailed }
    | some fd =>
      -- A listening socket that was shut down accepts nothing.
      if proxy.descriptors fd = none ∧ proxy.stop ∈ [.idle, .closingListener] then
        { proxy with
          listener := .testCount fd
          descriptors := Function.update proxy.descriptors fd (some .listenLoop) }
      else proxy
  | .acceptFailed => { proxy with listener := if proxy.shutdown then .exited else .loopTop }
  | .testCount fd =>
    { proxy with
      listener := if proxy.activeConnections < kMaxConcurrentConnections then .checkShutdown fd
        else .testShutdown fd }
  | .testShutdown fd =>
    { proxy with listener := if proxy.shutdown then .checkShutdown fd else .parking fd }
  | .parking fd => { proxy with listener := .blocked fd }
  | .blocked _ => proxy
  | .checkShutdown fd =>
    { proxy with listener := if proxy.shutdown then .closing fd else .launching fd }
  | .closing fd =>
    { proxy with
      listener := .exited
      descriptors := Function.update proxy.descriptors fd none }
  | .launching fd =>
    { proxy with
      listener := .recording proxy.connections.length
      connections := proxy.connections ++ [{ clientFd := fd, phase := .launched }]
      descriptors :=
        Function.update proxy.descriptors fd (some (.connection proxy.connections.length)) }
  | .recording index =>
    { proxy with
      listener := .loopTop
      futures := (proxy.futures ++ [index]).filter fun future => !proxy.finished future }
  | .exited => proxy

def stopStep (proxy : TlsProxy) : TlsProxy :=
  match proxy.stop with
  | .idle => { proxy with shutdown := true, stop := .closingListener }
  | .closingListener =>
    { proxy with
      descriptors := Function.update proxy.descriptors proxy.listenFd none
      stop := .joining }
  | .joining => if proxy.listener = .exited then { proxy with stop := .interrupting } else proxy
  | .interrupting => { proxy with interrupted := proxy.activeSockets, stop := .draining }
  | .draining => if proxy.futures.all proxy.finished then { proxy with stop := .stopped } else proxy
  | .stopped => proxy

inductive Action where
  | listen (accepted : Option Nat)
  | handle (index : Nat) (result : Option Nat)
  | stop
  -- The rest of the process has descriptors of its own.
  | openElsewhere (fd : Nat)
  | closeElsewhere (fd : Nat)
  deriving DecidableEq, Repr

def step (proxy : TlsProxy) : Action → TlsProxy
  | .listen accepted => proxy.listenLoop accepted
  | .handle index result => proxy.handle index result
  | .stop => proxy.stopStep
  | .openElsewhere fd =>
    if proxy.descriptors fd = none then
      { proxy with descriptors := Function.update proxy.descriptors fd (some .elsewhere) }
    else proxy
  | .closeElsewhere fd =>
    if proxy.descriptors fd = some .elsewhere then
      { proxy with descriptors := Function.update proxy.descriptors fd none }
    else proxy

def machine (listenFd : Nat) : Machine TlsProxy Action Unit where
  initial := started listenFd
  step := fun proxy action => (proxy.step action, ())

@[simp] theorem machine_step (listenFd : Nat) (proxy : TlsProxy) (action : Action) :
    ((machine listenFd).step proxy action).1 = proxy.step action := rfl

@[simp] theorem machine_initial (listenFd : Nat) :
    (machine listenFd).initial = started listenFd := rfl

end TlsProxy

end Ztab
