import Mathlib.Data.Finset.Basic
import Ztab.Tee.TlsProxy

set_option autoImplicit false

/-!
# The life of the proxy

`Start` with the exits that fail, the threads of a proxy that serves, and `Stop`. A connection whose
first piping thread cannot be made leaves HandleConnection by an exception, past every close, every
removal and the decrement.
-/

namespace Ztab

inductive StartPhase where
  | socket
  -- setsockopt, bind and listen.
  | setup
  | thread
  | serving
  -- The exits that fail. After them listen_fd_ is -1, a number that is closed, or still open.
  | noSocket
  | setupFailed
  | threadFailed
  deriving DecidableEq, Repr

def StartPhase.ended : StartPhase → Bool
  | .socket | .setup | .thread => false
  | .serving | .noSocket | .setupFailed | .threadFailed => true

def StartPhase.opened : StartPhase → Bool
  | .setup | .thread | .serving | .threadFailed => true
  | .socket | .noSocket | .setupFailed => false

def ConnectionPhase.pipes : ConnectionPhase → Bool
  | .piping _ => true
  | _ => false

structure ProxyLife where
  proxy : TlsProxy
  start : StartPhase
  -- The connections whose thread an exception has ended.
  abandoned : Finset Nat

inductive LifeAction where
  | start (result : Option Nat)
  | proxy (action : TlsProxy.Action)
  | threadFails (index : Nat)
  deriving DecidableEq, Repr

namespace ProxyLife

def constructed : ProxyLife where
  proxy := { TlsProxy.started 0 with descriptors := fun _ => none, listener := .exited }
  start := .socket
  abandoned := ∅

/-- `result` is what the call returned that Start waits for: nothing for a failure. -/
def startStep (life : ProxyLife) (result : Option Nat) : ProxyLife :=
  match life.start with
  | .socket =>
    match result with
    | none => { life with start := .noSocket }
    | some fd =>
      if life.proxy.descriptors fd = none then
        { life with
          start := .setup
          proxy := { life.proxy with
            listenFd := fd
            descriptors := Function.update life.proxy.descriptors fd (some .start) } }
      else life
  | .setup =>
    if result.isSome then { life with start := .thread }
    else
      { life with
        start := .setupFailed
        proxy := { life.proxy with
          descriptors := Function.update life.proxy.descriptors life.proxy.listenFd none } }
  | .thread =>
    if result.isSome then
      { life with start := .serving, proxy := { life.proxy with listener := .loopTop } }
    else { life with start := .threadFailed }
  | .serving | .noSocket | .setupFailed | .threadFailed => life

def ready (life : ProxyLife) (index : Nat) : Bool :=
  life.proxy.finished index || decide (index ∈ life.abandoned)

def listenLoop (life : ProxyLife) (accepted : Option Nat) : ProxyLife :=
  let proxy := life.proxy.listenLoop accepted
  match life.proxy.listener with
  | .recording index =>
    { life with proxy := { proxy with
        futures := (life.proxy.futures ++ [index]).filter fun future => !life.ready future } }
  | _ => { life with proxy }

def handle (life : ProxyLife) (index : Nat) (result : Option Nat) : ProxyLife :=
  if index ∈ life.abandoned then life
  else { life with proxy := life.proxy.handle index result }

/-- std::thread throws in place of the first piping thread. When the second cannot be made, or
std::async throws, the process is terminated, and the run is over. -/
def threadFails (life : ProxyLife) (index : Nat) : ProxyLife :=
  if life.proxy.connections[index]?.any fun connection => connection.phase.pipes then
    { life with abandoned := insert index life.abandoned }
  else life

def stop (life : ProxyLife) : ProxyLife :=
  if life.start.ended then
    match life.proxy.stop with
    | .closingListener =>
      if life.start = .noSocket then { life with proxy := { life.proxy with stop := .joining } }
      else { life with proxy := life.proxy.stopStep }
    | .draining =>
      if life.proxy.futures.all life.ready then
        { life with proxy := { life.proxy with stop := .stopped } }
      else life
    | .idle | .joining | .interrupting | .stopped => { life with proxy := life.proxy.stopStep }
  else life

def step (life : ProxyLife) : LifeAction → ProxyLife
  | .start result => life.startStep result
  | .threadFails index => life.threadFails index
  | .proxy (.listen accepted) => life.listenLoop accepted
  | .proxy (.handle index result) => life.handle index result
  | .proxy .stop => life.stop
  | .proxy action => { life with proxy := life.proxy.step action }

def machine : Machine ProxyLife LifeAction Unit where
  initial := constructed
  step := fun life action => (life.step action, ())

@[simp] theorem machine_initial : machine.initial = constructed := rfl

@[simp] theorem machine_step (life : ProxyLife) (action : LifeAction) :
    (machine.step life action).1 = life.step action := rfl

variable {life : ProxyLife}

theorem listenLoop_proxy (life : ProxyLife) (accepted : Option Nat) :
    ∃ futures, life.listenLoop accepted =
      { life with proxy := { life.proxy.listenLoop accepted with futures } } := by
  unfold listenLoop
  split <;> exact ⟨_, rfl⟩

theorem step_serving (serving : life.start = .serving) (none_ : life.abandoned = ∅)
    (action : TlsProxy.Action) :
    life.step (.proxy action) = { life with proxy := life.proxy.step action } := by
  have ready : life.ready = life.proxy.finished := by
    funext index
    simp [ProxyLife.ready, none_]
  cases action with
  | listen accepted =>
    simp only [step, listenLoop, TlsProxy.step]
    split
    next index phase => simp [ready, TlsProxy.listenLoop, phase]
    next => rfl
  | handle index result => simp [step, handle, none_, TlsProxy.step]
  | stop =>
    simp only [step, stop, serving, StartPhase.ended, TlsProxy.step, ready]
    cases phase : life.proxy.stop with
    | draining =>
      simp only [TlsProxy.stopStep, phase, if_true]
      split
      · rfl
      · rw [← serving]
    | _ => simp [TlsProxy.stopStep, phase]
  | openElsewhere fd | closeElsewhere fd => rfl

def startedActions (listenFd : Nat) : List LifeAction :=
  [.start (some listenFd), .start (some 0), .start (some 0)]

theorem after_started (listenFd : Nat) (actions : List TlsProxy.Action) :
    machine.after machine.initial (startedActions listenFd ++ actions.map .proxy) =
      { proxy := (TlsProxy.machine listenFd).after (TlsProxy.machine listenFd).initial actions
        start := .serving
        abandoned := ∅ } := by
  induction actions using List.reverseRecOn with
  | nil =>
    simp only [List.map_nil, List.append_nil, startedActions, Machine.after_cons, Machine.after_nil,
      machine_step, machine_initial, step, startStep, constructed, if_true, Option.isSome_some,
      TlsProxy.machine_initial, TlsProxy.started]
    congr 2
    funext fd
    by_cases same : fd = listenFd <;> simp [same]
  | append_singleton earlier action ih =>
    rw [List.map_append, ← List.append_assoc, Machine.after_append, ih, Machine.after_append]
    exact step_serving rfl rfl action

end ProxyLife

end Ztab
