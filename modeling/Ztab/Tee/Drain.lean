import Ztab.Tee.Descriptors

set_option autoImplicit false

/-!
# The end of the proxy

What is left of the connections, of the descriptors and of `active_sockets_` once `Stop` has waited
for its futures.
-/

namespace Ztab

namespace TlsProxy

def books (proxy : TlsProxy) : List Connection × Int × Finset Nat :=
  (proxy.connections, proxy.activeConnections, proxy.activeSockets)

theorem stopStep_books (proxy : TlsProxy) : proxy.stopStep.books = proxy.books := by
  unfold stopStep
  split <;> first | rfl | (split <;> rfl)

def Explained (proxy : TlsProxy) (stale : Nat → Prop) : Prop :=
  ∀ fd ∈ proxy.activeSockets, stale fd ∨ ∃ (index : Nat) (connection : Connection),
    proxy.connections[index]? = some connection ∧ fd ∈ connection.registered

def RefusedAt (proxy : TlsProxy) (fd : Nat) : Prop :=
  ∃ connection ∈ proxy.connections, connection.phase = .refused fd

end TlsProxy

-- The failed connect is the one exit that takes a descriptor off the books and not out of the set.
theorem Connection.next_registered (connection : Connection) (result : Option Nat) {fd : Nat}
    (mine : fd ∈ connection.registered) :
    fd ∈ (connection.next result).1.registered ∨ connection.phase = .refused fd ∨
      (connection.next result).2 = .removeActiveSocket fd := by
  obtain ⟨clientFd, phase⟩ := connection
  cases phase with
  | launched | counted | forgotten | notifying | finished => simp [registered] at mine
  | registered | contextHeld | shaken | localRegistered =>
    cases result <;> simp_all [registered, next, handleConnection]
  | refused localFd | drained localFd =>
    simp only [registered, Finset.mem_insert, Finset.mem_singleton] at mine
    obtain rfl | rfl := mine <;> simp [registered, next, handleConnection]
  | localOpened | piping | localForgotten | closing | closed =>
    simp_all [registered, next, handleConnection]

theorem Connection.next_activates (connection : Connection) (result : Option Nat) {fd : Nat}
    (opens : (connection.next result).2 = .addActiveSocket fd) :
    fd ∈ (connection.next result).1.registered := by
  obtain ⟨clientFd, phase⟩ := connection
  cases phase with
  | counted | localOpened =>
    simp only [next, handleConnection, Operation.addActiveSocket.injEq] at opens
    simp [registered, next, handleConnection, opens]
  | registered | contextHeld | shaken | localRegistered =>
    cases result <;> simp [next, handleConnection] at opens
  | _ => simp [next, handleConnection] at opens

namespace TlsProxy

section

variable {proxy next : TlsProxy} {stale : Nat → Prop}

theorem Explained.congr (explained : proxy.Explained stale) (same : next.books = proxy.books) :
    next.Explained stale := by
  simp only [books, Prod.mk.injEq] at same
  obtain ⟨connections, -, sockets⟩ := same
  unfold Explained
  rw [connections, sockets]
  exact explained

theorem Explained.mono (explained : proxy.Explained stale) {staler : Nat → Prop}
    (onward : ∀ fd, stale fd → staler fd) : proxy.Explained staler :=
  fun fd listed => (explained fd listed).imp_left (onward fd)

theorem Explained.handle (explained : proxy.Explained stale) (index : Nat) (result : Option Nat) :
    (proxy.handle index result).Explained fun fd => stale fd ∨ proxy.RefusedAt fd := by
  obtain still | ⟨connection, found, -, moves⟩ := proxy.handle_cases index result
  · rw [still]
    exact explained.mono fun _ => .inl
  · rw [moves]
    intro fd listed
    have mine : (((proxy.perform index (connection.next result).2).moveTo index
        (connection.next result).1).connections)[index]? = some (connection.next result).1 := by
      rw [getElem?_moveTo _ _ found, if_pos rfl]
    simp only [moveTo, perform_activeSockets] at listed
    have before : (connection.next result).2 = .addActiveSocket fd ∨
        fd ∈ proxy.activeSockets ∧ (connection.next result).2 ≠ .removeActiveSocket fd := by
      generalize (connection.next result).2 = operation at listed ⊢
      cases operation <;> simp_all [Operation.activates, eq_comm]
    obtain opens | ⟨known, stays⟩ := before
    · exact .inr ⟨index, _, mine, connection.next_activates result opens⟩
    · obtain old | ⟨position, other, there, registered⟩ := explained fd known
      · exact .inl (.inl old)
      · by_cases here : index = position
        · subst here
          cases found.symm.trans there
          obtain kept | refused | removes := connection.next_registered result registered
          · exact .inr ⟨index, _, mine, kept⟩
          · exact .inl (.inr ⟨connection, List.mem_of_getElem? found, refused⟩)
          · exact absurd removes stays
        · refine .inr ⟨position, other, ?_, registered⟩
          rw [getElem?_moveTo _ _ found, if_neg here]
          exact there

theorem Explained.step (explained : proxy.Explained stale) (action : Action) :
    (proxy.step action).Explained fun fd => stale fd ∨ proxy.RefusedAt fd := by
  have further (next : TlsProxy) (same : next.books = proxy.books) :
      next.Explained fun fd => stale fd ∨ proxy.RefusedAt fd :=
    (explained.congr same).mono fun _ => .inl
  cases action with
  | listen accepted =>
    have connections := proxy.listenLoop_connections accepted
    have sockets : (proxy.listenLoop accepted).activeSockets = proxy.activeSockets := by
      unfold listenLoop
      split <;> first | rfl | (split <;> first | rfl | (split <;> rfl))
    intro fd listed
    rw [TlsProxy.step, sockets] at listed
    obtain old | ⟨index, connection, found, registered⟩ := explained fd listed
    · exact .inl (.inl old)
    · obtain ⟨inside, -⟩ := List.getElem?_eq_some_iff.mp found
      refine .inr ⟨index, connection, ?_, registered⟩
      rw [TlsProxy.step, connections]
      split
      · rw [List.getElem?_append_left inside]
        exact found
      · exact found
  | handle index result => exact explained.handle index result
  | stop => exact further _ proxy.stopStep_books
  | openElsewhere fd | closeElsewhere fd =>
    refine further _ ?_
    simp only [TlsProxy.step]
    split <;> rfl

end

end TlsProxy

namespace ProxyLife

def AbandonedPiping (life : ProxyLife) : Prop :=
  ∀ index ∈ life.abandoned, ∃ connection : Connection,
    life.proxy.connections[index]? = some connection ∧ connection.phase.pipes = true

theorem startStep_frame (life : ProxyLife) (result : Option Nat) :
    (life.startStep result).abandoned = life.abandoned ∧
      (life.startStep result).proxy.connections = life.proxy.connections := by
  unfold startStep
  cases life.start with
  | socket =>
    cases result with
    | none => exact ⟨rfl, rfl⟩
    | some fd =>
      dsimp only
      split <;> exact ⟨rfl, rfl⟩
  | setup | thread =>
    dsimp only
    split <;> exact ⟨rfl, rfl⟩
  | _ => exact ⟨rfl, rfl⟩

theorem stop_frame (life : ProxyLife) :
    life.stop.abandoned = life.abandoned ∧ life.stop.proxy.connections = life.proxy.connections := by
  obtain ⟨-, connections, -⟩ := life.proxy.stopStep_frame
  unfold stop
  split
  next =>
    split
    · split
      · exact ⟨rfl, rfl⟩
      · exact ⟨rfl, connections⟩
    · split <;> exact ⟨rfl, rfl⟩
    all_goals exact ⟨rfl, connections⟩
  next => exact ⟨rfl, rfl⟩

theorem step_abandoned (life : ProxyLife) {action : LifeAction}
    (quiet : ∀ index, action ≠ .threadFails index) :
    (life.step action).abandoned = life.abandoned := by
  cases action with
  | start result => exact (life.startStep_frame result).1
  | threadFails index => exact absurd rfl (quiet index)
  | proxy action =>
    cases action with
    | listen accepted =>
      obtain ⟨futures, moves⟩ := life.listenLoop_proxy accepted
      rw [step, moves]
    | handle index result =>
      simp only [step, handle]
      split <;> rfl
    | stop => exact life.stop_frame.1
    | openElsewhere | closeElsewhere => rfl

theorem step_connections (life : ProxyLife) {action : LifeAction}
    (shared : ∀ index result, action ≠ .proxy (.handle index result)) :
    (life.step action).proxy.connections = life.proxy.connections ∨
      ∃ fd, (life.step action).proxy.connections =
        life.proxy.connections ++ [{ clientFd := fd, phase := .launched }] := by
  cases action with
  | start result => exact .inl (life.startStep_frame result).2
  | threadFails index =>
    simp only [step, threadFails]
    split <;> exact .inl rfl
  | proxy action =>
    cases action with
    | listen accepted =>
      obtain ⟨futures, moves⟩ := life.listenLoop_proxy accepted
      rw [step, moves]
      have connections := life.proxy.listenLoop_connections accepted
      split at connections
      next fd _ => exact .inr ⟨fd, connections⟩
      next => exact .inl connections
    | handle index result => exact absurd rfl (shared index result)
    | stop => exact .inl life.stop_frame.2
    | openElsewhere fd | closeElsewhere fd =>
      left
      simp only [step, TlsProxy.step]
      split <;> rfl

theorem step_books (life : ProxyLife) (action : LifeAction) :
    ∃ underneath, (life.step action).proxy.books = (life.proxy.step underneath).books := by
  have still : life.proxy.books = (life.proxy.step .stop).books := (life.proxy.stopStep_books).symm
  cases action with
  | start result =>
    refine ⟨.stop, Eq.trans ?_ still⟩
    simp only [step, startStep]
    cases life.start with
    | socket =>
      cases result with
      | none => rfl
      | some fd =>
        dsimp only
        split <;> rfl
    | setup | thread =>
      dsimp only
      split <;> rfl
    | _ => rfl
  | threadFails index =>
    refine ⟨.stop, Eq.trans ?_ still⟩
    simp only [step, threadFails]
    split <;> rfl
  | proxy action =>
    cases action with
    | listen accepted =>
      obtain ⟨futures, moves⟩ := life.listenLoop_proxy accepted
      exact ⟨.listen accepted, by rw [step, moves]; rfl⟩
    | handle index result =>
      by_cases gone : index ∈ life.abandoned
      · exact ⟨.stop, by simp [step, handle, gone, still]⟩
      · exact ⟨.handle index result, by simp [step, handle, gone, TlsProxy.step]⟩
    | stop =>
      refine ⟨.stop, ?_⟩
      simp only [step, stop]
      split
      next =>
        split <;> first | rfl | (split <;> first | rfl | exact still)
      next => exact still
    | openElsewhere fd => exact ⟨.openElsewhere fd, rfl⟩
    | closeElsewhere fd => exact ⟨.closeElsewhere fd, rfl⟩

/-- Whatever has been launched is waited for: its future is on the list or about to be, unless
it is ready. -/
structure Awaited (life : ProxyLife) : Prop where
  recorded : ∀ index < life.proxy.connections.length,
    index ∈ life.proxy.futures ∨ life.ready index = true ∨ life.proxy.listener = .recording index
  joined : life.proxy.stop ∈ [.interrupting, .draining, .stopped] → life.proxy.listener = .exited
  drained : life.proxy.stop = .stopped →
    ∀ index < life.proxy.connections.length, life.ready index = true

theorem awaited_constructed : constructed.Awaited := by
  constructor <;> simp [constructed, TlsProxy.started]

theorem ready_congr {life next : ProxyLife} (connections : next.proxy.connections = life.proxy.connections)
    (abandoned : next.abandoned = life.abandoned) (index : Nat) :
    next.ready index = life.ready index := by
  simp [ready, TlsProxy.finished, connections, abandoned]

section

variable {life : ProxyLife}

theorem Awaited.framed {next : ProxyLife} (awaited : life.Awaited)
    (connections : next.proxy.connections = life.proxy.connections)
    (abandoned : next.abandoned = life.abandoned)
    (futures : next.proxy.futures = life.proxy.futures)
    (stop : next.proxy.stop = life.proxy.stop)
    (recording : ∀ index, life.proxy.listener = .recording index →
      next.proxy.listener = .recording index)
    (exited : life.proxy.listener = .exited → next.proxy.listener = .exited) : next.Awaited := by
  constructor
  · intro index inside
    rw [connections] at inside
    rw [futures, ready_congr connections abandoned]
    exact (awaited.recorded index inside).imp_right (.imp_right (recording index))
  · intro joined
    rw [stop] at joined
    exact exited (awaited.joined joined)
  · intro stopped index inside
    rw [connections] at inside
    rw [stop] at stopped
    rw [ready_congr connections abandoned]
    exact awaited.drained stopped index inside

-- One more future is ready, or the thread of one has moved on.
theorem Awaited.readier {next : ProxyLife} (awaited : life.Awaited)
    (length : next.proxy.connections.length = life.proxy.connections.length)
    (ready : ∀ index, life.ready index = true → next.ready index = true)
    (futures : next.proxy.futures = life.proxy.futures)
    (stop : next.proxy.stop = life.proxy.stop)
    (recording : ∀ index, life.proxy.listener = .recording index →
      next.proxy.listener = .recording index)
    (exited : life.proxy.listener = .exited → next.proxy.listener = .exited) : next.Awaited := by
  constructor
  · intro index inside
    rw [length] at inside
    rw [futures]
    exact (awaited.recorded index inside).imp_right (.imp (ready index) (recording index))
  · intro joined
    rw [stop] at joined
    exact exited (awaited.joined joined)
  · intro stopped index inside
    rw [length] at inside
    rw [stop] at stopped
    exact ready index (awaited.drained stopped index inside)

theorem finished_handle {proxy : TlsProxy} (index : Nat) (result : Option Nat) {position : Nat}
    (ended : proxy.finished position = true) :
    (proxy.handle index result).finished position = true := by
  obtain still | ⟨connection, found, possible, moves⟩ := proxy.handle_cases index result
  · rw [still]
    exact ended
  · rw [moves]
    simp only [TlsProxy.finished, TlsProxy.getElem?_moveTo _ _ found]
    split
    next here =>
      subst here
      have phase : connection.phase = .finished := by simpa [TlsProxy.finished, found] using ended
      simp [Connection.next, phase, Connection.handleConnection]
    next elsewhere => exact ended

theorem handle_listener {proxy : TlsProxy} (index : Nat) (result : Option Nat)
    {phase : ListenerPhase} (awake : phase.notified = phase) (now : proxy.listener = phase) :
    (proxy.handle index result).listener = phase := by
  obtain still | ⟨connection, found, possible, moves⟩ := proxy.handle_cases index result
  · rw [still]
    exact now
  · rw [moves]
    generalize (connection.next result).2 = operation
    cases operation with
    | notifyOne => simp [TlsProxy.moveTo, TlsProxy.perform, now, awake]
    | _ => exact now

theorem Awaited.handle (awaited : life.Awaited) (index : Nat) (result : Option Nat) :
    (life.handle index result).Awaited := by
  unfold ProxyLife.handle
  split
  next => exact awaited
  next =>
    obtain ⟨length, futures, stop⟩ := life.proxy.handle_frame index result
    refine awaited.readier length (fun position => ?_) futures stop
      (fun _ => handle_listener index result rfl) (handle_listener index result rfl)
    simp only [ready, Bool.or_eq_true]
    exact Or.imp_left (finished_handle index result)

theorem Awaited.listenLoop (awaited : life.Awaited) (accepted : Option Nat) :
    (life.listenLoop accepted).Awaited := by
  have running (phase : life.proxy.listener ≠ .exited) :
      life.proxy.stop ∉ [.interrupting, .draining, .stopped] := fun joined =>
    phase (awaited.joined joined)
  unfold ProxyLife.listenLoop
  cases phase : life.proxy.listener with
  | launching fd =>
    have going := running (by simp [phase])
    simp only [TlsProxy.listenLoop, phase]
    constructor
    · intro index inside
      simp only [List.length_append, List.length_singleton] at inside
      by_cases new : index = life.proxy.connections.length
      · exact .inr (.inr (by simp [new]))
      · have earlier : index < life.proxy.connections.length := by omega
        obtain listed | ended | recording := awaited.recorded index earlier
        · exact .inl listed
        · refine .inr (.inl ?_)
          simpa [ready, TlsProxy.finished, List.getElem?_append_left earlier] using ended
        · simp [phase] at recording
    · intro joined
      exact absurd joined going
    · intro stopped
      exact absurd (by simp [show life.proxy.stop = .stopped from stopped]) going
  | recording index =>
    have going := running (by simp [phase])
    simp only [TlsProxy.listenLoop, phase]
    constructor
    · intro position inside
      show _ ∨ life.ready position = true ∨ _
      by_cases ended : life.ready position = true
      · exact .inr (.inl ended)
      · left
        obtain listed | done | recording := awaited.recorded position inside
        · simp [listed, ended]
        · exact absurd done ended
        · rw [phase] at recording
          cases recording
          simp [ended]
    · intro joined
      exact absurd joined going
    · intro stopped
      exact absurd (by simp [show life.proxy.stop = .stopped from stopped]) going
  | accepting =>
    cases accepted with
    | none =>
      simp only [TlsProxy.listenLoop, phase]
      exact awaited.framed rfl rfl rfl rfl (by simp [phase]) (by simp [phase])
    | some fd =>
      simp only [TlsProxy.listenLoop, phase]
      split
      · exact awaited.framed rfl rfl rfl rfl (by simp [phase]) (by simp [phase])
      · exact awaited
  | blocked fd | exited =>
    simp only [TlsProxy.listenLoop, phase]
    exact awaited
  | loopTop | acceptFailed | testCount fd | testShutdown fd | parking fd | checkShutdown fd
  | closing fd =>
    simp only [TlsProxy.listenLoop, phase]
    exact awaited.framed rfl rfl rfl rfl (by simp [phase]) (by simp [phase])

-- Stop goes on to a step at which nothing has been joined or everything has been drained.
theorem Awaited.stopped (awaited : life.Awaited) {phase : StopPhase}
    (joined : phase ∈ [.interrupting, .draining, .stopped] → life.proxy.listener = .exited)
    (drained : phase = .stopped →
      ∀ index < life.proxy.connections.length, life.ready index = true)
    {next : TlsProxy} (connections : next.connections = life.proxy.connections)
    (futures : next.futures = life.proxy.futures) (listener : next.listener = life.proxy.listener)
    (stop : next.stop = phase) : Awaited { life with proxy := next } := by
  have ready : ∀ index, ProxyLife.ready { life with proxy := next } index = life.ready index :=
    ready_congr connections rfl
  constructor
  · intro index inside
    rw [show ProxyLife.proxy { life with proxy := next } = next from rfl, connections] at inside
    rw [ready]
    simpa [futures, listener] using awaited.recorded index inside
  · intro there
    exact listener.trans (joined (stop ▸ there))
  · intro there index inside
    rw [show ProxyLife.proxy { life with proxy := next } = next from rfl, connections] at inside
    rw [ready]
    exact drained (stop.symm.trans there) index inside

theorem Awaited.stop (awaited : life.Awaited) : life.stop.Awaited := by
  unfold ProxyLife.stop
  split
  next ended =>
    cases phase : life.proxy.stop with
    | idle =>
      simp only [TlsProxy.stopStep, phase]
      exact awaited.stopped (by simp) (by simp) rfl rfl rfl rfl
    | closingListener =>
      simp only [TlsProxy.stopStep, phase]
      split <;> exact awaited.stopped (by simp) (by simp) rfl rfl rfl rfl
    | joining =>
      simp only [TlsProxy.stopStep, phase]
      split
      next exited => exact awaited.stopped (fun _ => exited) (by simp) rfl rfl rfl rfl
      next running => exact awaited
    | interrupting =>
      have exited := awaited.joined (by simp [phase])
      simp only [TlsProxy.stopStep, phase]
      exact awaited.stopped (fun _ => exited) (by simp) rfl rfl rfl rfl
    | draining =>
      have exited := awaited.joined (by simp [phase])
      dsimp only
      split
      next ready =>
        refine awaited.stopped (fun _ => exited) (fun _ index inside => ?_) rfl rfl rfl rfl
        obtain listed | ended | recording := awaited.recorded index inside
        · exact List.all_eq_true.mp ready index listed
        · exact ended
        · simp [exited] at recording
      next busy => exact awaited
    | stopped =>
      simp only [TlsProxy.stopStep, phase]
      exact awaited
  next => exact awaited

theorem Awaited.step (awaited : life.Awaited) (kept : life.Kept) (action : LifeAction) :
    (life.step action).Awaited := by
  cases action with
  | start result =>
    simp only [ProxyLife.step, ProxyLife.startStep]
    cases phase : life.start with
    | socket =>
      cases result with
      | none => exact awaited.framed rfl rfl rfl rfl (fun _ now => now) (fun now => now)
      | some fd =>
        dsimp only
        split
        · exact awaited.framed rfl rfl rfl rfl (fun _ now => now) (fun now => now)
        · exact awaited
    | setup =>
      dsimp only
      split <;> exact awaited.framed rfl rfl rfl rfl (fun _ now => now) (fun now => now)
    | thread =>
      -- The listener comes to life before anybody has called Stop.
      have idle := kept.early (by simp [phase, StartPhase.ended])
      obtain ⟨connections, -⟩ := kept.unserved (by simp [phase])
      dsimp only
      split
      · constructor <;> simp [connections, idle]
      · exact awaited.framed rfl rfl rfl rfl (fun _ now => now) (fun now => now)
    | _ => exact awaited
  | threadFails index =>
    simp only [ProxyLife.step, ProxyLife.threadFails]
    split
    · refine awaited.readier rfl (fun position => ?_) rfl rfl (fun _ now => now) (fun now => now)
      simp only [ready, Bool.or_eq_true, decide_eq_true_eq, Finset.mem_insert]
      exact Or.imp_right .inr
    · exact awaited
  | proxy action =>
    cases action with
    | listen accepted => exact awaited.listenLoop accepted
    | handle index result => exact awaited.handle index result
    | stop => exact awaited.stop
    | openElsewhere fd | closeElsewhere fd =>
      simp only [ProxyLife.step, TlsProxy.step]
      split
      · exact awaited.framed rfl rfl rfl rfl (fun _ now => now) (fun now => now)
      · exact awaited

theorem AbandonedPiping.framed {next : ProxyLife} (piping : life.AbandonedPiping)
    (abandoned : next.abandoned = life.abandoned)
    (connections : ∀ index ∈ life.abandoned,
      life.proxy.connections[index]? = next.proxy.connections[index]?) : next.AbandonedPiping := by
  intro index gone
  rw [abandoned] at gone
  rw [← connections index gone]
  exact piping index gone

theorem AbandonedPiping.step (piping : life.AbandonedPiping) (action : LifeAction) :
    (life.step action).AbandonedPiping := by
  by_cases fails : ∃ index, action = .threadFails index
  · obtain ⟨index, rfl⟩ := fails
    simp only [ProxyLife.step, threadFails]
    split
    next pipes =>
      intro other gone
      obtain rfl | gone := Finset.mem_insert.mp gone
      · simpa [Option.any_eq_true] using pipes
      · exact piping other gone
    next => exact piping
  have abandoned := life.step_abandoned fun index same => fails ⟨index, same⟩
  by_cases thread : ∃ index result, action = .proxy (.handle index result)
  · obtain ⟨index, result, rfl⟩ := thread
    refine piping.framed abandoned fun other gone => ?_
    simp only [ProxyLife.step, handle]
    split
    next => rfl
    next running =>
      have apart : index ≠ other := fun same => running (same ▸ gone)
      obtain still | ⟨connection, found, -, moves⟩ := life.proxy.handle_cases index result
      · rw [still]
      · rw [moves, TlsProxy.getElem?_moveTo _ _ found, if_neg apart]
  · refine piping.framed abandoned fun index gone => ?_
    obtain same | ⟨fd, launched⟩ :=
      life.step_connections fun index result same => thread ⟨index, result, same⟩
    · rw [same]
    · obtain ⟨connection, found, -⟩ := piping index gone
      obtain ⟨inside, -⟩ := List.getElem?_eq_some_iff.mp found
      rw [launched, List.getElem?_append_left inside]

end

theorem machine_awaited (actions : List LifeAction) :
    (machine.after machine.initial actions).Awaited := by
  have both := machine.after_preserves (fun life => life.Kept ∧ life.Awaited)
    (fun _ action held => ⟨held.1.step action, held.2.step held.1 action⟩) machine.initial
    ⟨kept_constructed, awaited_constructed⟩ actions
  exact both.2

theorem stopped_step {life : ProxyLife} (stopped : life.proxy.stop = .stopped) (action : LifeAction) :
    (life.step action).proxy.stop = .stopped := by
  cases action with
  | start result =>
    simp only [ProxyLife.step, startStep]
    cases life.start with
    | socket =>
      cases result with
      | none => exact stopped
      | some fd =>
        dsimp only
        split <;> exact stopped
    | setup | thread =>
      dsimp only
      split <;> exact stopped
    | _ => exact stopped
  | threadFails index =>
    simp only [ProxyLife.step, threadFails]
    split <;> exact stopped
  | proxy action =>
    cases action with
    | listen accepted =>
      obtain ⟨futures, moves⟩ := life.listenLoop_proxy accepted
      rw [ProxyLife.step, moves]
      exact (life.proxy.listenLoop_frame accepted).2.2.trans stopped
    | handle index result =>
      simp only [ProxyLife.step, handle]
      split
      · exact stopped
      · exact (life.proxy.handle_frame index result).2.2.trans stopped
    | stop => simp [ProxyLife.step, stop, stopped, TlsProxy.stopStep]
    | openElsewhere fd | closeElsewhere fd =>
      simp only [ProxyLife.step, TlsProxy.step]
      split <;> exact stopped

theorem machine_abandoned (actions : List LifeAction) :
    (machine.after machine.initial actions).AbandonedPiping :=
  machine.after_preserves AbandonedPiping (fun _ action piping => piping.step action) _
    (by simp [AbandonedPiping, constructed]) actions

theorem machine_tallied (actions : List LifeAction) :
    (machine.after machine.initial actions).proxy.Tallied := by
  apply machine.after_preserves fun life => life.proxy.Tallied
  · intro life action tallied
    obtain ⟨underneath, same⟩ := life.step_books action
    simp only [TlsProxy.books, Prod.mk.injEq] at same
    have onward := tallied.step underneath
    unfold TlsProxy.Tallied at onward ⊢
    rw [machine_step, same.1, same.2.1]
    exact onward
  · simp [TlsProxy.Tallied, constructed, TlsProxy.started]

def Refused (actions : List LifeAction) (fd : Nat) : Prop :=
  ∃ earlier later, actions = earlier ++ later ∧
    (machine.after machine.initial earlier).proxy.RefusedAt fd

theorem machine_explained (actions : List LifeAction) :
    (machine.after machine.initial actions).proxy.Explained (Refused actions) := by
  induction actions using List.reverseRecOn with
  | nil => simp [TlsProxy.Explained, constructed, TlsProxy.started]
  | append_singleton earlier action ih =>
    rw [Machine.after_append]
    obtain ⟨underneath, same⟩ :=
      (machine.after machine.initial earlier).step_books action
    refine ((ih.step underneath).congr same).mono ?_
    rintro fd (⟨before, after, split, refused⟩ | refused)
    · exact ⟨before, after ++ [action], by rw [split, List.append_assoc], refused⟩
    · exact ⟨earlier, [action], rfl, refused⟩

theorem Awaited.ended {life : ProxyLife} (awaited : life.Awaited) (piping : life.AbandonedPiping)
    (stopped : life.proxy.stop = .stopped) {index : Nat} {connection : Connection}
    (found : life.proxy.connections[index]? = some connection) :
    connection.phase = .finished ∨ index ∈ life.abandoned ∧ connection.phase.pipes = true := by
  obtain ⟨inside, -⟩ := List.getElem?_eq_some_iff.mp found
  have through := awaited.drained stopped index inside
  simp only [ready, TlsProxy.finished, found, Option.any_some, Bool.or_eq_true,
    decide_eq_true_eq] at through
  obtain finished | gone := through
  · exact .inl finished
  · obtain ⟨other, there, pipes⟩ := piping index gone
    cases found.symm.trans there
    exact .inr ⟨gone, pipes⟩

/--
When Stop returns, in whatever order the threads ran, every connection that was ever launched has
ended, by returning or by an exception. The exceptions are all that is still counted; the open
descriptors are theirs and those of the rest of the process; and the numbers that are left in
`active_sockets_` are theirs and the local ones of failed connects.
-/
theorem stop_drains_everything (actions : List LifeAction)
    (stopped : (machine.after machine.initial actions).proxy.stop = .stopped) :
    let life := machine.after machine.initial actions
    life.proxy.listener = .exited ∧
      (∀ (index : Nat) (connection : Connection), life.proxy.connections[index]? = some connection →
        (connection.phase = .finished ↔ index ∉ life.abandoned)) ∧
      life.proxy.activeConnections =
        life.proxy.connections.countP (fun connection => connection.phase ≠ .finished) ∧
      (∀ fd owner, life.proxy.descriptors fd = some owner →
        owner = .elsewhere ∨ ∃ index ∈ life.abandoned, owner = .connection index) ∧
      ∀ fd ∈ life.proxy.activeSockets, Refused actions fd ∨
        ∃ index ∈ life.abandoned, ∃ connection : Connection,
          life.proxy.connections[index]? = some connection ∧ fd ∈ connection.registered := by
  intro life
  have awaited : life.Awaited := machine_awaited actions
  have piping : life.AbandonedPiping := machine_abandoned actions
  have kept : life.Kept := machine_kept actions
  have tallied : life.proxy.Tallied := machine_tallied actions
  have explained : life.proxy.Explained (Refused actions) := machine_explained actions
  have exited := awaited.joined (by simp [show life.proxy.stop = .stopped from stopped])
  have ended {index : Nat} {connection : Connection}
      (found : life.proxy.connections[index]? = some connection) :
      connection.phase = .finished ∨ index ∈ life.abandoned ∧ connection.phase.pipes = true :=
    awaited.ended piping stopped found
  refine ⟨exited, fun index connection found => ?_, ?_, fun fd owner there => ?_, fun fd listed => ?_⟩
  · obtain finished | ⟨gone, pipes⟩ := ended found
    · refine ⟨fun _ gone => ?_, fun _ => finished⟩
      obtain ⟨other, there, pipes⟩ := piping index gone
      cases found.symm.trans there
      simp [finished, ConnectionPhase.pipes] at pipes
    · refine ⟨fun finished => ?_, fun running => absurd gone running⟩
      simp [finished, ConnectionPhase.pipes] at pipes
  · rw [tallied]
    congr 1
    apply List.countP_congr
    intro connection member
    obtain ⟨index, found⟩ := List.mem_iff_getElem?.mp member
    obtain ⟨clientFd, phase⟩ := connection
    obtain rfl | ⟨-, pipes⟩ := ended found
    · simp [Connection.tallied, Connection.underway]
    · cases phase <;> simp_all [ConnectionPhase.pipes, Connection.tallied, Connection.underway,
        Connection.pending]
  · have held := (kept.agrees fd owner).mp there
    cases owner with
    | start => simp [Holds, TlsProxy.Holds, show life.proxy.stop = .stopped from stopped] at held
    | listenLoop => simp [Holds, TlsProxy.Holds, exited, ListenerPhase.waitingFd] at held
    | connection index =>
      obtain ⟨connection, found, member⟩ := held
      obtain finished | ⟨gone, -⟩ := ended found
      · simp [Connection.owned, finished] at member
      · exact .inr ⟨index, gone, rfl⟩
    | elsewhere => exact .inl rfl
  · obtain refused | ⟨index, connection, found, registered⟩ := explained fd listed
    · exact .inl refused
    · obtain finished | ⟨gone, -⟩ := ended found
      · simp [Connection.registered, finished] at registered
      · exact .inr ⟨index, gone, connection, found, registered⟩

/-- One connection pipes between 7 and 8 when Stop runs, another could not start to, between 9 and
10; a third has been accepted as 11 and is turned away; the rest of the process has 4 open. -/
def stoppedWhilePiping : List LifeAction :=
  let accept (fd : Nat) : List TlsProxy.Action := [.listen none, .listen (some fd), .listen none]
  let pipe (index localFd : Nat) : List TlsProxy.Action :=
    [.listen none, .listen none, .listen none, .handle index none, .handle index none,
      .handle index (some 0), .handle index (some 0), .handle index (some localFd),
      .handle index none, .handle index (some 0)]
  let before : List TlsProxy.Action :=
    accept 7 ++ pipe 0 8 ++ accept 9 ++ pipe 1 10 ++ [.openElsewhere 4]
  let after : List TlsProxy.Action :=
    accept 11 ++ [.stop, .stop, .listen none, .listen none, .stop, .stop] ++
      List.replicate 7 (.handle 0 none) ++ [.stop]
  startedActions 3 ++ before.map .proxy ++ [.threadFails 1] ++ after.map .proxy

theorem stopped_while_piping_drains :
    let life := machine.after machine.initial stoppedWhilePiping
    life.proxy.interrupted = {7, 8, 9, 10} ∧ life.abandoned = {1} ∧ life.proxy.activeConnections = 1 ∧
      ∀ fd owner, life.proxy.descriptors fd = some owner →
        owner = .elsewhere ∨ ∃ index ∈ life.abandoned, owner = .connection index := by
  obtain ⟨-, -, -, left, -⟩ := stop_drains_everything stoppedWhilePiping (by decide +kernel)
  exact ⟨by decide +kernel, by decide +kernel, by decide +kernel, left⟩

end ProxyLife

end Ztab
