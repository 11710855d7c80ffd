import Mathlib.Data.List.Basic
import Ztab.Tee.TlsProxy

set_option autoImplicit false

/-!
# The connection throttle

How many connections are underway against `active_connections_`, which a thread increments
only once it runs, and what may leave the listener asleep in `connection_throttle_cv_.wait`.
-/

namespace Ztab

namespace Connection

def underway (connection : Connection) : Bool :=
  connection.phase ≠ .notifying ∧ connection.phase ≠ .finished

def pending (connection : Connection) : Bool :=
  connection.phase = .launched

def tallied (connection : Connection) : Bool :=
  connection.underway && !connection.pending

end Connection

def ListenerPhase.testing : ListenerPhase → Bool
  | .testCount _ => true
  | _ => false

def Operation.change : Operation → Int
  | .increment => 1
  | .decrement => -1
  | _ => 0

theorem Connection.next_tallied (connection : Connection) (result : Option Nat) :
    ((connection.next result).1.tallied.toNat : Int) =
      connection.tallied.toNat + (connection.next result).2.change := by
  obtain ⟨clientFd, phase⟩ := connection
  cases phase with
  | registered | contextHeld | shaken | localRegistered => cases result <;> rfl
  | _ => rfl

theorem Connection.next_underway (connection : Connection) (result : Option Nat) :
    (connection.next result).1.underway = true → connection.underway = true := by
  obtain ⟨clientFd, phase⟩ := connection
  cases phase with
  | notifying | finished => exact id
  | _ => exact fun _ => rfl

namespace TlsProxy

def underway (proxy : TlsProxy) : Nat :=
  proxy.connections.countP Connection.underway

def pending (proxy : TlsProxy) : Nat :=
  proxy.connections.countP Connection.pending

def Tallied (proxy : TlsProxy) : Prop :=
  proxy.activeConnections = proxy.connections.countP Connection.tallied

theorem weight_eq_toNat (weight : Bool) : (if weight = true then 1 else 0) = weight.toNat := by
  cases weight <;> rfl

theorem underway_eq (proxy : TlsProxy) :
    proxy.underway = proxy.connections.countP Connection.tallied + proxy.pending := by
  unfold underway pending
  induction proxy.connections with
  | nil => rfl
  | cons connection rest ih =>
    have parts : connection.underway.toNat =
        connection.tallied.toNat + connection.pending.toNat := by
      obtain ⟨clientFd, phase⟩ := connection
      cases phase <;> rfl
    simp only [List.countP_cons, weight_eq_toNat]
    omega

theorem countP_set_add {Element : Type} (p : Element → Bool) {elements : List Element} {index : Nat}
    {element : Element} (found : elements[index]? = some element) (changed : Element) :
    (elements.set index changed).countP p + (p element).toNat =
      elements.countP p + (p changed).toNat := by
  induction elements generalizing index with
  | nil => simp at found
  | cons first rest ih =>
    cases index with
    | zero =>
      cases found
      simp only [List.set_cons_zero, List.countP_cons, weight_eq_toNat]
      omega
    | succ index =>
      have remaining := ih found
      simp only [List.set_cons_succ, List.countP_cons]
      omega

theorem perform_activeConnections (proxy : TlsProxy) (index : Nat) (operation : Operation) :
    (proxy.perform index operation).activeConnections =
      proxy.activeConnections + operation.change := by
  cases operation <;> simp [perform, Operation.change, Int.sub_eq_add_neg]

theorem perform_listener (proxy : TlsProxy) (index : Nat) {operation : Operation}
    (quiet : operation ≠ .notifyOne) :
    (proxy.perform index operation).listener = proxy.listener := by
  cases operation with
  | notifyOne => exact absurd rfl quiet
  | _ => rfl

theorem listenLoop_frame (proxy : TlsProxy) (accepted : Option Nat) :
    (proxy.listenLoop accepted).activeConnections = proxy.activeConnections ∧
      (proxy.listenLoop accepted).shutdown = proxy.shutdown ∧
      (proxy.listenLoop accepted).stop = proxy.stop := by
  unfold listenLoop
  cases proxy.listener with
  | accepting =>
    cases accepted with
    | none => exact ⟨rfl, rfl, rfl⟩
    | some fd =>
      dsimp only
      split <;> exact ⟨rfl, rfl, rfl⟩
  | _ => exact ⟨rfl, rfl, rfl⟩

theorem listenLoop_connections (proxy : TlsProxy) (accepted : Option Nat) :
    (proxy.listenLoop accepted).connections =
      match proxy.listener with
      | .launching fd => proxy.connections ++ [{ clientFd := fd, phase := .launched }]
      | _ => proxy.connections := by
  unfold listenLoop
  cases proxy.listener with
  | accepting =>
    cases accepted with
    | none => rfl
    | some fd =>
      dsimp only
      split <;> rfl
  | _ => rfl

theorem stopStep_frame (proxy : TlsProxy) :
    proxy.stopStep.activeConnections = proxy.activeConnections ∧
      proxy.stopStep.connections = proxy.connections ∧
      proxy.stopStep.listener = proxy.listener := by
  unfold stopStep
  split <;> first | exact ⟨rfl, rfl, rfl⟩ | (split <;> exact ⟨rfl, rfl, rfl⟩)

inductive Counts (proxy next : TlsProxy) : Action → Prop
  | launch (accepted : Option Nat) (fd : Nat)
      (launching : proxy.listener = .launching fd)
      (connections : next.connections =
        proxy.connections ++ [{ clientFd := fd, phase := .launched }])
      (active : next.activeConnections = proxy.activeConnections) :
      Counts proxy next (.listen accepted)
  | thread (index : Nat) (result : Option Nat) (connection : Connection)
      (found : proxy.connections[index]? = some connection)
      (connections : next.connections = proxy.connections.set index (connection.next result).1)
      (active : next.activeConnections =
        proxy.activeConnections + (connection.next result).2.change) :
      Counts proxy next (.handle index result)
  | same (action : Action) (connections : next.connections = proxy.connections)
      (active : next.activeConnections = proxy.activeConnections)
      (idle : ∀ accepted, action = .listen accepted → ∀ fd, proxy.listener ≠ .launching fd) :
      Counts proxy next action

theorem step_counts (proxy : TlsProxy) (action : Action) :
    Counts proxy (proxy.step action) action := by
  cases action with
  | listen accepted =>
    obtain ⟨active, -, -⟩ := proxy.listenLoop_frame accepted
    have connections := proxy.listenLoop_connections accepted
    by_cases launching : ∃ fd, proxy.listener = .launching fd
    · obtain ⟨fd, phase⟩ := launching
      rw [phase] at connections
      exact .launch accepted fd phase connections active
    · refine .same _ ?_ active (fun _ _ fd phase => launching ⟨fd, phase⟩)
      rw [show (proxy.step (.listen accepted)).connections = _ from connections]
      split
      next fd phase => exact absurd ⟨fd, phase⟩ launching
      next => rfl
  | handle index result =>
    obtain still | ⟨connection, found, possible, moves⟩ := proxy.handle_cases index result
    · exact .same _ (congrArg connections still) (congrArg activeConnections still) (by simp)
    · refine .thread index result connection found ?_ ?_
      · rw [show proxy.step (.handle index result) = _ from moves]
        simp [moveTo]
      · rw [show proxy.step (.handle index result) = _ from moves]
        exact proxy.perform_activeConnections index _
  | stop =>
    obtain ⟨active, connections, -⟩ := proxy.stopStep_frame
    exact .same _ connections active (by simp)
  | openElsewhere fd | closeElsewhere fd =>
    refine .same _ ?_ ?_ (by simp) <;>
      · simp only [step]
        split <;> rfl

theorem Tallied.step {proxy : TlsProxy} (tallied : proxy.Tallied) (action : Action) :
    (proxy.step action).Tallied := by
  unfold Tallied at *
  cases proxy.step_counts action with
  | launch accepted fd launching connections active =>
    rw [active, connections, tallied]
    simp [Connection.tallied, Connection.pending]
  | thread index result connection found connections active =>
    have counts := countP_set_add Connection.tallied found (connection.next result).1
    have changes := connection.next_tallied result
    rw [active, connections, tallied]
    omega
  | same _ connections active idle => rw [active, connections, tallied]

def Capped (proxy : TlsProxy) : Prop :=
  (proxy.underway : Int) ≤ kMaxConcurrentConnections

instance (proxy : TlsProxy) : Decidable proxy.Capped :=
  inferInstanceAs (Decidable ((proxy.underway : Int) ≤ kMaxConcurrentConnections))

/-- The throttle test lets the listener pass only when every thread launched so far runs. -/
def TestSettled (proxy : TlsProxy) : Action → Prop
  | .listen _ => proxy.listener.testing = true → proxy.shutdown = false →
      proxy.activeConnections < kMaxConcurrentConnections → proxy.pending = 0
  | _ => True

instance (proxy : TlsProxy) : DecidablePred proxy.TestSettled
  | .listen _ => inferInstanceAs (Decidable (_ → _))
  | .handle _ _ | .stop | .openElsewhere _ | .closeElsewhere _ => isTrue trivial

/-- Past the throttle test, with a thread still to launch. -/
def Admitting (proxy : TlsProxy) : Prop :=
  ∃ fd, proxy.listener = .launching fd ∨
    proxy.listener = .checkShutdown fd ∧ proxy.shutdown = false

structure Throttled (proxy : TlsProxy) : Prop where
  tallied : proxy.Tallied
  capped : proxy.Capped
  room : proxy.Admitting → (proxy.underway : Int) < kMaxConcurrentConnections

theorem underway_launched {proxy next : TlsProxy} {fd : Nat}
    (connections : next.connections =
      proxy.connections ++ [{ clientFd := fd, phase := .launched }]) :
    next.underway = proxy.underway + 1 := by
  unfold underway
  rw [connections]
  simp [Connection.underway]

theorem underway_thread {proxy next : TlsProxy} {index : Nat} {connection : Connection}
    {result : Option Nat} (found : proxy.connections[index]? = some connection)
    (connections : next.connections = proxy.connections.set index (connection.next result).1) :
    next.underway ≤ proxy.underway := by
  have counts := countP_set_add Connection.underway found (connection.next result).1
  have falls : (connection.next result).1.underway.toNat ≤ connection.underway.toNat := by
    cases later : (connection.next result).1.underway with
    | false => simp
    | true => simp [connection.next_underway result later]
  unfold underway
  rw [connections]
  omega

theorem underway_step_le (proxy : TlsProxy) (action : Action)
    (launches : ∀ accepted, action = .listen accepted → ∀ fd, proxy.listener ≠ .launching fd) :
    (proxy.step action).underway ≤ proxy.underway := by
  cases proxy.step_counts action with
  | launch accepted fd launching => exact absurd launching (launches accepted rfl fd)
  | thread index result connection found connections => exact underway_thread found connections
  | same _ connections =>
    unfold underway
    rw [connections]

theorem admitting_listen {proxy : TlsProxy} {accepted : Option Nat}
    (admitting : (proxy.listenLoop accepted).Admitting) :
    (∃ fd, proxy.listener = .checkShutdown fd ∧ proxy.shutdown = false) ∨
      proxy.listener.testing = true ∧ proxy.shutdown = false ∧
        proxy.activeConnections < kMaxConcurrentConnections := by
  obtain ⟨fd, onward⟩ := admitting
  obtain ⟨-, shutdown, -⟩ := proxy.listenLoop_frame accepted
  rw [shutdown] at onward
  unfold listenLoop at onward
  cases phase : proxy.listener with
  | testCount waiting =>
    by_cases room : proxy.activeConnections < kMaxConcurrentConnections
    · simp only [phase, if_pos room, reduceCtorEq, false_or] at onward
      exact .inr ⟨rfl, onward.2, room⟩
    · simp [phase, room] at onward
  | checkShutdown waiting =>
    left
    cases running : proxy.shutdown with
    | false => exact ⟨waiting, rfl, rfl⟩
    | true => simp [phase, running] at onward
  | accepting =>
    cases accepted with
    | none => simp [phase] at onward
    | some other =>
      simp only [phase] at onward
      split at onward <;> simp [phase] at onward
  | testShutdown waiting =>
    cases running : proxy.shutdown <;> simp [phase, running] at onward
  | loopTop | acceptFailed => cases running : proxy.shutdown <;> simp [phase, running] at onward
  | parking | blocked | closing | launching | recording | exited => simp [phase] at onward

theorem notified_admitting {phase : ListenerPhase} {fd : Nat}
    (onward : phase.notified = .launching fd ∨ phase.notified = .checkShutdown fd) :
    phase.notified = phase := by
  cases phase <;> simp_all [ListenerPhase.notified]

theorem admitting_other {proxy : TlsProxy} {action : Action}
    (other : ∀ accepted, action ≠ .listen accepted)
    (admitting : (proxy.step action).Admitting) : proxy.Admitting := by
  obtain ⟨fd, onward⟩ := admitting
  cases action with
  | listen accepted => exact absurd rfl (other accepted)
  | handle index result =>
    obtain still | ⟨connection, found, possible, moves⟩ := proxy.handle_cases index result
    · rw [step, still] at onward
      exact ⟨fd, onward⟩
    · rw [step, moves] at onward
      simp only [moveTo, perform_shutdown] at onward
      by_cases notifies : (connection.next result).2 = .notifyOne
      · simp only [notifies, perform] at onward
        rw [notified_admitting (onward.imp_right And.left)] at onward
        exact ⟨fd, onward⟩
      · rw [proxy.perform_listener index notifies] at onward
        exact ⟨fd, onward⟩
  | stop =>
    obtain ⟨-, -, listener⟩ := proxy.stopStep_frame
    rw [step, listener] at onward
    refine ⟨fd, onward.imp_right fun testing => ⟨testing.1, ?_⟩⟩
    have running := testing.2
    unfold stopStep at running
    split at running <;> first | exact running | (split at running <;> exact running) | cases running
  | openElsewhere | closeElsewhere =>
    simp only [step] at onward
    split at onward <;> exact ⟨fd, onward⟩

theorem Throttled.step {proxy : TlsProxy} (throttled : proxy.Throttled) {action : Action}
    (settled : proxy.TestSettled action) : (proxy.step action).Throttled := by
  obtain ⟨tallied, capped, room⟩ := throttled
  refine ⟨tallied.step action, ?_, fun admitting => ?_⟩
  · -- Only a launch adds a thread, and the listener that launches it has passed the test.
    cases proxy.step_counts action with
    | launch accepted fd launching connections =>
      have few := room ⟨fd, .inl launching⟩
      unfold Capped
      rw [underway_launched connections]
      omega
    | thread index result connection found connections =>
      have falls := underway_thread found connections
      unfold Capped at *
      omega
    | same _ connections =>
      unfold Capped underway at *
      rwa [connections]
  · by_cases listens : ∃ accepted, action = .listen accepted
    · obtain ⟨accepted, rfl⟩ := listens
      have unlaunched (fd : Nat) : proxy.listener ≠ .launching fd := by
        intro launching
        obtain ⟨other, phase, -⟩ | ⟨testing, -⟩ := admitting_listen admitting
        · simp [launching] at phase
        · simp [launching, ListenerPhase.testing] at testing
      have falls := proxy.underway_step_le (.listen accepted) fun _ _ => unlaunched
      have few : (proxy.underway : Int) < kMaxConcurrentConnections := by
        obtain ⟨fd, testing⟩ | ⟨testing, serving, below⟩ := admitting_listen admitting
        · exact room ⟨fd, .inr testing⟩
        · have running := settled testing serving below
          have total := proxy.underway_eq
          unfold Tallied at tallied
          omega
      omega
    · have other : ∀ accepted, action ≠ .listen accepted :=
        fun accepted same => listens ⟨accepted, same⟩
      have falls := proxy.underway_step_le action fun accepted same => absurd same (other accepted)
      have few := room (admitting_other other admitting)
      omega

/-- The cap is kept along every run in which the throttle test counts every thread there is. -/
theorem connection_cap_of_settled (listenFd : Nat) (actions : List Action)
    (settled : (machine listenFd).Allowed TestSettled (machine listenFd).initial actions)
    (earlier later : List Action) (split : actions = earlier ++ later) :
    ((machine listenFd).after (machine listenFd).initial earlier).Capped := by
  rw [split, Machine.allowed_append] at settled
  have start : ((machine listenFd).initial).Throttled := by
    refine ⟨rfl, by simp [Capped, underway, started, kMaxConcurrentConnections], ?_⟩
    rintro ⟨fd, launching | ⟨testing, -⟩⟩
    · cases launching
    · cases testing
  exact ((machine listenFd).allowed_preserves TestSettled Throttled
    (fun _ _ settled throttled => throttled.step settled) _ start earlier settled.1).capped

def stoppedWhileFull : List Action :=
  (List.range 50).flatMap (fun index =>
    [.listen none, .listen (some (2 * index + 4)), .listen none, .listen none, .listen none,
      .listen none, .handle index none, .handle index none, .handle index (some 0),
      .handle index (some 0), .handle index (some (2 * index + 5)), .handle index none,
      .handle index (some 0)]) ++
    [.listen none, .listen (some 104), .listen none, .listen none, .listen none] ++ [.stop, .stop]

theorem full_house_capped :
    ((machine 3).after (machine 3).initial stoppedWhileFull).Capped :=
  connection_cap_of_settled 3 stoppedWhileFull (by decide +kernel) stoppedWhileFull []
    (List.append_nil _).symm

def burst (count : Nat) : List Action :=
  (List.range count).flatMap fun fd =>
    [.listen none, .listen (some (fd + 4)), .listen none, .listen none, .listen none, .listen none]

theorem burst_exceeds_cap :
    ¬ ((machine 3).after (machine 3).initial (burst 51)).Capped := by
  decide +kernel

def Wakes (proxy : TlsProxy) : Prop :=
  proxy.activeConnections < kMaxConcurrentConnections ∨ proxy.shutdown = true

def NotifiesAt (proxy : TlsProxy) (index : Nat) : Prop :=
  ∃ connection : Connection, proxy.connections[index]? = some connection ∧
    connection.phase = .notifying

def Notifies (proxy : TlsProxy) : Prop :=
  ∃ index, proxy.NotifiesAt index

structure Asleep (proxy : TlsProxy) : Prop where
  blocked : ∃ fd, proxy.listener = .blocked fd
  wakes : proxy.Wakes
  silent : ¬ proxy.Notifies

/-- Steps that wait for no client: the listener's, Stop's and the `notify_one` of a thread that
has nothing else left to do. -/
def Unaided (proxy : TlsProxy) : Action → Prop
  | .listen _ | .stop => True
  | .handle index _ => proxy.NotifiesAt index
  | .openElsewhere _ | .closeElsewhere _ => False

def Joins (listenFd : Nat) (proxy : TlsProxy) : Prop :=
  ∃ actions, (machine listenFd).Allowed Unaided proxy actions ∧
    ((machine listenFd).after proxy actions).stop = .interrupting

structure Wakeful (listenFd : Nat) (proxy : TlsProxy) : Prop where
  awake : ¬ proxy.Asleep
  joins : proxy.stop = .joining → proxy.Joins listenFd

/-- With nobody else about to notify: the listener blocks although its predicate has become
true, Stop finds it blocked, or about to block when it joins, or the last notification falls
between the test and the block while Stop is joining. -/
def LosesWakeup (proxy : TlsProxy) : Action → Prop
  | .listen _ => (∃ fd, proxy.listener = .parking fd) ∧ proxy.Wakes ∧ ¬ proxy.Notifies
  | .stop => ¬ proxy.Notifies ∧
      (proxy.stop = .idle ∧ (∃ fd, proxy.listener = .blocked fd) ∨
        proxy.stop = .closingListener ∧ ∃ fd, proxy.listener = .parking fd)
  | .handle index _ => proxy.stop = .joining ∧ (∃ fd, proxy.listener = .parking fd) ∧
      proxy.NotifiesAt index ∧ ∀ other, proxy.NotifiesAt other → other = index
  | .openElsewhere _ | .closeElsewhere _ => False

structure Stalled (proxy : TlsProxy) : Prop where
  joining : proxy.stop = .joining
  parking : ∃ fd, proxy.listener = .parking fd
  silent : ¬ proxy.Notifies

structure Roused (proxy : TlsProxy) : Prop where
  awake : ¬ proxy.Asleep
  unstalled : ¬ proxy.Stalled
  stopping : proxy.stop ≠ .idle → proxy.shutdown = true

theorem Connection.next_notifying (connection : Connection) (result : Option Nat) :
    ((connection.next result).2 = .notifyOne ↔ connection.phase = .notifying) ∧
      ((connection.next result).2.change < 0 → (connection.next result).1.phase = .notifying) ∧
      (connection.phase = .notifying → (connection.next result).1.phase = .finished) := by
  obtain ⟨clientFd, phase⟩ := connection
  cases phase with
  | registered | contextHeld | shaken | localRegistered =>
    cases result <;> simp [Connection.next, Connection.handleConnection, Operation.change]
  | _ => simp [Connection.next, Connection.handleConnection, Operation.change]

theorem notifiesAt_congr {proxy next : TlsProxy} (connections : next.connections = proxy.connections)
    (index : Nat) : next.NotifiesAt index ↔ proxy.NotifiesAt index := by
  unfold NotifiesAt
  rw [connections]

theorem notifiesAt_moveTo {proxy : TlsProxy} {index : Nat} {connection : Connection}
    (found : proxy.connections[index]? = some connection) (operation : Operation)
    (changed : Connection) (other : Nat) :
    ((proxy.perform index operation).moveTo index changed).NotifiesAt other ↔
      if index = other then changed.phase = .notifying else proxy.NotifiesAt other := by
  obtain ⟨inside, -⟩ := List.getElem?_eq_some_iff.mp found
  unfold NotifiesAt moveTo
  rw [perform_connections, List.getElem?_set]
  by_cases here : index = other
  · subst here
    simp [inside]
  · simp [here]

-- The one way to sleep: the second load of the predicate, then parking, then blocked.
theorem listenLoop_sleeps (proxy : TlsProxy) (accepted : Option Nat) (fd : Nat) :
    ((proxy.listenLoop accepted).listener = .blocked fd →
      proxy.listener = .parking fd ∨ proxy.listener = .blocked fd) ∧
    ((proxy.listenLoop accepted).listener = .parking fd → proxy.shutdown = false) := by
  cases phase : proxy.listener with
  | testShutdown clientFd =>
    simp only [listenLoop, phase]
    cases proxy.shutdown <;> simp
  | accepting =>
    cases accepted with
    | none => simp [listenLoop, phase]
    | some new =>
      simp only [listenLoop, phase]
      split <;> simp [phase]
  | loopTop | acceptFailed | testCount | checkShutdown =>
    simp only [listenLoop, phase]
    split <;> simp
  | parking | blocked | closing | launching | recording | exited => simp [listenLoop, phase]

theorem asleep_listen {proxy : TlsProxy} {accepted : Option Nat}
    (asleep : (proxy.listenLoop accepted).Asleep) :
    proxy.Asleep ∨ proxy.LosesWakeup (.listen accepted) := by
  obtain ⟨⟨fd, blocked⟩, wakes, silent⟩ := asleep
  obtain parking | already := (proxy.listenLoop_sleeps accepted fd).1 blocked
  · simp only [listenLoop, parking] at wakes silent
    exact .inr ⟨⟨fd, parking⟩, wakes, silent⟩
  · simp only [listenLoop, already] at wakes silent
    exact .inl ⟨⟨fd, already⟩, wakes, silent⟩

theorem asleep_stop {proxy : TlsProxy} (asleep : proxy.stopStep.Asleep) :
    proxy.Asleep ∨ proxy.LosesWakeup .stop := by
  obtain ⟨⟨fd, blocked⟩, wakes, silent⟩ := asleep
  obtain ⟨active, connections, listener⟩ := proxy.stopStep_frame
  have quiet : ¬ proxy.Notifies := by
    simpa only [Notifies, notifiesAt_congr connections] using silent
  rw [listener] at blocked
  by_cases idle : proxy.stop = .idle
  · exact .inr ⟨quiet, .inl ⟨idle, fd, blocked⟩⟩
  · refine .inl ⟨⟨fd, blocked⟩, ?_, quiet⟩
    have shutdown : proxy.stopStep.shutdown = proxy.shutdown := by
      unfold stopStep
      cases phase : proxy.stop with
      | idle => exact absurd phase idle
      | joining | draining => dsimp only; split <;> rfl
      | _ => rfl
    simpa only [Wakes, active, shutdown] using wakes

theorem asleep_handle {proxy : TlsProxy} {index : Nat} {result : Option Nat}
    (asleep : (proxy.handle index result).Asleep) : proxy.Asleep := by
  obtain still | ⟨connection, found, possible, moves⟩ := proxy.handle_cases index result
  · rw [still] at asleep
    exact asleep
  obtain ⟨⟨fd, blocked⟩, wakes, silent⟩ := asleep
  obtain ⟨notifies, decrements, ends⟩ := Connection.next_notifying connection result
  rw [moves] at blocked wakes silent
  have moved := notifiesAt_moveTo found (connection.next result).2 (connection.next result).1
  by_cases notifying : connection.phase = .notifying
  · -- The notification itself wakes the listener.
    simp only [moveTo, notifies.mpr notifying, perform] at blocked
    cases phase : proxy.listener <;> simp [phase, ListenerPhase.notified] at blocked
  · have quiet : ¬ proxy.Notifies := by
      rintro ⟨other, about⟩
      refine silent ⟨other, (moved other).mpr ?_⟩
      split
      next here =>
        subst here
        obtain ⟨same, again, phase⟩ := about
        rw [found] at again
        cases again
        exact absurd phase notifying
      next => exact about
    have listener := proxy.perform_listener index (fun op => notifying (notifies.mp op))
    refine ⟨⟨fd, ?_⟩, ?_, quiet⟩
    · rw [← listener]
      exact blocked
    · obtain room | shutdown := wakes
      · left
        have rises : ¬ (connection.next result).2.change < 0 := by
          intro falls
          exact silent ⟨index, (moved index).mpr (by simpa using decrements falls)⟩
        have counts := proxy.perform_activeConnections index (connection.next result).2
        simp only [moveTo] at room
        omega
      · right
        simpa [moveTo] using shutdown

-- While Stop joins, the second load of the predicate reads true.
theorem not_stalled_listen {proxy : TlsProxy}
    (stopping : proxy.stop ≠ .idle → proxy.shutdown = true) (accepted : Option Nat) :
    ¬ (proxy.listenLoop accepted).Stalled := by
  rintro ⟨joining, ⟨fd, parking⟩, -⟩
  have running := (proxy.listenLoop_sleeps accepted fd).2 parking
  obtain ⟨-, -, stop⟩ := proxy.listenLoop_frame accepted
  rw [stop] at joining
  rw [stopping (by simp [joining])] at running
  cases running

theorem stalled_stop {proxy : TlsProxy} (stalled : proxy.stopStep.Stalled) :
    proxy.Stalled ∨ proxy.LosesWakeup .stop := by
  obtain ⟨joining, ⟨fd, parking⟩, silent⟩ := stalled
  obtain ⟨active, connections, listener⟩ := proxy.stopStep_frame
  have quiet : ¬ proxy.Notifies := by
    simpa only [Notifies, notifiesAt_congr connections] using silent
  rw [listener] at parking
  cases phase : proxy.stop with
  | closingListener => exact .inr ⟨quiet, .inr ⟨phase, fd, parking⟩⟩
  | joining => exact .inl ⟨phase, ⟨fd, parking⟩, quiet⟩
  | draining =>
    simp only [stopStep, phase] at joining
    split at joining <;> simp [phase] at joining
  | idle | interrupting | stopped => simp [stopStep, phase] at joining

theorem stalled_handle {proxy : TlsProxy} {index : Nat} {result : Option Nat}
    (stalled : (proxy.handle index result).Stalled) :
    proxy.Stalled ∨ proxy.LosesWakeup (.handle index result) := by
  obtain still | ⟨connection, found, possible, moves⟩ := proxy.handle_cases index result
  · rw [still] at stalled
    exact .inl stalled
  obtain ⟨joining, ⟨fd, parking⟩, silent⟩ := stalled
  rw [moves] at joining parking silent
  have moved := notifiesAt_moveTo found (connection.next result).2 (connection.next result).1
  have before : proxy.stop = .joining := by simpa [moveTo] using joining
  have parked : proxy.listener = .parking fd := by
    by_cases notifies : (connection.next result).2 = .notifyOne
    · simp only [moveTo, notifies, perform] at parking
      cases phase : proxy.listener <;> simp_all [ListenerPhase.notified]
    · rw [← proxy.perform_listener index notifies]
      exact parking
  by_cases about : proxy.Notifies
  · obtain ⟨notifier, notifies⟩ := about
    have only_ (other : Nat) (at_ : proxy.NotifiesAt other) : other = index := by
      by_contra different
      refine silent ⟨other, (moved other).mpr ?_⟩
      rw [if_neg (Ne.symm different)]
      exact at_
    exact .inr ⟨before, ⟨fd, parked⟩, only_ notifier notifies ▸ notifies, only_⟩
  · exact .inl ⟨before, ⟨fd, parked⟩, about⟩

theorem Roused.step {proxy : TlsProxy} (roused : proxy.Roused) {action : Action}
    (keeps : ¬ proxy.LosesWakeup action) : (proxy.step action).Roused := by
  obtain ⟨awake, unstalled, stopping⟩ := roused
  cases action with
  | listen accepted =>
    refine ⟨?_, ?_, ?_⟩
    · intro asleep
      exact (asleep_listen asleep).elim awake keeps
    · exact not_stalled_listen stopping accepted
    · obtain ⟨-, shutdown, stop⟩ := proxy.listenLoop_frame accepted
      simpa only [TlsProxy.step, shutdown, stop] using stopping
  | handle index result =>
    refine ⟨?_, ?_, ?_⟩
    · intro asleep
      exact awake (asleep_handle asleep)
    · intro stalled
      exact (stalled_handle stalled).elim unstalled keeps
    · obtain still | ⟨connection, found, possible, moves⟩ := proxy.handle_cases index result
      · simpa only [TlsProxy.step, still] using stopping
      · simpa [TlsProxy.step, moves, moveTo] using stopping
  | stop =>
    refine ⟨?_, ?_, ?_⟩
    · intro asleep
      exact (asleep_stop asleep).elim awake keeps
    · intro stalled
      exact (stalled_stop stalled).elim unstalled keeps
    · intro moved
      cases phase : proxy.stop with
      | idle => simp [TlsProxy.step, stopStep, phase]
      | joining | draining =>
        have already := stopping (by simp [phase])
        simp only [TlsProxy.step, stopStep, phase]
        split <;> exact already
      | closingListener | interrupting | stopped =>
        simpa [TlsProxy.step, stopStep, phase] using stopping (by simp [phase])
  | openElsewhere fd | closeElsewhere fd =>
    simp only [TlsProxy.step]
    split
    · exact ⟨fun asleep => awake ⟨asleep.blocked, asleep.wakes, asleep.silent⟩,
        fun stalled => unstalled ⟨stalled.joining, stalled.parking, stalled.silent⟩, stopping⟩
    · exact ⟨awake, unstalled, stopping⟩

theorem LosesWakeup.step {proxy : TlsProxy} {action : Action} (loses : proxy.LosesWakeup action) :
    (proxy.step action).Asleep ∨ (proxy.step action).Stalled := by
  cases action with
  | listen accepted =>
    obtain ⟨⟨fd, parking⟩, wakes, silent⟩ := loses
    left
    simp only [TlsProxy.step, listenLoop, parking]
    exact ⟨⟨fd, rfl⟩, wakes, silent⟩
  | handle index result =>
    obtain ⟨joining, ⟨fd, parking⟩, ⟨connection, found, notifying⟩, only_⟩ := loses
    obtain ⟨notifies, -, ends⟩ := Connection.next_notifying connection result
    have moves : proxy.step (.handle index result) =
        (proxy.perform index .notifyOne).moveTo index (connection.next result).1 := by
      simp [TlsProxy.step, TlsProxy.handle, found, notifies.mpr notifying, possible]
    right
    rw [moves]
    refine ⟨joining, ⟨fd, ?_⟩, ?_⟩
    · simp [moveTo, perform, parking, ListenerPhase.notified]
    · rintro ⟨other, about⟩
      rw [notifiesAt_moveTo found] at about
      split at about
      next here =>
        rw [ends notifying] at about
        cases about
      next elsewhere => exact elsewhere (only_ other about).symm
  | stop =>
    obtain ⟨silent, ⟨idle, fd, blocked⟩ | ⟨closing, fd, parking⟩⟩ := loses
    · left
      simp only [TlsProxy.step, stopStep, idle]
      exact ⟨⟨fd, blocked⟩, .inr rfl, silent⟩
    · right
      simp only [TlsProxy.step, stopStep, closing]
      exact ⟨rfl, ⟨fd, parking⟩, silent⟩
  | openElsewhere | closeElsewhere => exact loses.elim

section

variable {listenFd : Nat} {proxy : TlsProxy}

theorem Joins.of_step (action : Action) (unaided : proxy.Unaided action)
    (joins : (proxy.step action).Joins listenFd) : proxy.Joins listenFd := by
  obtain ⟨actions, allowed, passed⟩ := joins
  exact ⟨action :: actions, ⟨unaided, allowed⟩, passed⟩

theorem Joins.of_listen (next : TlsProxy) (step : proxy.listenLoop none = next)
    (joins : next.Joins listenFd) : proxy.Joins listenFd := by
  subst step
  exact .of_step (.listen none) trivial joins

theorem joins_exited (joining : proxy.stop = .joining) (phase : proxy.listener = .exited) :
    proxy.Joins listenFd :=
  ⟨[.stop], ⟨trivial, trivial⟩, by simp [step, stopStep, joining, phase]⟩

theorem joins_checkShutdown {fd : Nat} (shutdown : proxy.shutdown = true)
    (joining : proxy.stop = .joining) (phase : proxy.listener = .checkShutdown fd) :
    proxy.Joins listenFd := by
  refine .of_listen { proxy with listener := .closing fd }
    (by simp [listenLoop, phase, shutdown]) ?_
  refine .of_listen _ rfl ?_
  exact joins_exited joining rfl

theorem joins_testCount {fd : Nat} (shutdown : proxy.shutdown = true)
    (joining : proxy.stop = .joining) (phase : proxy.listener = .testCount fd) :
    proxy.Joins listenFd := by
  by_cases room : proxy.activeConnections < kMaxConcurrentConnections
  · refine .of_listen { proxy with listener := .checkShutdown fd }
      (by simp [listenLoop, phase, room]) ?_
    exact joins_checkShutdown shutdown joining rfl
  · refine .of_listen { proxy with listener := .testShutdown fd }
      (by simp [listenLoop, phase, room]) ?_
    refine .of_listen { proxy with listener := .checkShutdown fd }
      (by simp [listenLoop, shutdown]) ?_
    exact joins_checkShutdown shutdown joining rfl

theorem joins_blocked {fd : Nat} (shutdown : proxy.shutdown = true)
    (joining : proxy.stop = .joining) (phase : proxy.listener = .blocked fd)
    (notifies : proxy.Notifies) : proxy.Joins listenFd := by
  obtain ⟨index, connection, found, notifying⟩ := notifies
  have operation := (Connection.next_notifying connection none).1.mpr notifying
  refine .of_step (.handle index none) ⟨connection, found, notifying⟩ ?_
  simp only [step, handle, found, operation, possible, if_true]
  have woken : ((proxy.perform index .notifyOne).moveTo index
      (connection.next none).1).listener = .testCount fd := by
    simp [moveTo, perform, phase, ListenerPhase.notified]
  exact joins_testCount (by simpa [moveTo] using shutdown) (by simpa [moveTo] using joining) woken

theorem joins_loopTop (shutdown : proxy.shutdown = true) (joining : proxy.stop = .joining)
    (phase : proxy.listener = .loopTop) : proxy.Joins listenFd := by
  refine .of_listen { proxy with listener := .exited }
    (by simp [listenLoop, phase, shutdown]) ?_
  exact joins_exited joining rfl

theorem Roused.joins (roused : proxy.Roused) (joining : proxy.stop = .joining) :
    proxy.Joins listenFd := by
  have shutdown := roused.stopping (by simp [joining])
  cases phase : proxy.listener with
  | exited => exact joins_exited joining phase
  | loopTop => exact joins_loopTop shutdown joining phase
  | accepting =>
    refine .of_listen { proxy with listener := .acceptFailed } (by simp [listenLoop, phase]) ?_
    refine .of_listen { proxy with listener := .exited } (by simp [listenLoop, shutdown]) ?_
    exact joins_exited joining rfl
  | acceptFailed =>
    refine .of_listen { proxy with listener := .exited } (by simp [listenLoop, phase, shutdown]) ?_
    exact joins_exited joining rfl
  | testCount fd => exact joins_testCount shutdown joining phase
  | testShutdown fd =>
    refine .of_listen { proxy with listener := .checkShutdown fd }
      (by simp [listenLoop, phase, shutdown]) ?_
    exact joins_checkShutdown shutdown joining rfl
  | checkShutdown fd => exact joins_checkShutdown shutdown joining phase
  | parking fd =>
    have notifies : proxy.Notifies := by
      by_contra silent
      exact roused.unstalled ⟨joining, ⟨fd, phase⟩, silent⟩
    refine .of_listen { proxy with listener := .blocked fd } (by simp [listenLoop, phase]) ?_
    exact joins_blocked shutdown joining rfl notifies
  | blocked fd =>
    have notifies : proxy.Notifies := by
      by_contra silent
      exact roused.awake ⟨⟨fd, phase⟩, .inr shutdown, silent⟩
    exact joins_blocked shutdown joining phase notifies
  | closing fd =>
    refine .of_listen _ rfl ?_
    simp only [listenLoop, phase]
    exact joins_exited joining rfl
  | launching fd =>
    refine .of_listen _ rfl ?_
    simp only [listenLoop, phase]
    refine .of_listen _ rfl ?_
    exact joins_loopTop shutdown joining rfl
  | recording index =>
    refine .of_listen _ rfl ?_
    simp only [listenLoop, phase]
    exact joins_loopTop shutdown joining rfl

def Waits (proxy : TlsProxy) : Prop :=
  proxy.stop = .joining ∧
    (∃ fd, proxy.listener = .parking fd ∨ proxy.listener = .blocked fd) ∧ ¬ proxy.Notifies

theorem waits_step {action : Action} (unaided : proxy.Unaided action) (waits : proxy.Waits) :
    (proxy.step action).Waits := by
  obtain ⟨joining, ⟨fd, asleep⟩, silent⟩ := waits
  cases action with
  | listen accepted =>
    obtain parking | blocked := asleep
    · simp only [step, listenLoop, parking]
      exact ⟨joining, ⟨fd, .inr rfl⟩, silent⟩
    · simp only [step, listenLoop, blocked]
      exact ⟨joining, ⟨fd, .inr blocked⟩, silent⟩
  | handle index result => exact absurd ⟨index, unaided⟩ silent
  | stop =>
    have running : proxy.listener ≠ .exited := by
      obtain parking | blocked := asleep <;> simp [*]
    simp only [step, stopStep, joining, running, if_false]
    exact ⟨joining, ⟨fd, asleep⟩, silent⟩
  | openElsewhere | closeElsewhere => exact unaided.elim

theorem Stalled.not_joins (stalled : proxy.Stalled) : ¬ proxy.Joins listenFd := by
  rintro ⟨actions, unaided, passed⟩
  obtain ⟨fd, parking⟩ := stalled.parking
  have start : proxy.Waits := ⟨stalled.joining, ⟨fd, .inl parking⟩, stalled.silent⟩
  obtain ⟨joining, -⟩ := (machine listenFd).allowed_preserves Unaided Waits
    (fun _ _ => waits_step) proxy start actions unaided
  rw [joining] at passed
  cases passed

end

theorem throttled_listener_wakeful_iff (listenFd : Nat) (actions : List Action) :
    (∀ earlier later, actions = earlier ++ later →
        ((machine listenFd).after (machine listenFd).initial earlier).Wakeful listenFd) ↔
      (machine listenFd).Allowed (fun proxy action => ¬ proxy.LosesWakeup action)
        (machine listenFd).initial actions := by
  apply Machine.allowed_iff_always (machine listenFd) Roused (Wakeful listenFd)
  · intro proxy action keeps roused
    exact roused.step keeps
  · intro proxy roused
    exact ⟨roused.awake, roused.joins⟩
  · intro proxy action roused loses wakeful
    obtain asleep | stalled := (not_not.mp loses).step
    · exact wakeful.awake asleep
    · exact stalled.not_joins (wakeful.joins stalled.joining)
  · refine ⟨?_, ?_, by simp [started]⟩
    · rintro ⟨⟨fd, blocked⟩, -, -⟩
      simp [started] at blocked
    · rintro ⟨joining, -, -⟩
      simp [started] at joining

theorem stopped_while_full_asleep :
    let proxy := (machine 3).after (machine 3).initial stoppedWhileFull
    proxy.stop = .joining ∧ proxy.Asleep ∧ ¬ proxy.Wakeful 3 := by
  generalize reached : (machine 3).after (machine 3).initial stoppedWhileFull = proxy
  have facts : ((machine 3).after (machine 3).initial stoppedWhileFull).stop = .joining ∧
      ((machine 3).after (machine 3).initial stoppedWhileFull).listener = .blocked 104 ∧
      ((machine 3).after (machine 3).initial stoppedWhileFull).shutdown = true ∧
      ∀ connection ∈ ((machine 3).after (machine 3).initial stoppedWhileFull).connections,
        connection.phase ≠ .notifying := by decide +kernel
  rw [reached] at facts
  obtain ⟨joining, blocked, shutdown, piping⟩ := facts
  have silent : ¬ proxy.Notifies := by
    rintro ⟨index, connection, found, notifying⟩
    exact piping connection (List.mem_of_getElem? found) notifying
  have asleep : proxy.Asleep := ⟨⟨104, blocked⟩, .inr shutdown, silent⟩
  exact ⟨joining, asleep, fun wakeful => wakeful.awake asleep⟩

end TlsProxy

end Ztab
