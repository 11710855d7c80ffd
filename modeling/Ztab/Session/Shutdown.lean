import Mathlib.Algebra.Group.Action.Defs
import Mathlib.Algebra.Order.BigOperators.Group.List
import Mathlib.Algebra.Order.Ring.Nat
import Ztab.Session.Dispatch

set_option autoImplicit false

/-!
# Shutdown

The end of `RunServer` and the destructor of the manager, which sleeps in `async_cv_.wait` until the
last worker has left: it is not left asleep, and no worker comes after it.
-/

namespace Ztab

inductive MainPoint where
  | serving
  -- In `server->Shutdown()`, which waits for the handlers that still run, and in `proxy.Stop()`,
  -- which touches neither the manager nor its threads.
  | draining
  -- Before `~SessionManager` takes the lock.
  | destroying
  | waiting (notified : Bool)
  | destroyed
  deriving DecidableEq

structure Server where
  system : System := {}
  main : MainPoint := .serving

inductive ServerAction where
  | act (action : Action)
  -- A signal has ended the poll loop.
  | shutdown
  -- Both calls have returned.
  | drained
  -- The destructor takes the lock and looks at the counter.
  | lock
  -- The wait returns, and the loop looks at the counter again.
  | wake (spurious : Bool)

def MainPoint.notify : MainPoint → MainPoint
  | .waiting _ => .waiting true
  | point => point

-- The two bodies that give up a thread notify under the same lock.
def System.notifies (system : System) : Action → Bool
  | .leave index =>
    match system.threads[index]? with
    | some ⟨_, .leaving⟩ => system.alive
    | _ => false
  | .spawnFails index _ =>
    match system.threads[index]? with
    | some ⟨_, .spawning⟩ => system.alive
    | _ => false
  | _ => false

namespace Server

-- The loop of the destructor, with the lock held.
def lookAtCounter (server : Server) : Server :=
  { server with
    main := if server.system.manager.activeAsyncThreads > 0 then .waiting false else .destroyed }

-- A handler runs from its call to its reply, so one that spawns a thread is still running.
def handlersDone (server : Server) : Bool := server.system.threads.all (·.phase.spawned)

def mainStep (server : Server) : ServerAction → Server
  | .shutdown =>
    match server.main with
    | .serving => { server with main := .draining }
    | _ => server
  | .drained =>
    match server.main with
    | .draining => if server.handlersDone then { server with main := .destroying } else server
    | _ => server
  | .lock =>
    match server.main with
    | .destroying => server.lookAtCounter
    | _ => server
  | .wake spurious =>
    match server.main with
    | .waiting notified => if notified || spurious then server.lookAtCounter else server
    | _ => server
  | .act _ => server

-- No call is taken after Shutdown; the workers go on. A handler that is running when the signal
-- comes is ordered before it: its locked step counts as taken while the server was serving.
def refuses (server : Server) (action : Action) : Bool :=
  action.thread.isNone && match server.main with
    | .serving => false
    | _ => true

def step (env : Environment) (server : Server) : ServerAction → Server × Option Reply
  | .act action =>
    if server.refuses action then (server, none)
    else
      let (system, reply) := server.system.step env action
      ({ system, main := if server.system.notifies action then server.main.notify else server.main },
        some reply)
  | action => (if server.system.alive then server.mainStep action else server, none)

end Server

def serverMachine (env : Environment) : Machine Server ServerAction (Option Reply) where
  initial := {}
  step := Server.step env

/-- The steps that a thread has before it, with room for the notification at the last one. -/
def Phase.rank : Phase → Nat
  | .spawning => 6
  | .started => 5
  | .prompted _ _ => 4
  | .inferred _ => 3
  | .leaving => 2
  | .finished => 0

namespace System

inductive ThreadTurn (system : System) (index : Nat) (notifies : Bool) (after : System) : Prop
  | idle (same : after = system) (silent : notifies = false)
  | crashed (dead : after.alive = false) (threads : after.threads = system.threads)
      (silent : notifies = false)
  | moved (thread : Thread) (phase : Phase) (here : system.threads[index]? = some thread)
      (alive : after.alive = true)
      (threads : after.threads = system.threads.set index { thread with phase })
      (busy : thread.phase.outstanding = true) (past : phase.spawned = true)
      (counted : phase.outstanding = !notifies)
      (lower : phase.rank + notifies.toNat < thread.phase.rank)

variable {system : System}

theorem step_turn (env : Environment) {action : Action} {index : Nat} (running : system.alive = true)
    (own : action.thread = some index) :
    ThreadTurn system index (system.notifies action) (system.step env action).1 := by
  unfold step
  rw [if_pos running]
  cases here : system.threads[index]? with
  | none =>
    refine .idle ?_ ?_
    · cases action <;> cases own <;> simp [perform, onThread, here]
    · cases action <;> cases own <;> simp [notifies, here]
  | some thread =>
    obtain ⟨id, phase⟩ := thread
    cases action with
    | spawnSucceeds position =>
      cases own
      simp only [perform, onThread, here, threadStep, notifies]
      cases phase with
      | spawning => exact .moved _ .started here running rfl rfl rfl rfl (by simp [Phase.rank])
      | _ => exact .idle rfl rfl
    | spawnFails position what =>
      cases own
      cases phase with
      | spawning =>
        have loud : system.notifies (.spawnFails index what) = true := by simp [notifies, here, running]
        simp only [loud, perform, onThread, here, threadStep]
        exact .moved _ .finished here running rfl rfl rfl rfl (by simp [Phase.rank])
      | _ => exact .idle (by simp [perform, onThread, here, threadStep]) (by simp [notifies, here])
    | preparePrompt position =>
      cases own
      simp only [perform, onThread, here, threadStep, notifies]
      cases phase with
      | started =>
        simp only [preparePrompt]
        split
        · exact .moved _ .leaving here running rfl rfl rfl rfl (by simp [Phase.rank])
        · exact .moved _ (.prompted _ _) here running rfl rfl rfl rfl (by simp [Phase.rank])
      | _ => exact .idle rfl rfl
    | infer position results =>
      cases own
      simp only [perform, onThread, here, threadStep, notifies]
      cases phase with
      | prompted prompt outputSchema =>
        simp only [infer]
        split
        · exact .moved _ (.inferred _) here running rfl rfl rfl rfl (by simp [Phase.rank])
        · exact .crashed rfl rfl rfl
      | _ => exact .idle rfl rfl
    | writeResult position now =>
      cases own
      simp only [perform, onThread, here, threadStep, notifies]
      cases phase with
      | inferred outcome => exact .moved _ .leaving here running rfl rfl rfl rfl (by simp [Phase.rank])
      | _ => exact .idle rfl rfl
    | leave position =>
      cases own
      cases phase with
      | leaving =>
        have loud : system.notifies (.leave index) = true := by simp [notifies, here, running]
        simp only [loud, perform, onThread, here, threadStep]
        exact .moved _ .finished here running rfl rfl rfl rfl (by simp [Phase.rank])
      | _ => exact .idle (by simp [perform, onThread, here, threadStep]) (by simp [notifies, here])
    | _ => cases own

def left (system : System) : Nat := (system.threads.map (·.phase.rank)).sum + system.alive.toNat

namespace ThreadTurn

variable {after : System} {index : Nat} {notifies : Bool}

theorem outstanding_eq (turn : ThreadTurn system index notifies after) :
    after.outstanding + notifies.toNat = system.outstanding := by
  cases turn with
  | idle same silent => simp [same, silent]
  | crashed dead threads silent => simp [outstanding, threads, silent]
  | moved thread phase here alive threads busy past counted lower =>
    obtain ⟨within, found⟩ := List.getElem?_eq_some_iff.mp here
    have positive : 0 < system.threads.countP (·.phase.outstanding) :=
      List.countP_pos_iff.mpr ⟨thread, List.mem_of_getElem? here, busy⟩
    simp only [outstanding, threads, List.countP_set within, found, busy, counted, if_true]
    cases notifies <;> simp <;> omega

theorem left_lt (turn : ThreadTurn system index notifies after) (running : system.alive = true) :
    after = system ∧ notifies = false ∨ after.left + notifies.toNat < system.left := by
  cases turn with
  | idle same silent => exact .inl ⟨same, silent⟩
  | crashed dead threads silent => exact .inr (by simp [left, threads, dead, running, silent])
  | moved thread phase here alive threads busy past counted lower =>
    obtain ⟨within, found⟩ := List.getElem?_eq_some_iff.mp here
    have before := List.sum_set (system.threads.map (·.phase.rank)) index thread.phase.rank
    have later := List.sum_set (system.threads.map (·.phase.rank)) index phase.rank
    have same : (system.threads.map (·.phase.rank)).set index thread.phase.rank =
        system.threads.map (·.phase.rank) := by
      rw [← List.map_set, ← found, List.set_getElem_self]
    rw [same] at before
    simp only [List.length_map, within, if_true] at before later
    simp only [left, threads, List.map_set, alive, running]
    exact .inr (by omega)

theorem spawned (turn : ThreadTurn system index notifies after)
    (all : ∀ thread ∈ system.threads, thread.phase.spawned = true) :
    ∀ thread ∈ after.threads, thread.phase.spawned = true := by
  cases turn with
  | idle same silent => rwa [same]
  | crashed dead threads silent => rwa [threads]
  | moved thread phase here alive threads busy past counted lower =>
    intro other listed
    rw [threads] at listed
    rcases List.mem_or_eq_of_mem_set listed with kept | rfl
    · exact all other kept
    · exact past

end ThreadTurn

theorem can_move (env : Environment) (running : system.alive = true) {thread : Thread}
    (listed : thread ∈ system.threads) (busy : thread.phase.outstanding = true) :
    ∃ action : Action, action.thread ≠ none ∧ (system.step env action).1 ≠ system := by
  obtain ⟨index, here⟩ := List.mem_iff_getElem?.mp listed
  obtain ⟨within, -⟩ := List.getElem?_eq_some_iff.mp here
  have differs {after : System} {phase : Phase} (threads : after.threads =
      system.threads.set index { thread with phase }) (lower : phase.rank ≠ thread.phase.rank) :
      after ≠ system := by
    rintro rfl
    rw [threads, List.getElem?_set_self within, Option.some.injEq] at here
    exact lower (congrArg (fun other => other.phase.rank) here)
  obtain ⟨id, phase⟩ := thread
  cases phase with
  | spawning =>
    refine ⟨.spawnSucceeds index, by simp [Action.thread], ?_⟩
    simp only [step, running, if_true, perform, onThread, here, threadStep]
    exact differs rfl (by simp [Phase.rank])
  | started =>
    refine ⟨.preparePrompt index, by simp [Action.thread], ?_⟩
    simp only [step, running, if_true, perform, onThread, here, threadStep, preparePrompt]
    split
    · exact differs rfl (by simp [Phase.rank])
    · exact differs rfl (by simp [Phase.rank])
  | prompted prompt outputSchema =>
    refine ⟨.infer index fun _ => .error ⟨.internal, ""⟩, by simp [Action.thread], ?_⟩
    simp only [step, running, if_true, perform, onThread, here, threadStep, infer]
    split
    · exact differs rfl (by simp [Phase.rank])
    · intro same
      have dead : system.alive = false := congrArg alive same.symm
      simp [running] at dead
  | inferred outcome =>
    refine ⟨.writeResult index 0, by simp [Action.thread], ?_⟩
    simp only [step, running, if_true, perform, onThread, here, threadStep]
    exact differs rfl (by simp [Phase.rank])
  | leaving =>
    refine ⟨.leave index, by simp [Action.thread], ?_⟩
    simp only [step, running, if_true, perform, onThread, here, threadStep]
    exact differs rfl (by simp [Phase.rank])
  | finished => cases busy

end System

def MainPoint.ending : MainPoint → Bool
  | .serving | .draining => false
  | _ => true

def MainPoint.rank : MainPoint → Nat
  | .serving => 6
  | .draining => 5
  | .destroying => 4
  | .waiting true => 2
  | .waiting false => 1
  | .destroyed => 0

namespace Server

variable {env : Environment} {server : Server}

structure Sound (env : Environment) (server : Server) : Prop where
  reachable : (machine env).Reachable server.system
  spawned : server.main.ending = true → ∀ thread ∈ server.system.threads, thread.phase.spawned = true
  -- Whoever will notify has not done so yet.
  asleep : server.main = .waiting false → 0 < server.system.outstanding
  gone : server.main = .destroyed → server.system.outstanding = 0

/-- A step that does something, other than a wake-up that nobody caused. -/
def Effective (env : Environment) (server : Server) (action : ServerAction) : Prop :=
  action ≠ .wake true ∧ (server.step env action).1 ≠ server

def left (server : Server) : Nat := server.system.left + server.main.rank

theorem Sound.lookAtCounter (sound : server.Sound env) (ending : server.main.ending = true) :
    server.lookAtCounter.Sound env := by
  have counted := balanced_of_reachable sound.reachable
  refine ⟨sound.reachable, fun _ => sound.spawned ending, fun asleep => ?_, fun gone => ?_⟩
  · simp only [Server.lookAtCounter] at asleep ⊢
    split_ifs at asleep
    omega
  · simp only [Server.lookAtCounter] at gone ⊢
    split_ifs at gone
    omega

theorem Sound.mainStep (sound : server.Sound env) (action : ServerAction) :
    (server.mainStep action).Sound env := by
  cases action with
  | act action => exact sound
  | shutdown =>
    simp only [Server.mainStep]
    split
    · exact ⟨sound.reachable, by simp [MainPoint.ending], by simp, by simp⟩
    · exact sound
  | drained =>
    simp only [Server.mainStep]
    split
    · split
      next done =>
        exact ⟨sound.reachable, fun _ => List.all_eq_true.mp done, by simp, by simp⟩
      next => exact sound
    · exact sound
  | lock =>
    simp only [Server.mainStep]
    split
    next here => exact sound.lookAtCounter (by simp [here, MainPoint.ending])
    next => exact sound
  | wake spurious =>
    simp only [Server.mainStep]
    split
    next here =>
      split
      · exact sound.lookAtCounter (by simp [here, MainPoint.ending])
      · exact sound
    next => exact sound

theorem notify_ending (point : MainPoint) : point.notify.ending = point.ending := by
  cases point <;> rfl

theorem Sound.turn (sound : server.Sound env) {action : Action} {index : Nat}
    (running : server.system.alive = true) (own : action.thread = some index) :
    Sound env
      { system := (server.system.step env action).1
        main := if server.system.notifies action then server.main.notify else server.main } := by
  have turn := System.step_turn env running own
  have counted := turn.outstanding_eq
  cases loud : server.system.notifies action with
  | true =>
    rw [loud] at turn counted
    refine ⟨sound.reachable.step action, fun ending => turn.spawned (sound.spawned ?_),
      fun asleep => ?_, fun gone => ?_⟩
    · simpa [notify_ending] using ending
    · cases main : server.main <;> simp [main, MainPoint.notify] at asleep
    · have before : server.main = .destroyed := by
        cases main : server.main <;> simp [main, MainPoint.notify] at gone ⊢
      have none := sound.gone before
      simp only
      omega
  | false =>
    rw [loud] at turn counted
    refine ⟨sound.reachable.step action, fun ending => turn.spawned (sound.spawned ?_),
      fun asleep => ?_, fun gone => ?_⟩
    · simpa using ending
    · have some := sound.asleep (by simpa using asleep)
      simp only [Bool.toNat_false, Nat.add_zero] at counted
      rwa [counted]
    · have none := sound.gone (by simpa using gone)
      simp only
      omega

theorem step_act_dead (dead : server.system.alive = false) (action : Action) :
    (server.step env (.act action)).1 = server := by
  have silent : server.system.notifies action = false := by
    unfold System.notifies
    split
    · split <;> simp [dead]
    · split <;> simp [dead]
    · rfl
  simp only [step]
  split
  · rfl
  · simp [System.step, dead, silent]

-- No call of a client gets past Shutdown, so what is left to move is the main thread and workers.
theorem act_cases (env : Environment) (server : Server) (action : Action) :
    (server.step env (.act action)).1 = server ∨
      (server.main = .serving ∧ action.thread = none ∧
        (server.step env (.act action)).1 =
          { server with system := (server.system.step env action).1 }) ∨
      ∃ index, action.thread = some index ∧ server.system.alive = true ∧
        (server.step env (.act action)).1 =
          { system := (server.system.step env action).1
            main := if server.system.notifies action then server.main.notify else server.main } := by
  cases running : server.system.alive with
  | false => exact .inl (step_act_dead running action)
  | true =>
    cases own : action.thread with
    | some index => exact .inr (.inr ⟨index, rfl, rfl, by simp [step, refuses, own]⟩)
    | none =>
      have silent : server.system.notifies action = false := by
        cases action <;> first | rfl | cases own
      cases main : server.main with
      | serving => exact .inr (.inl ⟨rfl, rfl, by simp [step, refuses, own, main, silent]⟩)
      | _ => exact .inl (by simp [step, refuses, own, main])

theorem Sound.step (sound : server.Sound env) (action : ServerAction) :
    (server.step env action).1.Sound env := by
  have moved (same : (server.step env action).1 =
      if server.system.alive then server.mainStep action else server) :
      (server.step env action).1.Sound env := by
    rw [same]
    split
    · exact sound.mainStep action
    · exact sound
  cases action with
  | act action =>
    rcases act_cases env server action with same | ⟨serving, -, same⟩ | ⟨index, own, running, same⟩
    · rwa [same]
    · rw [same]
      exact ⟨sound.reachable.step action, by simp [serving, MainPoint.ending], by simp [serving],
        by simp [serving]⟩
    · rw [same]
      exact sound.turn running own
  | _ => exact moved rfl

theorem sound_of_run (env : Environment) (run : List ServerAction) :
    ((serverMachine env).after (serverMachine env).initial run).Sound env := by
  refine (serverMachine env).after_preserves (Sound env) (fun _ action sound => sound.step action) _
    ⟨⟨[], rfl⟩, ?_, ?_, ?_⟩ run
  · simp [serverMachine, MainPoint.ending]
  · simp [serverMachine]
  · simp [serverMachine]

theorem lookAtCounter_rank (server : Server) : server.lookAtCounter.main.rank ≤ 1 := by
  simp only [lookAtCounter]
  split_ifs <;> simp [MainPoint.rank]

theorem notify_rank (point : MainPoint) : point.notify.rank ≤ point.rank + 1 := by
  rcases point with _ | _ | _ | ⟨_ | _⟩ | _ <;> simp [MainPoint.notify, MainPoint.rank]

theorem mainStep_left {action : ServerAction} (caused : action ≠ .wake true)
    (moved : server.mainStep action ≠ server) : (server.mainStep action).left < server.left := by
  have closer {later : Server} (same : later.system = server.system)
      (lower : later.main.rank < server.main.rank) : later.left < server.left := by
    simpa [left, same] using lower
  have looked := server.lookAtCounter_rank
  cases action with
  | act action => exact absurd rfl moved
  | shutdown =>
    cases main : server.main with
    | serving => exact closer (by simp [mainStep, main]) (by simp [mainStep, main, MainPoint.rank])
    | _ => exact absurd (by simp [mainStep, main]) moved
  | drained =>
    cases main : server.main with
    | draining =>
      cases done : server.handlersDone with
      | true =>
        exact closer (by simp [mainStep, main, done]) (by simp [mainStep, main, done, MainPoint.rank])
      | false => exact absurd (by simp [mainStep, main, done]) moved
    | _ => exact absurd (by simp [mainStep, main]) moved
  | lock =>
    cases main : server.main with
    | destroying =>
      simp only [mainStep, main]
      refine closer rfl ?_
      rw [main]
      exact Nat.lt_of_le_of_lt looked (by simp [MainPoint.rank])
    | _ => exact absurd (by simp [mainStep, main]) moved
  | wake spurious =>
    cases main : server.main with
    | waiting notified =>
      cases notified with
      | true =>
        simp only [mainStep, main, Bool.true_or, if_true]
        refine closer rfl ?_
        rw [main]
        exact Nat.lt_of_le_of_lt looked (by simp [MainPoint.rank])
      | false =>
        cases spurious with
        | true => exact absurd rfl caused
        | false => exact absurd (by simp [mainStep, main]) moved
    | _ => exact absurd (by simp [mainStep, main]) moved

theorem Effective.lowers {action : ServerAction} (stopped : server.main ≠ .serving)
    (effective : server.Effective env action) : (server.step env action).1.left < server.left := by
  obtain ⟨caused, moved⟩ := effective
  have onMain (same : (server.step env action).1 =
      if server.system.alive then server.mainStep action else server) :
      (server.step env action).1.left < server.left := by
    rw [same] at moved ⊢
    split at moved
    next running =>
      rw [if_pos running]
      exact mainStep_left caused moved
    next => exact absurd rfl moved
  cases action with
  | act action =>
    rcases act_cases env server action with same | ⟨serving, -⟩ | ⟨index, own, running, same⟩
    · exact absurd same moved
    · exact absurd serving stopped
    · rw [same] at moved ⊢
      rcases (System.step_turn env running own).left_lt running with ⟨idle, silent⟩ | lower
      · rw [idle, silent] at moved
        exact absurd rfl moved
      · have notified := notify_rank server.main
        cases loud : server.system.notifies action with
        | true =>
          rw [loud] at lower
          simp only [left, if_true]
          simp only [Bool.toNat_true] at lower
          omega
        | false =>
          rw [loud] at lower
          simp only [left, Bool.false_eq_true, if_false]
          simp only [Bool.toNat_false] at lower
          omega
  | _ => exact onMain rfl

theorem stopped_step (stopped : server.main ≠ .serving) (action : ServerAction) :
    (server.step env action).1.main ≠ .serving := by
  have looked : server.lookAtCounter.main ≠ .serving := by
    simp only [lookAtCounter]
    split_ifs <;> simp
  have onMain : (if server.system.alive then server.mainStep action else server).main ≠ .serving := by
    split
    · fun_cases server.mainStep action <;> first | exact stopped | exact looked | simp
    · exact stopped
  cases action with
  | act action =>
    rcases act_cases env server action with same | ⟨serving, -⟩ | ⟨index, -, -, same⟩
    · rwa [same]
    · exact absurd serving stopped
    · rw [same]
      have kept : server.main.notify ≠ .serving := by
        cases main : server.main <;> simp_all [MainPoint.notify]
      simp only
      split
      · exact kept
      · exact stopped
  | _ => exact onMain

theorem Sound.destroyed_step (sound : server.Sound env) (destroyed : server.main = .destroyed)
    (action : ServerAction) : (server.step env action).1 = server := by
  have released := sound.gone destroyed
  cases action with
  | act action =>
    rcases act_cases env server action with same | ⟨serving, -⟩ | ⟨index, own, running, same⟩
    · exact same
    · simp [serving] at destroyed
    · have idle : (server.system.step env action).1 = server.system :=
        System.step_released released (by simp [own])
      have kept : server.main.notify = server.main := by rw [destroyed]; rfl
      rw [same, idle, kept, ite_self]
  | _ => simp [Server.step, Server.mainStep, destroyed]

-- Where nothing can move anymore the destructor has returned.
theorem Sound.destroyed_of_stuck (sound : server.Sound env) (stopped : server.main ≠ .serving)
    (running : server.system.alive = true)
    (stuck : ∀ action, ¬ server.Effective env action) : server.main = .destroyed := by
  have idle {thread : Thread} (listed : thread ∈ server.system.threads)
      (busy : thread.phase.outstanding = true) : False := by
    obtain ⟨action, own, moves⟩ := System.can_move env running listed busy
    refine stuck (.act action) ⟨by simp, fun same => moves ?_⟩
    obtain ⟨index, own⟩ := Option.ne_none_iff_exists'.mp own
    simpa [Server.step, refuses, own] using congrArg system same
  have still {action : ServerAction} (caused : action ≠ .wake true)
      (same : (server.step env action).1 = server.mainStep action) : server.mainStep action = server := by
    by_contra moved
    exact stuck action ⟨caused, same ▸ moved⟩
  have looked : server.lookAtCounter.main.rank ≤ 1 := server.lookAtCounter_rank
  cases main : server.main with
  | serving => exact absurd main stopped
  | draining =>
    cases done : server.handlersDone with
    | true =>
      have same := congrArg Server.main (@still .drained (by simp) (by simp [Server.step, running]))
      simp [Server.mainStep, main, done] at same
    | false =>
      simp only [handlersDone, List.all_eq_false] at done
      obtain ⟨thread, listed, spawning⟩ := done
      refine (idle listed ?_).elim
      cases phase : thread.phase <;> simp_all [Phase.spawned, Phase.outstanding]
  | destroying =>
    have same := congrArg Server.main (@still .lock (by simp) (by simp [Server.step, running]))
    simp only [Server.mainStep, main] at same
    simp [same, MainPoint.rank] at looked
  | waiting notified =>
    cases notified with
    | true =>
      have same := congrArg Server.main
        (@still (.wake false) (by simp) (by simp [Server.step, running]))
      simp only [Server.mainStep, main, Bool.true_or, if_true] at same
      simp [same, MainPoint.rank] at looked
    | false =>
      obtain ⟨thread, listed, busy⟩ := List.countP_pos_iff.mp (sound.asleep main)
      exact (idle listed busy).elim
  | destroyed => rfl

theorem left_le (server : Server) (stopped : server.main ≠ .serving) :
    server.left ≤ 6 * server.system.threads.length + 6 := by
  have ranks : ∀ rank ∈ server.system.threads.map (·.phase.rank), rank ≤ 6 := by
    intro rank listed
    obtain ⟨thread, -, rfl⟩ := List.mem_map.mp listed
    cases thread.phase <;> simp [Phase.rank]
  have sum := List.sum_le_card_nsmul _ _ ranks
  rw [List.length_map, smul_eq_mul] at sum
  have alive := Bool.toNat_le server.system.alive
  have main : server.main.rank ≤ 5 := by
    rcases point : server.main with _ | _ | _ | ⟨_ | _⟩ | _ <;> simp_all [MainPoint.rank]
  simp only [left, System.left]
  omega

end Server

/-- The manager goes away however the threads interleave, if only `proxy.Stop()` returns. Its
destructor sleeps unnotified only while a worker is still to leave, and once it has returned nothing
moves anymore. After the signal every run in which each step does something, and no wake-up is
spurious, is short, and where it cannot be continued the destructor has returned, unless a worker
has ended the process. -/
theorem shutdown_completes (env : Environment) (earlier later : List ServerAction) :
    let server := (serverMachine env).after (serverMachine env).initial earlier
    let after := (serverMachine env).after server later
    (server.main = .waiting false →
        ∃ thread ∈ server.system.threads, thread.phase.outstanding = true) ∧
      (server.main = .destroyed → (∀ thread ∈ server.system.threads, thread.phase = .finished) ∧
        ∀ action, (server.step env action).1 = server) ∧
      (server.main ≠ .serving → (serverMachine env).Allowed (Server.Effective env) server later →
        later.length ≤ 6 * server.system.threads.length + 6 ∧
          ((∀ action, ¬ after.Effective env action) →
            after.main = .destroyed ∨ after.system.alive = false)) := by
  intro server after
  have sound : server.Sound env := Server.sound_of_run env earlier
  have soundAfter : after.Sound env := (serverMachine env).after_preserves (Server.Sound env)
    (fun _ action sound => sound.step action) server sound later
  refine ⟨fun asleep => List.countP_pos_iff.mp (sound.asleep asleep), fun destroyed => ⟨?_, ?_⟩,
    fun stopped effective => ⟨?_, fun stuck => ?_⟩⟩
  · exact fun thread listed => System.finished_of_released (sound.gone destroyed) listed
  · exact sound.destroyed_step destroyed
  · have short := (serverMachine env).length_le_of_lowers (fun server => server.main ≠ .serving)
      Server.left (fun _ action stopped => Server.stopped_step stopped action)
      (fun _ _ stopped effective => effective.lowers stopped) server stopped later effective
    exact short.trans (server.left_le stopped)
  · have stoppedAfter : after.main ≠ .serving := (serverMachine env).after_preserves
      (fun server => server.main ≠ .serving)
      (fun _ action stopped => Server.stopped_step stopped action) server stopped later
    cases running : after.system.alive with
    | false => exact .inr rfl
    | true => exact .inl (soundAfter.destroyed_of_stuck stoppedAfter running stuck)

-- The signal comes before the last handler has spawned its worker.
def calendarSignalled : List ServerAction := calendarSubmissions.map .act ++ [.shutdown]

def calendarLeaving : List ServerAction :=
  [.act (.spawnSucceeds 0), .drained, .lock, .act (.preparePrompt 0),
    .act (.infer 0 fun _ => .ok (utf8 "\x7b\x7d")), .act (.writeResult 0 0), .act (.leave 0),
    .wake false]

theorem calendar_shutdown_completes :
    let server := (serverMachine calendarEnv).after (serverMachine calendarEnv).initial
      calendarSignalled
    (server.step calendarEnv .drained).1.main = .draining ∧
      calendarLeaving.length ≤ 6 * server.system.threads.length + 6 ∧
      ((serverMachine calendarEnv).after server calendarLeaving).main = .destroyed := by
  intro server
  have effective : (serverMachine calendarEnv).Allowed (Server.Effective calendarEnv) server
      calendarLeaving := by
    have lowers {server : Server} {action : ServerAction} (caused : action ≠ .wake true)
        (lower : (server.step calendarEnv action).1.left ≠ server.left) :
        server.Effective calendarEnv action :=
      ⟨caused, fun same => lower (congrArg Server.left same)⟩
    exact ⟨lowers nofun (by decide +kernel), lowers nofun (by decide +kernel),
      lowers nofun (by decide +kernel), lowers nofun (by decide +kernel),
      lowers nofun (by decide +kernel), lowers nofun (by decide +kernel),
      lowers nofun (by decide +kernel), lowers nofun (by decide +kernel), trivial⟩
  have short := ((shutdown_completes calendarEnv calendarSignalled calendarLeaving).2.2
    (by decide +kernel) effective).1
  exact ⟨by decide +kernel, short, by decide +kernel⟩

end Ztab
