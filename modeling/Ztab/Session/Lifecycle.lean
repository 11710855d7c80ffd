import Ztab.Session.Workers

set_option autoImplicit false

/-!
# Session lifecycle

The states move along the documented graph, and a terminal state is final.
-/

namespace Ztab

inductive SessionState.Moves : SessionState → SessionState → Prop
  | seals : Moves .OPEN .SEALED
  | calculates : Moves .SEALED .CALCULATING
  | closes : Moves .CALCULATING .CLOSED
  | aborts {state : SessionState} (alive : ¬ state.Terminal) : Moves state .ABORTED

namespace Session

-- The handler of a failed spawn is the one writer that does not look at the state.
def Step.Guarded (actor : Actor) (before after : Session) : Prop :=
  actor = .spawner → after = before ∨ before.state = .CALCULATING ∨ before.state = .ABORTED

theorem Step.moves {env : Environment} {actor : Actor} {before after : Session}
    (step : before.Step env actor after) (guarded : Step.Guarded actor before after) :
    after.state = before.state ∨ before.state.Moves after.state := by
  cases step with
  | same => exact .inl rfl
  | timeout now due => exact .inr (.aborts due.1)
  | accept token participant listed waiting missing => exact .inl rfl
  | sealing now token participant listed waiting full accepted =>
    rw [waiting]
    exact .inr .seals
  | submit token inputJson canonical participant listed unsubmitted waiting admitted missing =>
    exact .inl rfl
  | calculate now token inputJson canonical participant listed unsubmitted waiting =>
    rw [waiting]
    exact .inr .calculates
  | write now outcome waiting =>
    rw [waiting]
    cases outcome with
    | ok resultJson => exact .inr .closes
    | error status => exact .inr (.aborts (by decide))
  | spawnFailure what =>
    rcases guarded rfl with same | calculating | aborted
    · exact .inl (congrArg state same)
    · rw [calculating]
      exact .inr (.aborts (by decide))
    · exact .inl aborted.symm

theorem Step.of_terminal {env : Environment} {actor : Actor} {before after : Session}
    (step : before.Step env actor after) (terminal : before.state.Terminal) :
    after = before ∨ ∃ what, actor = .spawner ∧ after = before.abortSpawn what := by
  cases step with
  | same => exact .inl rfl
  | timeout now due => exact absurd terminal due.1
  | accept token participant listed waiting missing =>
    simp [SessionState.Terminal, waiting] at terminal
  | sealing now token participant listed waiting full accepted =>
    simp [SessionState.Terminal, waiting] at terminal
  | submit token inputJson canonical participant listed unsubmitted waiting admitted missing =>
    simp [SessionState.Terminal, waiting] at terminal
  | calculate now token inputJson canonical participant listed unsubmitted waiting =>
    simp [SessionState.Terminal, waiting] at terminal
  | write now outcome waiting => simp [SessionState.Terminal, waiting] at terminal
  | spawnFailure what => exact .inr ⟨what, rfl, rfl⟩

end Session

namespace System

variable {env : Environment} {system : System}

theorem spawnFails_session {index : Nat} {what id : String} {session : Session}
    (found : (system.step env (.spawnFails index what)).1.manager.sessions.lookup id =
      some session) :
    ∃ held, system.manager.sessions.lookup id = some held ∧
      (session = held ∨ ∃ thread, system.threads[index]? = some thread ∧
        thread.phase = .spawning ∧ thread.session = id ∧ session = held.abortSpawn what) := by
  simp only [step, perform, onThread, threadStep] at found
  split at found
  next =>
    split at found
    next => exact ⟨session, found, .inl rfl⟩
    next thread here =>
      split at found
      next phase =>
        simp only [spawnFails, setPhase_manager, SessionManager.handleSpawnFailure] at found
        split at found
        next => exact ⟨session, found, .inl rfl⟩
        next held stored =>
          rw [SessionManager.putSession, FlatHashMap.lookup_insert_ite] at found
          split_ifs at found with same
          · cases found
            exact ⟨held, same ▸ stored, .inr ⟨thread, here, phase, same.symm, rfl⟩⟩
          · exact ⟨session, found, .inl rfl⟩
      next => exact ⟨session, found, .inl rfl⟩
  next => exact ⟨session, found, .inl rfl⟩

theorem spawner_eq {action : Action} (spawner : action.actor = .spawner) :
    ∃ index what, action = .spawnFails index what := by
  cases action with
  | spawnFails index what => exact ⟨index, what, rfl⟩
  | _ => cases spawner

theorem step_guarded (workers : Workers env system) (action : Action) {id : String}
    {held session : Session} (stored : system.manager.sessions.lookup id = some held)
    (found : (system.step env action).1.manager.sessions.lookup id = some session) :
    Session.Step.Guarded action.actor held session := by
  intro spawner
  obtain ⟨index, what, rfl⟩ := spawner_eq spawner
  obtain ⟨kept, keptStored, same | ⟨thread, here, phase, named, -⟩⟩ := spawnFails_session found
  · cases stored.symm.trans keptStored
    exact .inl same
  · have fits := workers.fits thread (List.mem_of_getElem? here) held (named ▸ stored)
    rw [phase] at fits
    exact .inr fits

theorem step_moves (fresh : env.NeverRepeats) (sound : SessionManager.Sound env system.manager)
    (workers : Workers env system) (action : Action) {id : String} {held session : Session}
    (stored : system.manager.sessions.lookup id = some held)
    (found : (system.step env action).1.manager.sessions.lookup id = some session) :
    session.state = held.state ∨ held.state.Moves session.state := by
  have guarded := step_guarded workers action stored found
  have origin := (system.step_manager env action).origin found
  generalize action.actor = actor at guarded origin
  cases origin with
  | stepped kept step =>
    cases stored.symm.trans kept
    exact step.moves guarded
  | joined token clientNonce kept waiting =>
    cases stored.symm.trans kept
    exact .inl rfl
  | created now creator invitation recent named admitted =>
    exact absurd named ((sound.idsDrawn id held stored).ne_next fresh recent _)

-- A fact about a terminal session outlives every run in which no failed spawn breaks it.
theorem terminal_after (fresh : env.NeverRepeats) (allowed : System → Action → Prop)
    (holds : Session → Prop) (terminal : ∀ session, holds session → session.state.Terminal)
    (spawnFailure : ∀ system index what thread held, Workers env system →
      allowed system (.spawnFails index what) → system.threads[index]? = some thread →
      thread.phase = .spawning → system.manager.sessions.lookup thread.session = some held →
      holds held → holds (held.abortSpawn what))
    (reachable : (machine env).Reachable system) {id : String}
    (drawn : env.Drawn system.manager.draws id)
    (start : ∀ session, system.manager.sessions.lookup id = some session → holds session)
    (actions : List Action) (within : (machine env).Allowed allowed system actions)
    (session : Session)
    (found : ((machine env).after system actions).manager.sessions.lookup id = some session) :
    holds session := by
  have kept := (machine env).allowed_preserves allowed
    (fun system => (machine env).Reachable system ∧ env.Drawn system.manager.draws id ∧
      ∀ session, system.manager.sessions.lookup id = some session → holds session)
    (by
      rintro system action permitted ⟨reachable, drawn, start⟩
      have step := system.step_manager env action
      refine ⟨reachable.step action, drawn.mono step.draws_le, fun session found => ?_⟩
      have workers := workers_of_reachable fresh reachable
      replace found : (system.step env action).1.manager.sessions.lookup id = some session := found
      have origin := step.origin found
      generalize actor_eq : action.actor = actor at origin
      cases origin with
      | @stepped _ held _ stored step =>
        obtain rfl | ⟨what, spawner, -⟩ := step.of_terminal (terminal held (start held stored))
        · exact start _ stored
        · obtain ⟨index, what, rfl⟩ := spawner_eq (actor_eq.trans spawner)
          obtain ⟨other, otherStored, rfl | ⟨thread, here, phase, named, rfl⟩⟩ :=
            spawnFails_session found
          · exact start _ otherStored
          · subst named
            exact spawnFailure system index what thread other workers permitted here phase
              otherStored (start other otherStored)
      | @joined held token clientNonce stored waiting =>
        have := terminal held (start held stored)
        simp [SessionState.Terminal, waiting] at this
      | created now creator invitation recent named admitted =>
        exact absurd named (drawn.ne_next fresh recent _))
    system ⟨reachable, drawn, start⟩ actions within
  exact kept.2.2 session found

-- A worker whose session is gone or no longer waits for it.
def Late (system : System) (thread : Thread) : Prop :=
  ∀ session, system.manager.sessions.lookup thread.session = some session →
    session.state ≠ .CALCULATING

theorem late_worker {index : Nat} {thread : Thread} (here : system.threads[index]? = some thread)
    (late : system.Late thread) {action : Action}
    (worker : action = .preparePrompt index ∨ (∃ results, action = .infer index results) ∨
      (∃ now, action = .writeResult index now) ∨ action = .leave index) :
    (system.step env action).1.manager =
      { system.manager with
        activeAsyncThreads := (system.step env action).1.manager.activeAsyncThreads } := by
  unfold step
  split
  next =>
    rcases worker with rfl | ⟨results, rfl⟩ | ⟨now, rfl⟩ | rfl
    · simp only [perform, onThread, here, threadStep]
      split
      next =>
        unfold preparePrompt SessionManager.preparePrompt
        cases stored : system.manager.sessions.lookup thread.session with
        | none => rfl
        | some session => simp [late session stored, setPhase]
      next => rfl
    · simp only [perform, onThread, here, threadStep]
      split
      next =>
        unfold infer
        simp only
        split <;> rfl
      next => rfl
    · simp only [perform, onThread, here, threadStep]
      split
      next =>
        unfold SessionManager.writeResult
        cases stored : system.manager.sessions.lookup thread.session with
        | none => rfl
        | some session => simp [late session stored, setPhase]
      next => rfl
    · simp only [perform, onThread, here, threadStep]
      split <;> rfl
  next => rfl

end System

structure DocumentedLifecycle (env : Environment) (system : System) : Prop where
  moves : ∀ action id session after, system.manager.sessions.lookup id = some session →
    (system.step env action).1.manager.sessions.lookup id = some after →
    after.state = session.state ∨ session.state.Moves after.state
  final : ∀ actions id session after, system.manager.sessions.lookup id = some session →
    session.state.Terminal →
    ((machine env).after system actions).manager.sessions.lookup id = some after →
    after.state = session.state ∧
      (session.state = .CLOSED → after.resultJson = session.resultJson)
  lateWorker : ∀ index thread, system.threads[index]? = some thread → system.Late thread →
    ∀ action, action = .preparePrompt index ∨ (∃ results, action = .infer index results) ∨
      (∃ now, action = .writeResult index now) ∨ action = .leave index →
    (system.step env action).1.manager =
      { system.manager with
        activeAsyncThreads := (system.step env action).1.manager.activeAsyncThreads }
  spawnFailure : ∀ index what id session after, system.manager.sessions.lookup id = some session →
    session.state = .CLOSED →
    (system.step env (.spawnFails index what)).1.manager.sessions.lookup id = some after →
    after = session

theorem documented_lifecycle_of_reachable (env : Environment) (fresh : env.NeverRepeats)
    (system : System) (reachable : (machine env).Reachable system) :
    DocumentedLifecycle env system := by
  have sound := sound_of_reachable fresh reachable
  have workers := workers_of_reachable fresh reachable
  refine ⟨?_, ?_, ?_, ?_⟩
  · intro action id session after stored found
    exact System.step_moves fresh sound workers action stored found
  · intro actions id session after stored terminal found
    refine System.terminal_after fresh (fun _ _ => True)
      (fun held => held.state = session.state ∧
        (session.state = .CLOSED → held.resultJson = session.resultJson))
      (fun held same => same.1 ▸ terminal) ?_ reachable (sound.idsDrawn id session stored) ?_
      actions ((machine env).allowed_of_forall (fun _ _ => trivial) system actions) after found
    · intro system index what thread held workers _ here phase kept same
      have fits := workers.fits thread (List.mem_of_getElem? here) held kept
      rw [phase] at fits
      -- The spawn was pending, so the session is not CLOSED and the write repeats ABORTED.
      have aborted : session.state = .ABORTED := by
        rcases fits with calculating | aborted
        · rw [← same.1, calculating] at terminal
          cases terminal <;> contradiction
        · exact same.1.symm.trans aborted
      exact ⟨aborted.symm, fun closed => by simp [aborted] at closed⟩
    · intro held kept
      cases stored.symm.trans kept
      exact ⟨rfl, fun _ => rfl⟩
  · exact fun index thread here late action worker => System.late_worker here late worker
  · intro index what id session after stored closed found
    rcases System.step_guarded workers _ stored found rfl with same | calculating | aborted
    · exact same
    · simp [calculating] at closed
    · simp [aborted] at closed

theorem calendar_lifecycle :
    DocumentedLifecycle calendarEnv
        ((machine calendarEnv).after (machine calendarEnv).initial calendarSubmissions) ∧
      (((machine calendarEnv).after (machine calendarEnv).initial
        calendarSubmissions).manager.sessions.lookup "a").map Session.state = some .CALCULATING :=
  ⟨documented_lifecycle_of_reachable calendarEnv (countingEnv_neverRepeats _) _ ⟨_, rfl⟩,
    by decide +kernel⟩

end Ztab
