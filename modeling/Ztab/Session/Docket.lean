import Ztab.Session.Dispatch

set_option autoImplicit false

/-!
# One session's part of a run

A docket is one session with its worker. In a run of the whole server it goes through
the steps that are its own and through nothing else, so what is proved of dockets is
proved of every session of every run.
-/

namespace Ztab

structure Moment where
  time : Int
  action : Action

-- The clock reading of a step that takes one.
def Action.clock : Action → Option Int
  | .createSession now _ | .joinSession now _ | .acceptPolicy now _ | .submitInput now _
  | .getResult now _ | .getSessionStatus now _ | .writeResult _ now => some now
  | _ => none

def Moment.Read (moment : Moment) : Prop :=
  ∀ now, moment.action.clock = some now → now = moment.time

/-- One clock reading for each step, and time does not run backwards. -/
structure Timed (run : List Moment) : Prop where
  read : ∀ moment ∈ run, moment.Read
  ordered : run.Pairwise fun first second => first.time ≤ second.time

def timedMachine (env : Environment) : Machine System Moment Reply where
  initial := {}
  step system moment := system.step env moment.action

-- The last record of a session that is no longer stored is kept.
structure Docket where
  session : Session
  stored : Bool := true
  worker : Option Phase := none

inductive Move where
  | call (fresh : Nat → String) (action : Action)
  | work (fresh : Nat → String) (action : Action)
  | sweep
  -- No part of the program: enforces the timeout at a time of its own.
  | timer

structure Entry where
  time : Int
  move : Move

namespace Docket

def record (docket : Docket) : Option Session := if docket.stored then some docket.session else none

def step (env : Environment) (docket : Docket) (entry : Entry) : Docket :=
  match entry.move with
  | .call fresh action =>
    if docket.stored then
      let turn := docket.session.call env fresh action
      { docket with
        session := turn.record.getD docket.session
        worker := docket.worker.or turn.phase }
    else docket
  | .work fresh action =>
    match docket.worker with
    | none => docket
    | some phase =>
      let turn := phase.work env fresh docket.record action
      { docket with session := turn.record.getD docket.session, worker := turn.phase }
  | .sweep =>
    if docket.stored then
      let checked := docket.session.checkAndEnforceTimeout env entry.time
      { docket with session := checked, stored := ¬ checked.ShouldErase env entry.time }
    else docket
  | .timer =>
    if docket.stored then
      { docket with session := docket.session.checkAndEnforceTimeout env entry.time }
    else docket

def run (env : Environment) (docket : Docket) (entries : List Entry) : Docket :=
  entries.foldl (step env) docket

end Docket

def Action.creates : Action → Bool
  | .createSession .. => true
  | _ => false

namespace System

def worker (system : System) (id : String) : Option Phase :=
  (system.threads.find? fun thread => thread.session = id).map Thread.phase

-- The session whose worker takes the step.
def workedOn (system : System) (action : Action) : Option String :=
  (action.thread.bind fun index => system.threads[index]?).map Thread.session

def entries (env : Environment) (id : String) (system : System) (moment : Moment) : List Entry :=
  if system.alive then
    if moment.action.creates then [⟨moment.time, .sweep⟩]
    else if moment.action.resolves system.manager = some id then
      [⟨moment.time, .call (env.randomHex system.manager.draws) moment.action⟩]
    else if system.workedOn moment.action = some id then
      [⟨moment.time, .work (env.randomHex system.manager.draws) moment.action⟩]
    else []
  else []

def docketed (env : Environment) (id : String) : System → List Moment → List Entry
  | _, [] => []
  | system, moment :: rest =>
    system.entries env id moment ++ docketed env id (system.step env moment.action).1 rest

end System

theorem find?_set_of_not {α : Type} {test : α → Bool} {index : Nat} {old new : α} (list : List α)
    (here : list[index]? = some old) (apart : test old = false) (apart' : test new = false) :
    (list.set index new).find? test = list.find? test := by
  induction list generalizing index with
  | nil => rfl
  | cons head tail ih =>
    cases index with
    | zero =>
      cases here
      simp [apart, apart']
    | succ index =>
      simp only [List.set_cons_succ, List.find?_cons]
      rw [ih here]

namespace System

variable {env : Environment} {system : System} {id : String}

theorem worker_of_thread (distinct : (system.threads.map (·.session)).Nodup) {thread : Thread}
    (listed : thread ∈ system.threads) : system.worker thread.session = some thread.phase := by
  unfold worker
  cases found : system.threads.find? fun other => other.session = thread.session with
  | none =>
    have missing := List.find?_eq_none.mp found thread listed
    simp at missing
  | some other =>
    have same : other.session = thread.session := by simpa using List.find?_some found
    have one := List.inj_on_of_nodup_map distinct (List.mem_of_find?_eq_some found) listed same
    rw [one]
    rfl

theorem worker_of_threads {after : System} (same : after.threads = system.threads) :
    after.worker id = system.worker id := by
  unfold worker
  rw [same]

end System

theorem Session.call_record (env : Environment) (fresh : Nat → String) (session : Session)
    (action : Action) : ∃ after, (session.call env fresh action).record = some after := by
  cases action <;> simp [Session.call]

theorem Phase.work_record (env : Environment) (fresh : Nat → String) (record : Option Session)
    (phase : Phase) (action : Action) :
    (phase.work env fresh record action).record.isSome = record.isSome := by
  fun_cases Phase.work env fresh record phase action <;> simp

/-- The docket is what the store and the threads say of session `id`. -/
structure Docket.Follows (docket : Docket) (id : String) (system : System) : Prop where
  record : system.manager.sessions.lookup id = docket.record
  worker : system.worker id = docket.worker

namespace Docket

variable {env : Environment} {system : System} {id : String} {docket : Docket}

theorem record_eq_some {session : Session} :
    docket.record = some session ↔ docket.stored = true ∧ docket.session = session := by
  unfold record
  split_ifs with stored <;> simp [stored]

theorem record_eq_none : docket.record = none ↔ docket.stored = false := by
  unfold record
  split_ifs with stored <;> simp [stored]

theorem follows_call {moment : Moment} {session : Session} (follows : docket.Follows id system)
    (resolved : moment.action.resolves system.manager = some id)
    (found : system.manager.sessions.lookup id = some session)
    (isolated : Isolated env system moment.action id
      (session.call env (env.randomHex system.manager.draws) moment.action)) :
    (docket.step env ⟨moment.time, .call (env.randomHex system.manager.draws)
      moment.action⟩).Follows id (system.step env moment.action).1 := by
  obtain ⟨stored, rfl⟩ := record_eq_some.mp (follows.record.symm.trans found)
  constructor
  · obtain ⟨after, record⟩ := docket.session.call_record env (env.randomHex system.manager.draws)
      moment.action
    rw [isolated.record, record]
    simp [step, stored, Docket.record, record]
  · have silent := Action.thread_of_resolves resolved
    have filed := isolated.threads
    simp only [System.filed, silent] at filed
    simp only [step, stored, if_true, ← follows.worker]
    unfold System.worker
    rw [filed, List.find?_append, Option.map_or]
    cases (docket.session.call env (env.randomHex system.manager.draws) moment.action).phase <;> simp

theorem follows_work {moment : Moment} {index : Nat} {thread : Thread}
    (follows : docket.Follows thread.session system)
    (distinct : (system.threads.map (·.session)).Nodup)
    (still : ((system.step env moment.action).1.threads.map (·.session)).Nodup)
    (own : moment.action.thread = some index) (here : system.threads[index]? = some thread)
    (isolated : Isolated env system moment.action thread.session
      (thread.phase.work env (env.randomHex system.manager.draws)
        (system.manager.sessions.lookup thread.session) moment.action)) :
    (docket.step env ⟨moment.time, .work (env.randomHex system.manager.draws)
      moment.action⟩).Follows thread.session (system.step env moment.action).1 := by
  have worker := follows.worker
  rw [System.worker_of_thread distinct (List.mem_of_getElem? here)] at worker
  obtain ⟨next, phase, -⟩ := Phase.work_spawned env (env.randomHex system.manager.draws)
    (system.manager.sessions.lookup thread.session) thread.phase moment.action
  have threads := isolated.threads
  simp only [System.filed, own, phase, Option.elim_some] at threads
  constructor
  · have kept := Phase.work_record env (env.randomHex system.manager.draws)
      (system.manager.sessions.lookup thread.session) thread.phase moment.action
    rw [isolated.record]
    simp only [step, ← worker, ← follows.record]
    generalize (thread.phase.work env (env.randomHex system.manager.draws)
      (system.manager.sessions.lookup thread.session) moment.action).record = record at kept
    cases record with
    | none =>
      have missing := Option.isSome_eq_false_iff.mp kept.symm
      rw [Option.isNone_iff_eq_none, follows.record, record_eq_none] at missing
      simp [Docket.record, missing]
    | some session =>
      obtain ⟨held, found⟩ := Option.isSome_iff_exists.mp kept.symm
      rw [follows.record, record_eq_some] at found
      simp [Docket.record, found.1]
  · have listed : (⟨thread.session, next⟩ : Thread) ∈ (system.step env moment.action).1.threads := by
      have bound : index < system.threads.length := (List.getElem?_eq_some_iff.mp here).1
      rw [threads]
      exact List.mem_of_getElem? (List.getElem?_set_self bound)
    simp only [step, ← worker, ← follows.record, phase]
    exact System.worker_of_thread still listed

theorem follows_sweep {time : Int} {request : CreateSessionRequest} (fresh : env.NeverRepeats)
    (sound : SessionManager.Sound env system.manager) (running : system.alive = true)
    (drawn : env.Drawn system.manager.draws id) (follows : docket.Follows id system) :
    (docket.step env ⟨time, .sweep⟩).Follows id
      (system.step env (.createSession time request)).1 := by
  have worker : (system.step env (.createSession time request)).1.worker id = system.worker id :=
    System.worker_of_threads (system.createSession_threads time request)
  have step : (system.step env (.createSession time request)).1.manager = _ :=
    system.step_createSession running time request
  cases stored : docket.stored with
  | false =>
    refine ⟨?_, ?_⟩
    · have missing := follows.record.trans (record_eq_none.mpr stored)
      have apart : id ≠ env.randomHex system.manager.draws kSessionIdBytes :=
        drawn.ne_next fresh le_rfl _
      simp only [Docket.step, stored, Bool.false_eq_true, if_false, record_eq_none.mpr stored]
      by_contra present
      obtain ⟨session, found⟩ := Option.ne_none_iff_exists'.mp present
      rw [step] at found
      obtain ⟨held, kept, -⟩ | ⟨_, -, named, -⟩ := SessionManager.createSession_origin found
      · rw [missing] at kept
        cases kept
      · exact apart named
    · simp only [Docket.step, stored, Bool.false_eq_true, if_false]
      exact worker.trans follows.worker
  | true =>
    have found := follows.record.trans (record_eq_some.mpr ⟨stored, rfl⟩)
    have swept := createSession_swept fresh sound time request found
    refine ⟨?_, ?_⟩
    · rw [step, swept]
      simp [Docket.step, stored, Docket.record, Session.swept]
    · simp only [Docket.step, stored, if_true]
      exact worker.trans follows.worker

theorem follows_apart {action : Action} (fresh : env.NeverRepeats)
    (reachable : (machine env).Reachable system) (creates : action.creates = false)
    (unresolved : action.resolves system.manager ≠ some id)
    (idle : system.workedOn action ≠ some id) (follows : docket.Follows id system) :
    docket.Follows id (system.step env action).1 := by
  cases owner_of_reachable fresh reachable action with
  | call owner session resolved found isolated =>
    have apart : id ≠ owner := fun same => unresolved (same ▸ resolved)
    have silent := Action.thread_of_resolves resolved
    refine ⟨(isolated.records id apart).trans follows.record, ?_⟩
    rw [← follows.worker]
    unfold System.worker
    rw [isolated.threads, System.filed, silent]
    cases (session.call env (env.randomHex system.manager.draws) action).phase <;>
      simp [List.find?_append, apart.symm]
  | worker index thread own here isolated =>
    have apart : thread.session ≠ id := by
      intro same
      apply idle
      simp [System.workedOn, own, here, same]
    refine ⟨(isolated.records id apart.symm).trans follows.record, ?_⟩
    rw [← follows.worker]
    unfold System.worker
    rw [isolated.threads, System.filed, own]
    cases (thread.phase.work env (env.randomHex system.manager.draws)
      (system.manager.sessions.lookup thread.session) action).phase with
    | none => rfl
    | some phase =>
      simp only [Option.elim_some]
      rw [find?_set_of_not system.threads here (by simpa using apart) (by simpa using apart)]
  | create now request same manager =>
    subst same
    cases creates
  | nobody same =>
    rw [same]
    exact follows

theorem follows_step {moment : Moment} (fresh : env.NeverRepeats)
    (reachable : (machine env).Reachable system) (read : moment.Read)
    (drawn : env.Drawn system.manager.draws id) (follows : docket.Follows id system) :
    (docket.run env (system.entries env id moment)).Follows id
      (system.step env moment.action).1 := by
  obtain ⟨time, action⟩ := moment
  unfold System.entries
  split_ifs with running creates resolved worked
  · cases action with
    | createSession now request =>
      have same : now = time := read now rfl
      subst same
      exact follows_sweep fresh (sound_of_reachable fresh reachable) running drawn follows
    | _ => cases creates
  · obtain ⟨session, found, isolated⟩ :=
      (isolated_of_running fresh reachable running).calls action id resolved
    exact follows_call follows resolved found isolated
  · obtain ⟨thread, here, rfl⟩ := Option.map_eq_some_iff.mp worked
    obtain ⟨index, own, here⟩ := Option.bind_eq_some_iff.mp here
    have isolated := (isolated_of_running fresh reachable running).workers action index thread own here
    exact follows_work follows (workers_of_reachable fresh reachable).distinct
      (workers_of_reachable fresh (reachable.step action)).distinct own here isolated
  · exact follows_apart fresh reachable (by simpa using creates) resolved worked follows
  · have same : (system.step env action).1 = system := by simp [System.step, running]
    rw [same]
    exact follows

theorem follows_after (fresh : env.NeverRepeats) (reachable : (machine env).Reachable system)
    (drawn : env.Drawn system.manager.draws id) (run : List Moment)
    (read : ∀ moment ∈ run, moment.Read) (follows : docket.Follows id system) :
    (docket.run env (system.docketed env id run)).Follows id
      ((timedMachine env).after system run) := by
  induction run generalizing system docket with
  | nil => exact follows
  | cons moment rest ih =>
    have grown := (system.step_manager env moment.action).draws_le
    have next := follows_step fresh reachable (read moment List.mem_cons_self) drawn follows
    have later := ih (reachable.step moment.action) (drawn.mono grown)
      (fun other listed => read other (List.mem_cons_of_mem _ listed)) next
    rw [System.docketed, Docket.run, List.foldl_append]
    exact later

end Docket

def System.docket (system : System) (id : String) (session : Session) : Docket :=
  { session, worker := system.worker id }

theorem System.docket_follows {system : System} {id : String} {session : Session}
    (found : system.manager.sessions.lookup id = some session) :
    (system.docket id session).Follows id system :=
  ⟨found, rfl⟩

end Ztab
