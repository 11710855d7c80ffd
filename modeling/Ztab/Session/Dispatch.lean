import Ztab.Session.Isolation

set_option autoImplicit false

/-!
# One worker per calculated session

The list of threads never shrinks, so it records every dispatch. The counter the
destructor waits on counts the threads that still have a lock to take.
-/

namespace Ztab

-- Spawn pending or running: every phase but the last.
def Phase.outstanding : Phase → Bool
  | .finished => false
  | _ => true

namespace System

def outstanding (system : System) : Nat := system.threads.countP (·.phase.outstanding)

def balance (system : System) : Int := system.manager.activeAsyncThreads - system.outstanding

end System

namespace SessionManager

variable (env : Environment) (now : Int) (manager : SessionManager)

theorem sweep_activeAsyncThreads :
    (manager.sweepTerminalSessions env now).activeAsyncThreads = manager.activeAsyncThreads := by
  refine sweep_preserves env now
    (fun after => after.activeAsyncThreads = manager.activeAsyncThreads) ?_ manager rfl
  intro after id holds
  unfold sweepSession
  split
  next => exact holds
  next =>
    simp only
    split_ifs <;> exact holds

theorem createSession_activeAsyncThreads (request : CreateSessionRequest) :
    (manager.createSession env now request).1.activeAsyncThreads = manager.activeAsyncThreads := by
  have swept := manager.sweep_activeAsyncThreads env now
  obtain ⟨failure, result⟩ | ⟨response, -, result⟩ | ⟨policyDef, -, result⟩ :=
    manager.createSession_cases env now request
  all_goals
    rw [result]
    exact swept

theorem joinSession_activeAsyncThreads (request : JoinSessionRequest) :
    (manager.joinSession env now request).1.activeAsyncThreads = manager.activeAsyncThreads := by
  obtain result | ⟨id, found, -, -, ⟨failure, result⟩ | ⟨token, -, result⟩ | ⟨-, -, result⟩⟩ :=
    manager.joinSession_cases env now request
  · rw [result]
  all_goals
    rw [result]
    rfl

theorem withSession_activeAsyncThreads {α : Type} (token : String)
    (body : Session → Participant → Session × Outcome α) :
    (manager.withSession env now token body).1.activeAsyncThreads = manager.activeAsyncThreads := by
  obtain result | ⟨id, session, participant, -, result⟩ :=
    manager.withSession_cases env now token body
  · rw [result]
  all_goals
    rw [result]
    rfl

end SessionManager

namespace System

variable {env : Environment} {system : System} {index : Nat} {thread : Thread}

theorem submitInput_balance (now : Int) (request : SubmitInputRequest) :
    (system.submitInput env now request).1.balance = system.balance := by
  have active := system.manager.withSession_activeAsyncThreads env now request.participantToken
    (Session.submitInput env now request.participantToken request.inputJson)
  unfold submitInput SessionManager.submitInput
  simp only
  cases outcome : (system.manager.withSession env now request.participantToken
      (Session.submitInput env now request.participantToken request.inputJson)).2 with
  | error failure => simp [balance, outstanding, outcome, active]
  | ok submission =>
    cases submission with
    | answered response => simp [balance, outstanding, outcome, active]
    | dispatched sessionId =>
      simp [balance, outstanding, active, List.countP_append, Phase.outstanding]

-- A worker that moves on is counted as before, unless this is where it finishes.
theorem setPhase_outstanding (system : System) (here : system.threads[index]? = some thread)
    (counted : thread.phase.outstanding = true) (phase : Phase) :
    ((system.setPhase index thread phase).outstanding : Int) =
      system.outstanding - if phase.outstanding then 0 else 1 := by
  obtain ⟨within, found⟩ := List.getElem?_eq_some_iff.mp here
  have present : thread ∈ system.threads := List.mem_of_getElem? here
  have positive : 0 < system.threads.countP (·.phase.outstanding) :=
    List.countP_pos_iff.mpr ⟨thread, present, counted⟩
  simp only [outstanding, setPhase, List.countP_set within, found, counted, if_true]
  split_ifs <;> omega

theorem setPhase_balance (here : system.threads[index]? = some thread)
    (counted : thread.phase.outstanding = true) {manager : SessionManager} {phase : Phase}
    (released : manager.activeAsyncThreads =
      system.manager.activeAsyncThreads - if phase.outstanding then 0 else 1) :
    ({ system with manager }.setPhase index thread phase).balance = system.balance := by
  have moved := setPhase_outstanding { system with manager } here counted phase
  simp only [balance, moved]
  simp only [setPhase, released, outstanding]
  omega

theorem onThread_balance (index : Nat) (action : Action) :
    (system.onThread env index action).1.balance = system.balance := by
  unfold onThread
  split
  next => rfl
  next thread here =>
    unfold threadStep
    split <;> try split
    next phase => exact setPhase_balance here (by rw [phase]; rfl) (by simp [Phase.outstanding])
    next => rfl
    next what _ phase =>
      refine setPhase_balance here (by rw [phase]; rfl) ?_
      unfold SessionManager.handleSpawnFailure
      split <;> rfl
    next => rfl
    next phase =>
      have counted : thread.phase.outstanding = true := by rw [phase]; rfl
      unfold preparePrompt SessionManager.preparePrompt
      cases system.manager.sessions.lookup thread.session with
      | none => exact setPhase_balance here counted (by simp [Phase.outstanding])
      | some session =>
        by_cases moved : session.state ≠ .CALCULATING
        · simp only [if_pos moved]
          exact setPhase_balance here counted (by simp [Phase.outstanding])
        · simp only [if_neg moved]
          exact setPhase_balance here counted
            (by simp [Phase.outstanding, SessionManager.generateRandomHex])
    next => rfl
    next results _ prompt outputSchema phase =>
      have counted : thread.phase.outstanding = true := by rw [phase]; rfl
      unfold infer
      simp only
      split
      next => exact setPhase_balance here counted (by simp [Phase.outstanding, record])
      next => rfl
    next => rfl
    next now _ outcome phase =>
      refine setPhase_balance here (by rw [phase]; rfl) ?_
      simp only [Phase.outstanding, if_true, sub_zero]
      unfold SessionManager.writeResult
      split
      next => rfl
      next => split_ifs <;> rfl
    next => rfl
    next phase =>
      exact setPhase_balance here (by rw [phase]; rfl)
        (by simp [Phase.outstanding, SessionManager.releaseThread])
    next => rfl
    next => rfl

theorem step_balance (env : Environment) (system : System) (action : Action) :
    (system.step env action).1.balance = system.balance := by
  unfold step
  split
  next =>
    cases action with
    | createSession now request =>
      have active := system.manager.createSession_activeAsyncThreads env now request
      simp only [perform, createSession]
      split <;> simp [balance, outstanding, active, invite]
    | joinSession now request =>
      have active := system.manager.joinSession_activeAsyncThreads env now request
      simp only [perform, joinSession]
      split <;> simp [balance, outstanding, active]
    | acceptPolicy now request =>
      simp [perform, balance, outstanding, SessionManager.acceptPolicy,
        SessionManager.withSession_activeAsyncThreads]
    | submitInput now request => exact submitInput_balance now request
    | getResult now request =>
      simp [perform, balance, outstanding, SessionManager.getResult,
        SessionManager.withSession_activeAsyncThreads]
    | getSessionStatus now request =>
      simp [perform, balance, outstanding, SessionManager.getSessionStatus,
        SessionManager.withSession_activeAsyncThreads]
    | spawnSucceeds index => exact onThread_balance index _
    | spawnFails index what => exact onThread_balance index _
    | preparePrompt index => exact onThread_balance index _
    | infer index results => exact onThread_balance index _
    | writeResult index now => exact onThread_balance index _
    | leave index => exact onThread_balance index _
  next => rfl

end System

-- Past the construction of the thread.
def Phase.spawned : Phase → Bool
  | .spawning => false
  | _ => true

theorem Phase.work_spawned (env : Environment) (fresh : Nat → String) (record : Option Session)
    (phase : Phase) (action : Action) :
    ∃ next, (phase.work env fresh record action).phase = some next ∧
      (phase.spawned = true → next.spawned = true) := by
  fun_cases Phase.work env fresh record phase action
  case case3 =>
    refine ⟨_, rfl, fun _ => ?_⟩
    cases record with
    | none => rfl
    | some session =>
      simp only [Option.elim_some, Session.prepared]
      split_ifs <;> rfl
  case case8 => exact ⟨_, rfl, id⟩
  all_goals exact ⟨_, rfl, fun _ => rfl⟩

namespace Session

variable {env : Environment} {now : Int} {session : Session}

theorem checkAndEnforceTimeout_calculating
    (calculating : (session.checkAndEnforceTimeout env now).state = .CALCULATING) :
    session.state = .CALCULATING := by
  rw [session.checkAndEnforceTimeout_of_not_aborted env now (by simp [calculating])] at calculating
  exact calculating

theorem join_state (token clientNonce : String) (session : Session) :
    (session.join token clientNonce).1.state = session.state := by
  unfold join
  split
  next => rfl
  next => rfl
  next => split_ifs <;> rfl

theorem acceptPolicy_calculating {token : String} {participant : Participant}
    (calculating : (session.acceptPolicy now token participant).1.state = .CALCULATING) :
    session.state = .CALCULATING := by
  unfold acceptPolicy at calculating
  simp only at calculating
  split_ifs at calculating
  · exact calculating
  · exact calculating
  · cases calculating
  · exact calculating

theorem submitInput_calculating {token inputJson : String} {participant : Participant}
    (calculating :
      (session.submitInput env now token inputJson participant).1.state = .CALCULATING) :
    session.state = .CALCULATING ∨ ∃ sessionId,
      (session.submitInput env now token inputJson participant).2 = .ok (.dispatched sessionId) := by
  unfold submitInput at calculating ⊢
  split_ifs at calculating ⊢ with closed submitted retried
  · rw [retryInput_fst] at calculating
    exact .inl calculating
  · exact .inl calculating
  · rw [retryInput_fst] at calculating
    exact .inl calculating
  · cases admitted : session.admitInput env inputJson with
    | error failure =>
      simp only [admitted] at calculating
      exact .inl calculating
    | ok canonical =>
      simp only [admitted] at calculating ⊢
      split_ifs at calculating ⊢
      · exact .inr ⟨_, rfl⟩
      · exact .inl calculating

-- A call that leaves its session CALCULATING found it so, or dispatches its worker.
theorem call_calculating {fresh : Nat → String} {after : Session} {action : Action}
    (record : (session.call env fresh action).record = some after)
    (calculating : after.state = .CALCULATING) :
    session.state = .CALCULATING ∨ (session.call env fresh action).phase = some .spawning := by
  have before {α : Type} {now : Int} {token : String}
      {body : Session → Participant → Session × Outcome α}
      (known : ∀ participant,
        (body (session.checkAndEnforceTimeout env now) participant).1.state = .CALCULATING →
          (session.checkAndEnforceTimeout env now).state = .CALCULATING)
      (calculating : (session.withParticipant env now token body).1.state = .CALCULATING) :
      session.state = .CALCULATING := by
    obtain same | ⟨participant, -, same⟩ := session.withParticipant_cases env now token body
    · rw [same] at calculating
      exact calculating
    · rw [same] at calculating
      exact checkAndEnforceTimeout_calculating (known participant calculating)
  cases action with
  | joinSession now request =>
    cases record
    rw [join_state] at calculating
    exact .inl (checkAndEnforceTimeout_calculating calculating)
  | acceptPolicy now request =>
    cases record
    exact .inl (before (fun _ later => acceptPolicy_calculating later) calculating)
  | submitInput now request =>
    obtain same | ⟨participant, -, same⟩ := session.withParticipant_cases env now
      request.participantToken (submitInput env now request.participantToken request.inputJson)
    · simp only [call, same, submitted_record, Option.some.injEq] at record
      exact .inl (record ▸ calculating)
    · simp only [call, same, submitted_record, Option.some.injEq] at record ⊢
      rw [← record] at calculating
      obtain waiting | ⟨sessionId, dispatched⟩ := submitInput_calculating calculating
      · exact .inl (checkAndEnforceTimeout_calculating waiting)
      · exact .inr (by simp [submitted, dispatched])
  | getResult now request =>
    cases record
    exact .inl (before (fun _ later => later) calculating)
  | getSessionStatus now request =>
    cases record
    exact .inl (before (fun _ later => later) calculating)
  | _ =>
    cases record
    exact .inl calculating

end Session

theorem Phase.work_calculating {env : Environment} {fresh : Nat → String} {before : Option Session}
    {after : Session} {phase : Phase} {action : Action}
    (record : (phase.work env fresh before action).record = some after)
    (calculating : after.state = .CALCULATING) :
    ∃ session, before = some session ∧ session.state = .CALCULATING := by
  revert record
  fun_cases Phase.work env fresh before phase action
  case case2 what =>
    intro record
    obtain ⟨session, -, rfl⟩ := Option.map_eq_some_iff.mp record
    cases calculating
  case case6 outcome position now =>
    intro record
    obtain ⟨session, held, rfl⟩ := Option.map_eq_some_iff.mp record
    unfold Session.written at calculating
    split_ifs at calculating with waiting
    · exact ⟨session, held, waiting⟩
    · exact absurd calculating waiting
  all_goals exact fun record => ⟨after, record, calculating⟩

namespace System

variable {env : Environment} {system : System}

structure Keeps (before after : System) : Prop where
  kept : ∀ (index : Nat) thread, before.threads[index]? = some thread →
    ∃ later, after.threads[index]? = some later ∧ later.session = thread.session ∧
      (thread.phase.spawned = true → later.phase.spawned = true)

theorem Keeps.refl (system : System) : Keeps system system :=
  ⟨fun _ thread here => ⟨thread, here, rfl, id⟩⟩

theorem Keeps.trans {first second third : System} (one : Keeps first second)
    (two : Keeps second third) : Keeps first third := by
  constructor
  intro index thread here
  obtain ⟨middle, there, session, spawned⟩ := one.kept index thread here
  obtain ⟨last, end_, session', spawned'⟩ := two.kept index middle there
  exact ⟨last, end_, session'.trans session, fun started => spawned' (spawned started)⟩

theorem Keeps.of_threads {before after : System} (same : after.threads = before.threads) :
    Keeps before after := by
  constructor
  intro index thread here
  rw [← same] at here
  exact ⟨thread, here, rfl, id⟩

theorem createSession_threads (now : Int) (request : CreateSessionRequest) :
    (system.step env (.createSession now request)).1.threads = system.threads := by
  unfold step
  split
  next =>
    simp only [perform, createSession]
    split <;> simp [invite]
  next => rfl

theorem step_keeps (fresh : env.NeverRepeats) (reachable : (machine env).Reachable system)
    (action : Action) : Keeps system (system.step env action).1 := by
  cases owner_of_reachable fresh reachable action with
  | call id session resolved stored isolated =>
    constructor
    intro index thread here
    have silent := Action.thread_of_resolves resolved
    have bound : index < system.threads.length := (List.getElem?_eq_some_iff.mp here).1
    refine ⟨thread, ?_, rfl, fun spawned => spawned⟩
    rw [isolated.threads, filed, silent, List.getElem?_append_left bound, here]
  | worker index thread own here isolated =>
    obtain ⟨next, phase, spawned⟩ := Phase.work_spawned env (env.randomHex system.manager.draws)
      (system.manager.sessions.lookup thread.session) thread.phase action
    have threads := isolated.threads
    simp only [filed, own, phase, Option.elim_some] at threads
    constructor
    intro position other there
    rw [threads, List.getElem?_set]
    split_ifs with same within
    · subst same
      cases here.symm.trans there
      exact ⟨_, rfl, rfl, spawned⟩
    · subst same
      exact absurd (List.getElem?_eq_some_iff.mp here).1 within
    · exact ⟨other, there, rfl, id⟩
  | create now request same manager =>
    subst same
    exact .of_threads (createSession_threads now request)
  | nobody same =>
    rw [same]
    exact .refl system

theorem after_keeps (fresh : env.NeverRepeats) (reachable : (machine env).Reachable system)
    (actions : List Action) : Keeps system ((machine env).after system actions) := by
  induction actions generalizing system with
  | nil => exact .refl system
  | cons action rest ih => exact (step_keeps fresh reachable action).trans (ih (reachable.step action))

-- A session that calculates has been dispatched.
def Manned (system : System) : Prop :=
  ∀ id session, system.manager.sessions.lookup id = some session → session.state = .CALCULATING →
    ∃ thread ∈ system.threads, thread.session = id

theorem Keeps.mem {before after : System} (keeps : Keeps before after) {thread : Thread}
    (listed : thread ∈ before.threads) :
    ∃ later ∈ after.threads, later.session = thread.session := by
  obtain ⟨index, here⟩ := List.mem_iff_getElem?.mp listed
  obtain ⟨later, there, session, -⟩ := keeps.kept index thread here
  exact ⟨later, List.mem_of_getElem? there, session⟩

theorem Manned.step (fresh : env.NeverRepeats) (reachable : (machine env).Reachable system)
    (manned : system.Manned) (action : Action) : (system.step env action).1.Manned := by
  have keeps := step_keeps fresh reachable action
  -- It is enough that the session was CALCULATING before, or that its worker is new.
  have carried {id : String} {session : Session}
      (stored : system.manager.sessions.lookup id = some session)
      (calculating : session.state = .CALCULATING) :
      ∃ thread ∈ (system.step env action).1.threads, thread.session = id := by
    obtain ⟨thread, listed, same⟩ := manned id session stored calculating
    obtain ⟨later, kept, session'⟩ := keeps.mem listed
    exact ⟨later, kept, session'.trans same⟩
  intro id session found calculating
  cases owner_of_reachable fresh reachable action with
  | call owner held resolved stored isolated =>
    by_cases same : id = owner
    · subst same
      rw [isolated.record] at found
      obtain before | spawning := Session.call_calculating found calculating
      · exact carried stored before
      · have silent := Action.thread_of_resolves resolved
        refine ⟨⟨id, .spawning⟩, ?_, rfl⟩
        rw [isolated.threads, filed, silent, spawning]
        simp
    · rw [isolated.records id same] at found
      exact carried found calculating
  | worker index thread own here isolated =>
    by_cases same : id = thread.session
    · subst same
      rw [isolated.record] at found
      obtain ⟨held, stored, before⟩ := Phase.work_calculating found calculating
      exact carried stored before
    · rw [isolated.records id same] at found
      exact carried found calculating
  | create now request same manager =>
    rw [manager] at found
    obtain ⟨held, stored, swept⟩ | ⟨policyDef, -, -, rfl⟩ :=
      SessionManager.createSession_origin found
    · obtain rfl := Session.swept_some swept
      exact carried stored (Session.checkAndEnforceTimeout_calculating calculating)
    · cases calculating
  | nobody same =>
    rw [same] at found
    exact carried found calculating

end System

theorem balanced_of_reachable {env : Environment} {system : System}
    (reachable : (machine env).Reachable system) :
    system.manager.activeAsyncThreads = system.outstanding := by
  have balanced : system.balance = 0 :=
    (machine env).reachable_invariant (fun system => system.balance = 0) rfl
      (fun system action holds => (system.step_balance env action).trans holds) system reachable
  unfold System.balance at balanced
  omega

theorem manned_of_reachable {env : Environment} (fresh : env.NeverRepeats) {system : System}
    (reachable : (machine env).Reachable system) : system.Manned := by
  have both := (machine env).reachable_invariant
    (fun system => (machine env).Reachable system ∧ system.Manned)
    ⟨⟨[], rfl⟩, fun id session stored => by simp [machine] at stored⟩
    (fun system action holds => ⟨holds.1.step action, holds.2.step fresh holds.1 action⟩)
    system reachable
  exact both.2

-- The worker of a session that calculates has not taken its last lock.
theorem Phase.Fits.outstanding {env : Environment} {generations : List Generation}
    {session : Session} {phase : Phase} (fits : phase.Fits env generations session)
    (calculating : session.state = .CALCULATING) : phase.outstanding = true := by
  cases phase with
  | finished => simp [Phase.Fits, SessionState.Terminal, calculating] at fits
  | _ => rfl

namespace System

variable {env : Environment} {system : System}

theorem finished_of_released (released : system.outstanding = 0) {thread : Thread}
    (listed : thread ∈ system.threads) : thread.phase = .finished := by
  have idle := List.countP_eq_zero.mp released thread listed
  cases phase : thread.phase with
  | finished => rfl
  | _ => simp [phase, Phase.outstanding] at idle

theorem step_released (released : system.outstanding = 0) {action : Action}
    (work : action.thread ≠ none) : (system.step env action).1 = system := by
  have idle (index : Nat) : (system.onThread env index action).1 = system := by
    unfold onThread
    split
    next => rfl
    next thread here =>
      have finished := finished_of_released released (List.mem_of_getElem? here)
      cases action <;> simp [threadStep, finished]
  unfold step
  split
  next => cases action <;> first | exact idle _ | exact absurd rfl work
  next => rfl

theorem after_released (released : system.outstanding = 0) (actions : List Action)
    (work : ∀ action ∈ actions, action.thread ≠ none) :
    (machine env).after system actions = system := by
  induction actions with
  | nil => rfl
  | cons action rest ih =>
    obtain ⟨first, others⟩ := List.forall_mem_cons.mp work
    have same : ((machine env).step system action).1 = system := step_released released first
    rw [Machine.after_cons, same]
    exact ih others

end System

structure OneWorkerEach (env : Environment) (system : System) : Prop where
  once : (system.threads.map (·.session)).Nodup
  kept : ∀ actions, system.Keeps ((machine env).after system actions)
  manned : ∀ id session, system.manager.sessions.lookup id = some session →
    session.state = .CALCULATING →
      ∃! index : Nat, ∃ thread, system.threads[index]? = some thread ∧ thread.session = id ∧
        thread.phase.outstanding = true
  counted : system.manager.activeAsyncThreads = system.outstanding
  -- The destructor waits while the counter is positive.
  released : ¬ system.manager.activeAsyncThreads > 0 →
    ∀ actions, (∀ action ∈ actions, action.thread ≠ none) →
      (machine env).after system actions = system

/-- Exactly one worker for each session that calculates, and none left once the counter is zero. -/
theorem one_worker_each_of_reachable (env : Environment) (fresh : env.NeverRepeats) (system : System)
    (reachable : (machine env).Reachable system) : OneWorkerEach env system := by
  have workers := workers_of_reachable fresh reachable
  have counted := balanced_of_reachable reachable
  constructor
  · exact workers.distinct
  · exact System.after_keeps fresh reachable
  · intro id session stored calculating
    obtain ⟨thread, listed, rfl⟩ := manned_of_reachable fresh reachable id session stored calculating
    obtain ⟨index, here⟩ := List.mem_iff_getElem?.mp listed
    have outstanding := (workers.fits thread listed session stored).outstanding calculating
    refine ⟨index, ⟨thread, here, rfl, outstanding⟩, ?_⟩
    rintro position ⟨other, there, same, -⟩
    have one : (system.threads.map (·.session))[position]? = some thread.session := by
      simp [there, same]
    have two : (system.threads.map (·.session))[index]? = some thread.session := by simp [here]
    obtain ⟨bound, -⟩ := List.getElem?_eq_some_iff.mp one
    exact (List.getElem?_inj bound workers.distinct).mp (one.trans two.symm)
  · exact counted
  · intro stopped actions work
    refine System.after_released ?_ actions work
    omega

theorem calendar_one_worker :
    ∃ system, system = (machine calendarEnv).after (machine calendarEnv).initial calendarSubmissions ∧
      (system.manager.sessions.lookup "a").map Session.state = some .CALCULATING ∧
      system.manager.activeAsyncThreads = 1 ∧ OneWorkerEach calendarEnv system :=
  ⟨_, rfl, by decide +kernel, by decide +kernel, one_worker_each_of_reachable calendarEnv
    (countingEnv_neverRepeats _) _ ⟨_, rfl⟩⟩

end Ztab
