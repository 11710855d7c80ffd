import Ztab.Session.Deadlines

set_option autoImplicit false

/-!
# Retention

The sweep counts the retention period from `state_entered_at`, so an outcome stays for the
whole period if every step that changes a session's state also stamps it. The handler of a
failed spawn does not.
-/

namespace Ztab

namespace Session

variable {env : Environment} {now : Int} {session : Session}

def Stamped (time : Int) (before after : Session) : Prop :=
  (after.state = before.state ∧ after.stateEnteredAt = before.stateEnteredAt) ∨
    (after.state ≠ before.state ∧ after.stateEnteredAt = time)

def Lasting (session : Session) : Prop :=
  session.state = .CLOSED ∨
    (session.state = .ABORTED ∧ session.errorCode ≠ .JOIN_TIMEOUT ∧
      session.errorCode ≠ .INPUT_TIMEOUT)

theorem Stamped.refl (time : Int) (session : Session) : session.Stamped time session :=
  .inl ⟨rfl, rfl⟩

theorem checkAndEnforceTimeout_stamped (env : Environment) (now : Int) (session : Session) :
    session.Stamped now (session.checkAndEnforceTimeout env now) := by
  unfold checkAndEnforceTimeout
  split
  next due =>
    right
    refine ⟨?_, rfl⟩
    intro same
    apply due.1
    rw [← same]
    exact .inr rfl
  next => exact .refl now session

theorem acceptPolicy_stamped (env : Environment) (now : Int) (token : String) (session : Session)
    (participant : Participant) :
    session.Stamped now
      ((session.checkAndEnforceTimeout env now).acceptPolicy now token participant).1 := by
  have checked := session.checkAndEnforceTimeout_stamped env now
  unfold acceptPolicy
  split_ifs with already closed
  · exact checked
  · exact checked
  · have waiting : (session.checkAndEnforceTimeout env now).state = .OPEN := not_not.mp closed
    have same := checkAndEnforceTimeout_of_not_aborted env now session (by simp [waiting])
    rw [same] at waiting ⊢
    simp only
    split_ifs
    · right
      simp [sealed, waiting]
    · left
      simp [markAccepted]

theorem submitInput_stamped (env : Environment) (now : Int) (token inputJson : String)
    (session : Session) (participant : Participant) :
    session.Stamped now
      ((session.checkAndEnforceTimeout env now).submitInput env now token inputJson participant).1 := by
  have checked := session.checkAndEnforceTimeout_stamped env now
  unfold submitInput
  split_ifs with closed submitted
  · rw [retryInput_fst]
    exact checked
  · exact checked
  · rw [retryInput_fst]
    exact checked
  · have waiting : (session.checkAndEnforceTimeout env now).state = .SEALED := not_not.mp closed
    have same := checkAndEnforceTimeout_of_not_aborted env now session (by simp [waiting])
    rw [same] at waiting ⊢
    split
    next => exact .refl now session
    next canonical admitted =>
      simp only
      split_ifs
      · right
        simp [calculating, waiting]
      · left
        simp [answer, storeInput]

theorem join_stamped (env : Environment) (now : Int) (token clientNonce : String)
    (session : Session) :
    session.Stamped now ((session.checkAndEnforceTimeout env now).join token clientNonce).1 := by
  have checked := session.checkAndEnforceTimeout_stamped env now
  unfold join
  split
  next => exact checked
  next => exact checked
  next =>
    split_ifs
    · exact checked
    · exact checked

theorem withParticipant_stamped {α : Type} {body : Session → Participant → Session × Outcome α}
    (stamped : ∀ participant,
      session.Stamped now (body (session.checkAndEnforceTimeout env now) participant).1)
    (token : String) : session.Stamped now (session.withParticipant env now token body).1 := by
  obtain same | ⟨participant, -, same⟩ := session.withParticipant_cases env now token body
  · rw [same]
    exact .refl now session
  · rw [same]
    exact stamped participant

theorem call_stamped {action : Action} (clock : action.clock = some now) (fresh : Nat → String)
    {after : Session} (record : (session.call env fresh action).record = some after) :
    session.Stamped now after := by
  have checked := session.checkAndEnforceTimeout_stamped env now
  cases action with
  | joinSession time request =>
    cases clock
    cases record
    exact session.join_stamped env now _ _
  | acceptPolicy time request =>
    cases clock
    cases record
    exact withParticipant_stamped (acceptPolicy_stamped env now _ session) _
  | submitInput time request =>
    cases clock
    rw [call, submitted_record] at record
    cases record
    exact withParticipant_stamped (submitInput_stamped env now _ _ session) _
  | getResult time request =>
    cases clock
    cases record
    exact withParticipant_stamped (fun _ => checked) _
  | getSessionStatus time request =>
    cases clock
    cases record
    exact withParticipant_stamped (fun _ => checked) _
  | _ =>
    cases record
    exact .refl now session

theorem abortSpawn_stamped_iff (session : Session) (time : Int) (what : String) :
    session.Stamped time (session.abortSpawn what) ↔
      session.state = .ABORTED ∨ session.stateEnteredAt = time := by
  unfold Stamped abortSpawn
  by_cases aborted : session.state = .ABORTED
  next => simp [aborted]
  next => simp [aborted, Ne.symm aborted]

theorem written_stamped (now : Int) (outcome : Except Status Bytes) (session : Session) :
    session.Stamped now (session.written now outcome) := by
  unfold written
  split_ifs with waiting
  · right
    cases outcome <;> simp [writeOutcome, waiting]
  · exact .refl now session

end Session

/-- A spawn that fails finds its session aborted already, or dispatched at this very time. -/
def System.FailsAtOnce (system : System) (moment : Moment) : Prop :=
  ∀ index what thread session, moment.action = .spawnFails index what → system.alive = true →
    system.threads[index]? = some thread → thread.phase = .spawning →
      system.manager.sessions.lookup thread.session = some session →
        session.state = .ABORTED ∨ session.stateEnteredAt = moment.time

theorem Phase.work_stamped {env : Environment} {fresh : Nat → String} {before : Option Session}
    {after : Session} {phase : Phase} {action : Action} {time : Int}
    (read : ∀ now, action.clock = some now → now = time)
    (atOnce : ∀ index what session, action = .spawnFails index what → phase = .spawning →
      before = some session → session.state = .ABORTED ∨ session.stateEnteredAt = time)
    (record : (phase.work env fresh before action).record = some after) :
    ∃ session, before = some session ∧ session.Stamped time after := by
  revert record
  fun_cases Phase.work env fresh before phase action
  case case2 index what =>
    intro record
    obtain ⟨session, held, rfl⟩ := Option.map_eq_some_iff.mp record
    have within := atOnce index what session rfl rfl held
    exact ⟨session, held, (session.abortSpawn_stamped_iff time what).mpr within⟩
  case case6 outcome position now =>
    intro record
    obtain ⟨session, held, rfl⟩ := Option.map_eq_some_iff.mp record
    cases read now rfl
    exact ⟨session, held, session.written_stamped _ outcome⟩
  all_goals exact fun record => ⟨after, record, .refl time after⟩

section Steps

variable {env : Environment} {system : System} {moment : Moment} {id : String}

theorem stamped_step (fresh : env.NeverRepeats) (reachable : (machine env).Reachable system)
    (read : moment.Read) (atOnce : system.FailsAtOnce moment) {after : Session}
    (found : (system.step env moment.action).1.manager.sessions.lookup id = some after) :
    (∃ before, system.manager.sessions.lookup id = some before ∧
        before.Stamped moment.time after) ∨
      (system.manager.sessions.lookup id = none ∧ after.stateEnteredAt = moment.time) := by
  have unchanged {next : Option Session} (same : next = system.manager.sessions.lookup id)
      (is : next = some after) : ∃ before, system.manager.sessions.lookup id = some before ∧
        before.Stamped moment.time after :=
    ⟨after, same.symm.trans is, .refl _ after⟩
  cases owner_of_reachable fresh reachable moment.action with
  | call owner session resolved stored isolated =>
    by_cases same : id = owner
    · subst same
      rw [isolated.record] at found
      exact .inl ⟨session, stored, Session.call_stamped (read.clock resolved) _ found⟩
    · exact .inl (unchanged (isolated.records id same) found)
  | worker index thread own here isolated =>
    by_cases same : id = thread.session
    · subst same
      by_cases running : system.alive = true
      · rw [isolated.record] at found
        refine .inl (Phase.work_stamped read ?_ found)
        intro position what session failed phase stored
        rw [failed] at own
        cases own
        exact atOnce index what thread session failed running here phase stored
      · have idle : (system.step env moment.action).1 = system := by simp [System.step, running]
        rw [idle] at found
        exact .inl (unchanged rfl found)
    · exact .inl (unchanged (isolated.records id same) found)
  | create now request same manager =>
    have reading : now = moment.time := read now (by rw [same]; rfl)
    rw [manager] at found
    obtain ⟨held, stored, swept⟩ | ⟨policyDef, -, named, rfl⟩ :=
      SessionManager.createSession_origin found
    · obtain rfl := Session.swept_some swept
      exact .inl ⟨held, stored, reading ▸ held.checkAndEnforceTimeout_stamped env now⟩
    · refine .inr ⟨?_, reading⟩
      by_contra present
      obtain ⟨session, stored⟩ := Option.ne_none_iff_exists'.mp present
      have drawn := (sound_of_reachable fresh reachable).idsDrawn id session stored
      exact drawn.ne_next fresh le_rfl _ named
  | nobody same =>
    rw [same] at found
    exact .inl (unchanged rfl found)

theorem Session.Lasting.terminal {session : Session} (lasting : session.Lasting) :
    session.state.Terminal := by
  rcases lasting with closed | ⟨aborted, -⟩
  · exact .inl closed
  · exact .inr aborted

-- Not even a failed spawn moves the stamp of an outcome, and a sweep in time keeps it.
theorem lasting_step (fresh : env.NeverRepeats) (reachable : (machine env).Reachable system)
    (read : moment.Read) {before : Session}
    (stored : system.manager.sessions.lookup id = some before) (lasting : before.Lasting)
    (early : moment.action.creates = true →
      moment.time ≤ before.stateEnteredAt + seconds env.options.terminalRetentionSeconds) :
    ∃ after, (system.step env moment.action).1.manager.sessions.lookup id = some after ∧
      after.Lasting ∧ after.stateEnteredAt = before.stateEnteredAt := by
  have terminal := lasting.terminal
  have unchanged {next : Option Session} (same : next = some before) : ∃ after, next = some after ∧
      after.Lasting ∧ after.stateEnteredAt = before.stateEnteredAt :=
    ⟨before, same, lasting, rfl⟩
  cases owner_of_reachable fresh reachable moment.action with
  | call owner session resolved held isolated =>
    by_cases same : id = owner
    · subst same
      cases held.symm.trans stored
      rw [isolated.record]
      obtain ⟨kept | checked, -⟩ := Session.call_over (.inl terminal) (read.clock resolved)
        (env.randomHex system.manager.draws)
      · exact unchanged kept
      · rw [Session.checkAndEnforceTimeout_of_terminal env _ terminal] at checked
        exact unchanged checked
    · exact unchanged ((isolated.records id same).trans stored)
  | worker index thread own here isolated =>
    by_cases same : id = thread.session
    · subst same
      rw [isolated.record, stored]
      fun_cases Phase.work env (env.randomHex system.manager.draws) (some before) thread.phase
        moment.action
      case case2 what =>
        exact ⟨_, rfl, .inr ⟨rfl, by simp [Session.abortSpawn], by simp [Session.abortSpawn]⟩, rfl⟩
      case case6 outcome position now =>
        have ended : before.state ≠ .CALCULATING := terminal.ne (by decide)
        exact unchanged (by simp [Session.written, ended])
      all_goals exact unchanged rfl
    · exact unchanged ((isolated.records id same).trans stored)
  | create now request same manager =>
    have reading : now = moment.time := read now (by rw [same]; rfl)
    have within := early (by rw [same]; rfl)
    have kept : ¬ before.ShouldErase env now := by
      rintro ⟨-, ⟨aborted, hasty⟩ | late⟩
      · rcases lasting with closed | ⟨-, notJoin, notInput⟩
        · rw [closed] at aborted
          cases aborted
        · exact hasty.elim notJoin notInput
      · omega
    rw [manager, createSession_swept fresh (sound_of_reachable fresh reachable) now request stored]
    unfold Session.swept
    rw [Session.checkAndEnforceTimeout_of_terminal env now terminal, if_neg kept]
    exact unchanged rfl
  | nobody same =>
    rw [same]
    exact unchanged stored

end Steps

def System.stateOf (system : System) (id : String) : Option SessionState :=
  (system.manager.sessions.lookup id).map Session.state

def enteredAt (env : Environment) (id : String) (system : System) (since : Option Int) :
    List Moment → Option Int
  | [] => since
  | moment :: rest =>
    let after := (system.step env moment.action).1
    enteredAt env id after
      (if after.stateOf id = system.stateOf id then since else some moment.time) rest

theorem enteredAt_append (env : Environment) (id : String) (system : System) (since : Option Int)
    (first second : List Moment) :
    enteredAt env id system since (first ++ second) =
      enteredAt env id ((timedMachine env).after system first)
        (enteredAt env id system since first) second := by
  induction first generalizing system since with
  | nil => rfl
  | cons moment rest ih => exact ih _ _

/-- Outcomes stay for the retention period, and every stamp is the time of the step that put its
session into the state it is in. -/
structure OutcomesRetained (env : Environment) (run : List Moment) : Prop where
  stamped : ∀ earlier later, run = earlier ++ later → ∀ id session,
    ((timedMachine env).after (timedMachine env).initial earlier).manager.sessions.lookup id =
      some session →
    enteredAt env id (timedMachine env).initial none earlier = some session.stateEnteredAt
  -- The session ends at the time of `moment`, and `between` sweeps within the period only.
  retained : ∀ earlier moment between later, run = earlier ++ moment :: (between ++ later) →
    ∀ before, before = (timedMachine env).after (timedMachine env).initial earlier →
      ∀ id session, (before.step env moment.action).1.manager.sessions.lookup id = some session →
        before.stateOf id ≠ some session.state → session.Lasting →
          (∀ sweep ∈ between, sweep.action.creates = true →
            sweep.time ≤ moment.time + seconds env.options.terminalRetentionSeconds) →
              ∃ kept, ((timedMachine env).after (before.step env moment.action).1
                between).manager.sessions.lookup id = some kept

section Runs

variable {env : Environment} {id : String}

theorem stamped_after (fresh : env.NeverRepeats) {system : System}
    (reachable : (machine env).Reachable system) {since : Option Int} (run : List Moment)
    (read : ∀ moment ∈ run, moment.Read)
    (atOnce : (timedMachine env).Allowed System.FailsAtOnce system run)
    (holds : ∀ session, system.manager.sessions.lookup id = some session →
      since = some session.stateEnteredAt) {session : Session}
    (found : ((timedMachine env).after system run).manager.sessions.lookup id = some session) :
    enteredAt env id system since run = some session.stateEnteredAt := by
  induction run generalizing system since with
  | nil => exact holds session found
  | cons moment rest ih =>
    refine ih (reachable.step moment.action)
      (fun other listed => read other (List.mem_cons_of_mem _ listed)) atOnce.2 ?_ found
    intro after (stored : (system.step env moment.action).1.manager.sessions.lookup id = some after)
    obtain ⟨before, held, same | changed⟩ | ⟨missing, stamped⟩ :=
      stamped_step fresh reachable (read moment List.mem_cons_self) atOnce.1 stored
    · have unmoved : (system.step env moment.action).1.stateOf id = system.stateOf id := by
        simp [System.stateOf, stored, held, same.1]
      rw [if_pos unmoved, same.2]
      exact holds before held
    · have moved : (system.step env moment.action).1.stateOf id ≠ system.stateOf id := by
        simp [System.stateOf, stored, held, changed.1]
      rw [if_neg moved, changed.2]
    · have moved : (system.step env moment.action).1.stateOf id ≠ system.stateOf id := by
        simp [System.stateOf, stored, missing]
      rw [if_neg moved, stamped]

theorem lasting_after (fresh : env.NeverRepeats) {system : System}
    (reachable : (machine env).Reachable system) (run : List Moment)
    (read : ∀ moment ∈ run, moment.Read) {session : Session}
    (stored : system.manager.sessions.lookup id = some session) (lasting : session.Lasting)
    (early : ∀ sweep ∈ run, sweep.action.creates = true →
      sweep.time ≤ session.stateEnteredAt + seconds env.options.terminalRetentionSeconds) :
    ∃ kept, ((timedMachine env).after system run).manager.sessions.lookup id = some kept := by
  induction run generalizing system session with
  | nil => exact ⟨session, stored⟩
  | cons moment rest ih =>
    obtain ⟨after, found, still, stamp⟩ := lasting_step fresh reachable
      (read moment List.mem_cons_self) stored lasting (early moment List.mem_cons_self)
    apply ih (reachable.step moment.action) _ found still
    · intro sweep listed sweeps
      rw [stamp]
      exact early sweep (List.mem_cons_of_mem _ listed) sweeps
    · exact fun other listed => read other (List.mem_cons_of_mem _ listed)

theorem spawnFails_record (fresh : env.NeverRepeats) {system : System}
    (reachable : (machine env).Reachable system) (running : system.alive = true) {index : Nat}
    (what : String) {thread : Thread} {session : Session}
    (here : system.threads[index]? = some thread) (phase : thread.phase = .spawning)
    (stored : system.manager.sessions.lookup thread.session = some session) :
    (system.step env (.spawnFails index what)).1.manager.sessions.lookup thread.session =
      some (session.abortSpawn what) := by
  rw [((isolated_of_running fresh reachable running).workers _ index thread rfl here).record, phase,
    stored]
  rfl

/-- Outcomes are retained exactly in the runs in which no spawn fails late. -/
theorem outcomes_retained_iff (env : Environment) (fresh : env.NeverRepeats) (run : List Moment)
    (read : ∀ moment ∈ run, moment.Read) :
    OutcomesRetained env run ↔
      (timedMachine env).Allowed System.FailsAtOnce (timedMachine env).initial run := by
  constructor
  · intro retained
    rw [Machine.allowed_iff_splits]
    rintro earlier moment later rfl index what thread session failed running here phase stored
    have reachable := timed_reachable env earlier
    have before := retained.stamped earlier (moment :: later) rfl _ session stored
    have found := spawnFails_record fresh reachable running what here phase stored
    rw [← failed] at found
    have after := retained.stamped (earlier ++ [moment]) later (by simp) thread.session _
      (by rw [Machine.after_append]; exact found)
    by_cases aborted : session.state = .ABORTED
    next => exact .inl aborted
    next =>
      have moved : (((timedMachine env).after (timedMachine env).initial earlier).step env
          moment.action).1.stateOf thread.session ≠
            ((timedMachine env).after (timedMachine env).initial earlier).stateOf thread.session := by
        simp only [System.stateOf, found, stored, Option.map_some]
        simpa [Session.abortSpawn] using Ne.symm aborted
      rw [enteredAt_append, before, enteredAt, enteredAt, if_neg moved] at after
      exact .inr (Option.some.inj after).symm
  · intro atOnce
    constructor
    · rintro earlier later rfl id session stored
      exact stamped_after fresh ⟨[], rfl⟩ earlier
        (fun moment listed => read moment (List.mem_append_left _ listed))
        (((timedMachine env).allowed_append _ _ _).mp atOnce).1 (by simp [machine]) stored
    · rintro earlier moment between later rfl before rfl id session found entered lasting early
      have reachable := timed_reachable env earlier
      have here := (((timedMachine env).allowed_append _ _ _).mp atOnce).2.1
      have stamp : session.stateEnteredAt = moment.time := by
        obtain ⟨held, stored, same | changed⟩ | ⟨-, stamped⟩ :=
          stamped_step fresh reachable (read moment (by simp)) here found
        · refine absurd ?_ entered
          simp [System.stateOf, stored, same.1]
        · exact changed.2
        · exact stamped
      apply lasting_after fresh (reachable.step moment.action) between _ found lasting
      · rw [stamp]
        exact early
      · exact fun other listed => read other (by simp [listed])

end Runs

-- The spawn fails at `failed`; another session is created at `swept`.
def calendarFailure (failed swept : Int) : List Moment :=
  calendarSubmissions.map (Moment.mk 0) ++
    [⟨failed, .spawnFails 0 "busy"⟩,
      ⟨swept, .createSession swept
        { policy := { policyClass := "calendar", expectedParticipants := 2 } }⟩]

def calendarDispatched : System :=
  (timedMachine calendarEnv).after (timedMachine calendarEnv).initial
    (calendarSubmissions.map (Moment.mk 0))

theorem calendarFailure_read (failed swept : Int) :
    ∀ moment ∈ calendarFailure failed swept, moment.Read := by
  simp [calendarFailure, calendarSubmissions, Moment.Read, Action.clock]

theorem failsAtOnce_of_other {system : System} {moment : Moment}
    (other : ∀ index what, moment.action ≠ .spawnFails index what) : system.FailsAtOnce moment := by
  intro index what thread session failed
  exact absurd failed (other index what)

theorem calendar_outcomes_retained :
    OutcomesRetained calendarEnv (calendarFailure 0 (seconds 3600)) := by
  rw [outcomes_retained_iff calendarEnv (countingEnv_neverRepeats _) _
    (calendarFailure_read 0 (seconds 3600))]
  refine ((timedMachine calendarEnv).allowed_append _ _ _).mpr ⟨?_, ?_, ?_, trivial⟩
  · refine ⟨?_, ?_, ?_, ?_, ?_, trivial⟩
    all_goals exact failsAtOnce_of_other (by simp)
  · have dispatched : calendarDispatched.threads.map Thread.session = ["a"] ∧
        (calendarDispatched.manager.sessions.lookup "a").map Session.stateEnteredAt = some 0 := by
      decide +kernel
    intro index what thread session failed _ here _ stored
    cases failed
    have named : thread.session = "a" := by
      have first := congrArg (·[0]?) dispatched.1
      simpa [show calendarDispatched.threads[0]? = some thread from here] using first
    rw [named] at stored
    rw [show calendarDispatched.manager.sessions.lookup "a" = some session from stored] at dispatched
    right
    simpa using dispatched.2
  · exact failsAtOnce_of_other (by simp)

/-- A session aborted a second after its dispatch is erased within an hour of that: it was
stamped by the dispatch. -/
theorem late_spawn_failure_erased :
    Timed (calendarFailure (seconds 1) (seconds 3601)) ∧
      ¬ OutcomesRetained calendarEnv (calendarFailure (seconds 1) (seconds 3601)) := by
  have failed : ((calendarDispatched.step calendarEnv
      (.spawnFails 0 "busy")).1.manager.sessions.lookup "a").map
        (fun session => (session.state, session.errorCode)) =
          some (.ABORTED, .SESSION_ERROR_UNSPECIFIED) := by decide +kernel
  have waiting : calendarDispatched.stateOf "a" = some .CALCULATING := by decide +kernel
  have erased : ((timedMachine calendarEnv).after
      (calendarDispatched.step calendarEnv (.spawnFails 0 "busy")).1
        ((calendarFailure (seconds 1) (seconds 3601)).drop 6)).manager.sessions.lookup "a" = none := by
    rw [← Option.not_isSome_iff_eq_none]
    decide +kernel
  refine ⟨⟨calendarFailure_read _ _, ?_⟩, ?_⟩
  · simp [calendarFailure, calendarSubmissions, seconds]
  intro hold
  obtain ⟨session, found, ended⟩ := Option.map_eq_some_iff.mp failed
  simp only [Prod.mk.injEq] at ended
  obtain ⟨kept, still⟩ := hold.retained (calendarSubmissions.map (Moment.mk 0)) _
    ((calendarFailure (seconds 1) (seconds 3601)).drop 6) [] rfl calendarDispatched rfl "a" session
    found (by simp [waiting, ended.1]) (.inr ⟨ended.1, by simp [ended.2], by simp [ended.2]⟩)
    (by simp [calendarFailure, calendarSubmissions]; decide)
  rw [erased] at still
  cases still

end Ztab
