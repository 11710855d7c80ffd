import Ztab.Session.Completion
import Ztab.Session.Retention

set_option autoImplicit false

/-!
# Reclamation

Only CreateSession sweeps. A session that is stored, in whatever state, is out of the store after
two of its sweeps: one once every cap of the session has elapsed, and one a retention period later.
Whatever else is called in between cannot prolong it.
-/

namespace Ztab

namespace Session

/-- The last time at which a session that waits is within its caps, if it uses up each of them. -/
def expiry (env : Environment) (session : Session) : Int :=
  match session.state with
  | .OPEN => session.stateEnteredAt + min session.timeout (seconds kMaxOpenSeconds) +
      min session.timeout (seconds kMaxSealedSeconds) +
      max 0 (seconds env.options.maxCalculatingSeconds)
  | .SEALED => session.stateEnteredAt + min session.timeout (seconds kMaxSealedSeconds) +
      max 0 (seconds env.options.maxCalculatingSeconds)
  | .CALCULATING => session.stateEnteredAt + max 0 (seconds env.options.maxCalculatingSeconds)
  | .CLOSED | .ABORTED => session.stateEnteredAt

def Ended (time : Int) (session : Session) : Prop :=
  session.state.Terminal ∧ session.stateEnteredAt ≤ time

structure Expires (env : Environment) (time : Int) (session : Session) : Prop where
  patient : 0 ≤ session.timeout
  ended : session.state.Terminal → session.stateEnteredAt ≤ time
  waiting : ¬ session.state.Terminal → session.expiry env < time

variable {env : Environment} {now time : Int} {session after : Session}

theorem expiry_of_terminal (terminal : session.state.Terminal) :
    session.expiry env = session.stateEnteredAt := by
  rcases terminal with closed | aborted
  · simp [expiry, closed]
  · simp [expiry, aborted]

theorem Expires.of_expiry (patient : 0 ≤ session.timeout) (past : session.expiry env < time) :
    session.Expires env time := by
  refine ⟨patient, ?_, fun _ => past⟩
  intro terminal
  rw [expiry_of_terminal terminal] at past
  exact past.le

theorem Ended.expires (ended : session.Ended time) (patient : 0 ≤ session.timeout) :
    session.Expires env time :=
  ⟨patient, fun _ => ended.2, fun waiting => absurd ended.1 waiting⟩

theorem Expires.congr (expires : session.Expires env time) (state : after.state = session.state)
    (entered : after.stateEnteredAt = session.stateEnteredAt)
    (timeout : after.timeout = session.timeout) : after.Expires env time := by
  obtain ⟨patient, ended, waiting⟩ := expires
  refine ⟨by rwa [timeout], by rwa [state, entered], ?_⟩
  have expiry : after.expiry env = session.expiry env := by
    simp only [Session.expiry, state, entered, timeout]
  rwa [state, expiry]

-- The caps that are left cover the cap of the present state.
theorem Expires.timedOut (expires : session.Expires env time) (waiting : ¬ session.state.Terminal) :
    session.TimedOut env time := by
  refine ⟨waiting, ?_⟩
  have patient := expires.patient
  have past := expires.waiting waiting
  have cap : 0 ≤ min session.timeout (seconds kMaxSealedSeconds) :=
    le_min patient (by decide)
  cases state : session.state with
  | CLOSED => exact absurd (.inl state) waiting
  | ABORTED => exact absurd (.inr state) waiting
  | _ =>
    simp only [expiry, state] at past
    simp only [effectiveTimeout, state]
    omega

theorem Expires.entered (expires : session.Expires env time) : session.stateEnteredAt ≤ time := by
  by_cases terminal : session.state.Terminal
  · exact expires.ended terminal
  · have patient := expires.patient
    have past := expires.waiting terminal
    have opened : 0 ≤ min session.timeout (seconds kMaxOpenSeconds) := le_min patient (by decide)
    have sealed : 0 ≤ min session.timeout (seconds kMaxSealedSeconds) := le_min patient (by decide)
    unfold expiry at past
    split at past <;> omega

theorem Expires.checked (expires : session.Expires env time) (early : now ≤ time) :
    (session.checkAndEnforceTimeout env now).Expires env time := by
  by_cases due : session.TimedOut env now
  · rw [checkAndEnforceTimeout_of_due due]
    exact Ended.expires ⟨.inr rfl, early⟩ expires.patient
  · simpa [checkAndEnforceTimeout, due] using expires

-- At that time the check leaves nothing but ended sessions.
theorem Expires.settles (expires : session.Expires env time) :
    (session.checkAndEnforceTimeout env time).Ended time := by
  by_cases terminal : session.state.Terminal
  · rw [checkAndEnforceTimeout_of_terminal env time terminal]
    exact ⟨terminal, expires.ended terminal⟩
  · rw [checkAndEnforceTimeout_of_due (expires.timedOut terminal)]
    exact ⟨.inr rfl, le_rfl⟩

theorem not_timedOut_checked (env : Environment) (now : Int) (session : Session) :
    ¬ (session.checkAndEnforceTimeout env now).TimedOut env now := by
  unfold checkAndEnforceTimeout
  split_ifs with due
  · exact fun again => again.1 (.inr rfl)
  · exact due

theorem within_cap (session : Session) (timely : ¬ session.TimedOut env now)
    (waiting : ¬ session.state.Terminal) :
    now - session.stateEnteredAt ≤ session.effectiveTimeout env := by
  by_contra late
  exact timely ⟨waiting, not_le.mp late⟩

-- A state left in time leaves the caps after it.
theorem Expires.remaining (expires : session.Expires env time) (timely : ¬ session.TimedOut env now)
    (waiting : ¬ session.state.Terminal) :
    now + session.expiry env < time + session.stateEnteredAt + session.effectiveTimeout env := by
  have past := expires.waiting waiting
  have within := session.within_cap timely waiting
  omega

theorem Expires.sealed (expires : session.Expires env time) (waiting : session.state = .OPEN)
    (timely : ¬ session.TimedOut env now) : (session.sealed now).Expires env time := by
  have remaining := expires.remaining timely (by rw [waiting]; decide)
  have next : ¬ SessionState.SEALED.Terminal := by decide
  refine ⟨expires.patient, fun terminal => absurd terminal next, fun _ => ?_⟩
  simp only [expiry, effectiveTimeout, waiting] at remaining
  simp only [expiry, Session.sealed]
  omega

theorem Expires.calculating (expires : session.Expires env time) (waiting : session.state = .SEALED)
    (timely : ¬ session.TimedOut env now) : (session.calculating now).Expires env time := by
  have remaining := expires.remaining timely (by rw [waiting]; decide)
  have next : ¬ SessionState.CALCULATING.Terminal := by decide
  refine ⟨expires.patient, fun terminal => absurd terminal next, fun _ => ?_⟩
  simp only [expiry, effectiveTimeout, waiting] at remaining
  simp only [expiry, Session.calculating]
  omega

theorem Expires.acceptPolicy (expires : session.Expires env time)
    (timely : ¬ session.TimedOut env now) (token : String) (participant : Participant) :
    (session.acceptPolicy now token participant).1.Expires env time := by
  unfold Session.acceptPolicy
  split_ifs with already closed
  · exact expires
  · exact expires
  · have marked : (session.markAccepted token participant).Expires env time :=
      expires.congr rfl rfl rfl
    simp only
    split_ifs
    · exact marked.sealed (not_not.mp closed) timely
    · exact marked

theorem Expires.submitInput (expires : session.Expires env time)
    (timely : ¬ session.TimedOut env now) (token inputJson : String) (participant : Participant) :
    (session.submitInput env now token inputJson participant).1.Expires env time := by
  unfold Session.submitInput
  split_ifs with closed submitted
  · rw [retryInput_fst]
    exact expires
  · exact expires
  · rw [retryInput_fst]
    exact expires
  · split
    next => exact expires
    next canonical admitted =>
      have stored : (session.storeInput token participant canonical).Expires env time :=
        expires.congr rfl rfl rfl
      simp only
      split_ifs
      · exact stored.calculating (not_not.mp closed) timely
      · exact stored

theorem Expires.join (expires : session.Expires env time) (token clientNonce : String) :
    (session.join token clientNonce).1.Expires env time := by
  unfold Session.join
  split
  next => exact expires
  next => exact expires
  next =>
    split_ifs
    · exact expires.congr rfl rfl rfl
    · exact expires

theorem withParticipant_expires {α : Type} {body : Session → Participant → Session × Outcome α}
    (expires : session.Expires env time)
    (kept : ∀ participant,
      (body (session.checkAndEnforceTimeout env now) participant).1.Expires env time)
    (token : String) : (session.withParticipant env now token body).1.Expires env time := by
  obtain same | ⟨participant, -, same⟩ := session.withParticipant_cases env now token body
  · rw [same]
    exact expires
  · rw [same]
    exact kept participant

theorem Expires.call (expires : session.Expires env time) (early : now ≤ time) {action : Action}
    (clock : action.clock = some now) (fresh : Nat → String)
    (record : (session.call env fresh action).record = some after) : after.Expires env time := by
  have checked := expires.checked early
  have timely := session.not_timedOut_checked env now
  cases action with
  | joinSession _ request =>
    cases clock
    cases record
    exact checked.join _ _
  | acceptPolicy _ request =>
    cases clock
    cases record
    exact withParticipant_expires expires (checked.acceptPolicy timely _) _
  | submitInput _ request =>
    cases clock
    rw [Session.call, submitted_record] at record
    cases record
    exact withParticipant_expires expires (checked.submitInput timely _ _) _
  | getResult _ request =>
    cases clock
    cases record
    exact withParticipant_expires expires (fun _ => checked) _
  | getSessionStatus _ request =>
    cases clock
    cases record
    exact withParticipant_expires expires (fun _ => checked) _
  | _ =>
    cases record
    exact expires

theorem Expires.written (expires : session.Expires env time) (early : now ≤ time)
    (outcome : Except Status Bytes) : (session.written now outcome).Expires env time := by
  unfold Session.written
  split_ifs with waiting
  · cases outcome with
    | ok resultJson => exact Ended.expires ⟨.inl rfl, early⟩ expires.patient
    | error status => exact Ended.expires ⟨.inr rfl, early⟩ expires.patient
  · exact expires

-- The handler of a failed spawn leaves the stamp of the dispatch, which is earlier still.
theorem Expires.abortSpawn (expires : session.Expires env time) (what : String) :
    (session.abortSpawn what).Expires env time := by
  have ended : (session.abortSpawn what).Ended time := ⟨.inr rfl, expires.entered⟩
  exact ended.expires expires.patient

end Session

theorem Phase.work_expires {env : Environment} {time : Int} {fresh : Nat → String}
    {before : Option Session} {after : Session} {phase : Phase} {action : Action}
    (expires : ∀ session, before = some session → session.Expires env time)
    (early : ∀ reading, action.clock = some reading → reading ≤ time)
    (record : (phase.work env fresh before action).record = some after) :
    after.Expires env time := by
  revert record
  fun_cases Phase.work env fresh before phase action
  case case2 index what =>
    intro record
    obtain ⟨session, held, rfl⟩ := Option.map_eq_some_iff.mp record
    exact (expires session held).abortSpawn what
  case case6 outcome position reading =>
    intro record
    obtain ⟨session, held, rfl⟩ := Option.map_eq_some_iff.mp record
    exact (expires session held).written (early reading rfl) outcome
  all_goals exact fun record => expires after record

theorem Session.Ended.call {env : Environment} {now time : Int} {session after : Session}
    (ended : session.Ended time) {action : Action} (clock : action.clock = some now)
    (fresh : Nat → String) (record : (session.call env fresh action).record = some after) :
    after = session := by
  obtain ⟨kept | checked, -⟩ := Session.call_over (.inl ended.1) clock fresh
  · exact Option.some.inj (record.symm.trans kept)
  · rw [Session.checkAndEnforceTimeout_of_terminal env now ended.1] at checked
    exact Option.some.inj (record.symm.trans checked)

theorem Phase.work_ended {env : Environment} {time : Int} {fresh : Nat → String}
    {before : Option Session} {after : Session} {phase : Phase} {action : Action}
    (ended : ∀ session, before = some session → session.Ended time)
    (record : (phase.work env fresh before action).record = some after) : after.Ended time := by
  revert record
  fun_cases Phase.work env fresh before phase action
  case case2 index what =>
    intro record
    obtain ⟨session, held, rfl⟩ := Option.map_eq_some_iff.mp record
    exact ⟨.inr rfl, (ended session held).2⟩
  case case6 outcome position reading =>
    intro record
    obtain ⟨session, held, rfl⟩ := Option.map_eq_some_iff.mp record
    have idle : session.state ≠ .CALCULATING := (ended session held).1.ne (by decide)
    simpa [Session.written, idle] using ended session held
  all_goals exact fun record => ended after record

theorem Phase.work_absent {env : Environment} {fresh : Nat → String} {before : Option Session}
    {after : Session} {phase : Phase} {action : Action}
    (absent : ∀ session, before = some session → False)
    (record : (phase.work env fresh before action).record = some after) : False := by
  have same := Phase.work_record env fresh before phase action
  rw [record] at same
  obtain ⟨session, held⟩ := Option.isSome_iff_exists.mp same.symm
  exact absent session held

structure Moment.Keeps (env : Environment) (holds : Session → Prop) (moment : Moment) : Prop where
  checked : ∀ session, holds session → holds (session.checkAndEnforceTimeout env moment.time)
  called : ∀ session after fresh, moment.action.clock = some moment.time → holds session →
    (session.call env fresh moment.action).record = some after → holds after
  worked : ∀ (phase : Phase) before after fresh, (∀ session, before = some session → holds session) →
    (phase.work env fresh before moment.action).record = some after → holds after

theorem Moment.Read.clock_le {moment : Moment} (read : moment.Read) {time : Int}
    (early : moment.time ≤ time) : ∀ reading, moment.action.clock = some reading → reading ≤ time := by
  intro reading clock
  rw [read reading clock]
  exact early

theorem keeps_expires {env : Environment} {time : Int} {moment : Moment} (read : moment.Read)
    (early : moment.time ≤ time) : moment.Keeps env (Session.Expires env time) where
  checked _ expires := expires.checked early
  called _ _ fresh clock expires record := expires.call early clock fresh record
  worked _ _ _ _ expires record := Phase.work_expires expires (read.clock_le early) record

theorem keeps_ended (env : Environment) (time : Int) (moment : Moment) :
    moment.Keeps env (Session.Ended time) where
  checked session ended := by
    rwa [Session.checkAndEnforceTimeout_of_terminal env _ ended.1]
  called session after fresh clock ended record := by
    rwa [ended.call clock fresh record]
  worked _ _ _ _ ended record := Phase.work_ended ended record

theorem keeps_absent (env : Environment) (moment : Moment) :
    moment.Keeps env (fun _ => False) where
  checked _ absent := absent
  called _ _ _ _ absent _ := absent
  worked _ _ _ _ absent record := Phase.work_absent absent record

namespace System

def Holds (holds : Session → Prop) (id : String) (system : System) : Prop :=
  ∀ session, system.manager.sessions.lookup id = some session → holds session

-- An identifier that has been drawn, so that no creation will draw it again.
structure Known (env : Environment) (id : String) (system : System) : Prop where
  reachable : (machine env).Reachable system
  drawn : env.Drawn system.manager.draws id

variable {env : Environment} {system : System} {moment : Moment} {id : String}

theorem known_of_stored (fresh : env.NeverRepeats) (reachable : (machine env).Reachable system)
    {session : Session} (stored : system.manager.sessions.lookup id = some session) :
    system.Known env id :=
  ⟨reachable, (sound_of_reachable fresh reachable).idsDrawn id session stored⟩

theorem expires_of_stored (fresh : env.NeverRepeats) (reachable : (machine env).Reachable system)
    {session : Session} (stored : system.manager.sessions.lookup id = some session) {time : Int}
    (elapsed : session.expiry env < time) : system.Holds (Session.Expires env time) id := by
  intro held found
  cases stored.symm.trans found
  exact .of_expiry (timeout_nonneg_of_reachable fresh reachable stored) elapsed

theorem Known.step (known : system.Known env id) (action : Action) :
    (system.step env action).1.Known env id :=
  ⟨known.reachable.step action, known.drawn.mono (system.step_manager env action).draws_le⟩

theorem Known.after (known : system.Known env id) (run : List Moment) :
    ((timedMachine env).after system run).Known env id :=
  (timedMachine env).after_preserves (Known env id) (fun _ moment known => known.step moment.action)
    system known run

theorem Known.created (known : system.Known env id) (fresh : env.NeverRepeats) {now : Int}
    {request : CreateSessionRequest} {after : Session}
    (found : (system.manager.createSession env now request).1.sessions.lookup id = some after) :
    ∃ held, system.manager.sessions.lookup id = some held ∧ held.swept env now = some after := by
  obtain old | ⟨policyDef, -, named, -⟩ := SessionManager.createSession_origin found
  · exact old
  · exact absurd named (known.drawn.ne_next fresh le_rfl _)

theorem Known.holds_step (known : system.Known env id) (fresh : env.NeverRepeats)
    (read : moment.Read) {holds : Session → Prop} (keeps : moment.Keeps env holds)
    (here : system.Holds holds id) : (system.step env moment.action).1.Holds holds id := by
  intro after found
  cases owner_of_reachable fresh known.reachable moment.action with
  | call owner session resolved stored isolated =>
    by_cases same : id = owner
    · subst same
      rw [isolated.record] at found
      exact keeps.called session after _ (read.clock resolved) (here session stored) found
    · exact here after ((isolated.records id same).symm.trans found)
  | worker index thread own listed isolated =>
    by_cases same : id = thread.session
    · subst same
      rw [isolated.record] at found
      exact keeps.worked thread.phase _ after _ here found
    · exact here after ((isolated.records id same).symm.trans found)
  | create now request same manager =>
    have reading : now = moment.time := read now (by rw [same]; rfl)
    rw [manager] at found
    obtain ⟨held, stored, swept⟩ := known.created fresh found
    rw [Session.swept_some swept, reading]
    exact keeps.checked held (here held stored)
  | nobody same =>
    rw [same] at found
    exact here after found

theorem Known.holds_after (known : system.Known env id) (fresh : env.NeverRepeats)
    (run : List Moment) (read : ∀ moment ∈ run, moment.Read) {holds : Session → Prop}
    (keeps : ∀ moment ∈ run, moment.Keeps env holds) (here : system.Holds holds id) :
    ((timedMachine env).after system run).Holds holds id := by
  induction run generalizing system with
  | nil => exact here
  | cons moment rest ih =>
    have next := known.holds_step fresh (read moment List.mem_cons_self)
      (keeps moment List.mem_cons_self) here
    exact ih (known.step moment.action) (fun other listed => read other (List.mem_cons_of_mem _ listed))
      (fun other listed => keeps other (List.mem_cons_of_mem _ listed)) next

theorem Known.holds_sweep (known : system.Known env id) (fresh : env.NeverRepeats)
    (running : system.alive = true) (read : moment.Read) (creates : moment.action.creates = true)
    {holds next : Session → Prop} (here : system.Holds holds id)
    (sweeps : ∀ session after, holds session → session.swept env moment.time = some after → next after) :
    (system.step env moment.action).1.Holds next id := by
  obtain ⟨time, action⟩ := moment
  cases action with
  | createSession now request =>
    intro after found
    have reading : now = time := read now rfl
    subst reading
    rw [show (system.step env (.createSession now request)).1.manager = _ from
      system.step_createSession running now request] at found
    obtain ⟨held, stored, swept⟩ := known.created fresh found
    exact sweeps held after (here held stored) swept
  | _ => cases creates

theorem Known.holds_until (known : system.Known env id) (fresh : env.NeverRepeats)
    (run : List Moment) (sweep : Moment) (read : ∀ moment ∈ run ++ [sweep], moment.Read)
    (running : ((timedMachine env).after system run).alive = true)
    (creates : sweep.action.creates = true) {holds next : Session → Prop}
    (keeps : ∀ moment ∈ run, moment.Keeps env holds) (here : system.Holds holds id)
    (sweeps : ∀ session after, holds session → session.swept env sweep.time = some after → next after) :
    ((timedMachine env).after system (run ++ [sweep])).Holds next id := by
  rw [Machine.after_append]
  have still := known.holds_after fresh run (fun moment listed => read moment (by simp [listed]))
    keeps here
  exact (known.after run).holds_sweep fresh running (read sweep (by simp)) creates still sweeps

theorem alive_of_after (run : List Moment)
    (running : ((timedMachine env).after system run).alive = true) : system.alive = true := by
  by_contra dead
  have still := (timedMachine env).after_preserves (fun system => system.alive ≠ true) ?_ system
    dead run
  · exact still running
  · intro other moment dead
    simp [timedMachine, step, dead]

end System

theorem System.getResult_reply {env : Environment} (fresh : env.NeverRepeats) {system : System}
    (reachable : (machine env).Reachable system) (running : system.alive = true) {token id : String}
    (resolved : system.manager.participantToSession.lookup token = some id) (now : Int) :
    ∃ session, system.manager.sessions.lookup id = some session ∧
      (system.step env (.getResult now ⟨token⟩)).2 =
        .getResult (.ok (session.checkAndEnforceTimeout env now).report) := by
  have sound := sound_of_reachable fresh reachable
  obtain ⟨held, kept, isolated⟩ := (isolated_of_running fresh reachable running).calls
    (.getResult now ⟨token⟩) id resolved
  obtain ⟨session, stored, member⟩ := (sound.participants token id).mp resolved
  cases kept.symm.trans stored
  obtain ⟨participant, listed⟩ := (FlatHashMap.mem_iff_lookup _ _).mp member
  refine ⟨held, kept, ?_⟩
  rw [isolated.reply]
  simp [Session.call, Session.withParticipant, listed, Session.getResult]

/--
Nobody polls forever. Whatever happens to a session that is stored in a reachable state, a GetResult
of one of its participants after its caps have elapsed is answered with its outcome, for as long as
the server knows the participant's token.
-/
theorem polls_end (env : Environment) (fresh : env.NeverRepeats) (system : System)
    (reachable : (machine env).Reachable system) (id : String) (session : Session)
    (stored : system.manager.sessions.lookup id = some session) (run : List Moment) (now : Int)
    (token : String) (timed : Timed (run ++ [⟨now, .getResult now ⟨token⟩⟩]))
    (elapsed : session.expiry env < now) :
    let later := (timedMachine env).after system run
    later.alive = true → later.manager.participantToSession.lookup token = some id →
      ∃ response, (later.step env (.getResult now ⟨token⟩)).2 = .getResult (.ok response) ∧
        response.state.Terminal := by
  intro later running resolved
  have known := System.known_of_stored fresh reachable stored
  have early : ∀ moment ∈ run, moment.time ≤ now := fun moment listed =>
    (List.pairwise_append.mp timed.ordered).2.2 moment listed _ (List.mem_singleton_self _)
  have read : ∀ moment ∈ run, moment.Read := fun moment listed =>
    timed.read moment (List.mem_append_left _ listed)
  have here := System.expires_of_stored fresh reachable stored elapsed
  have expiring := known.holds_after fresh run read
    (fun moment listed => keeps_expires (read moment listed) (early moment listed)) here
  obtain ⟨held, kept, reply⟩ :=
    System.getResult_reply fresh (known.after run).reachable running resolved now
  have settled := (expiring held kept).settles
  refine ⟨_, reply, ?_⟩
  rw [Session.report_state]
  exact settled.1

theorem calendarDispatched_expiry : ∃ session,
    calendarDispatched.manager.sessions.lookup "a" = some session ∧
      session.expiry calendarEnv = seconds 1800 := by
  have waits : (calendarDispatched.manager.sessions.lookup "a").map
      (Session.expiry calendarEnv) = some (seconds 1800) := by decide +kernel
  exact Option.map_eq_some_iff.mp waits

-- The worker never comes back.
theorem calendar_polls_end :
    let later := (timedMachine calendarEnv).after calendarDispatched [⟨seconds 1, .spawnSucceeds 0⟩]
    ∃ response, (later.step calendarEnv (.getResult (seconds 1801) ⟨"aa"⟩)).2 =
      .getResult (.ok response) ∧ response.state.Terminal := by
  obtain ⟨session, stored, expiry⟩ := calendarDispatched_expiry
  have reachable := timed_reachable calendarEnv (calendarSubmissions.map (Moment.mk 0))
  apply polls_end calendarEnv (countingEnv_neverRepeats _) calendarDispatched reachable "a" session
    stored [⟨seconds 1, .spawnSucceeds 0⟩] (seconds 1801) "aa"
  · constructor
    · simp [Moment.Read, Action.clock]
    · simp [seconds]
  · rw [expiry]
    decide
  · decide +kernel
  · decide +kernel

theorem Session.Expires.swept {env : Environment} {time : Int} {session after : Session}
    (expires : session.Expires env time) (kept : session.swept env time = some after) :
    after.Ended time := by
  rw [Session.swept_some kept]
  exact expires.settles

theorem Session.Ended.swept {env : Environment} {time now : Int} {session after : Session}
    (ended : session.Ended time) (late : time + seconds env.options.terminalRetentionSeconds < now)
    (kept : session.swept env now = some after) : False := by
  obtain ⟨terminal, entered⟩ := ended
  have due : session.ShouldErase env now := ⟨terminal, .inr (by omega)⟩
  unfold Session.swept at kept
  rw [Session.checkAndEnforceTimeout_of_terminal env now terminal, if_pos due] at kept
  cases kept

/-- Nothing the manager holds leads to the session. -/
structure SessionManager.Forgotten (id : String) (manager : SessionManager) : Prop where
  record : manager.sessions.lookup id = none
  participants : ∀ token, manager.participantToSession.lookup token ≠ some id
  invitations : ∀ token, manager.invitationToSession.lookup token ≠ some id
  creatorNonces : ∀ nonce, manager.creatorNonceToSession.lookup nonce ≠ some id

theorem SessionManager.Sound.forgotten {env : Environment} {manager : SessionManager} {id : String}
    (sound : SessionManager.Sound env manager) (record : manager.sessions.lookup id = none) :
    manager.Forgotten id := by
  refine ⟨record, ?_, ?_, ?_⟩
  · intro token found
    obtain ⟨session, stored, -⟩ := (sound.participants token id).mp found
    cases record.symm.trans stored
  · intro token found
    obtain ⟨session, stored, -⟩ := (sound.invitations token id).mp found
    cases record.symm.trans stored
  · intro nonce found
    obtain ⟨session, stored, -⟩ := (sound.creatorNonces nonce id).mp found
    cases record.symm.trans stored

/--
A session that is stored in any reachable state is forgotten once CreateSession has been called
after all its caps have elapsed, and again when the retention period after that call is over. The
calls, timeouts and worker steps before, between and after the two sweeps are arbitrary.
-/
theorem sessions_reclaimed (env : Environment) (fresh : env.NeverRepeats) (system : System)
    (reachable : (machine env).Reachable system) (id : String) (session : Session)
    (stored : system.manager.sessions.lookup id = some session)
    (waiting between later : List Moment) (first second : Moment)
    (timed : Timed (waiting ++ first :: (between ++ second :: later)))
    (running : ((timedMachine env).after system (waiting ++ first :: between)).alive = true)
    (sweeps : first.action.creates = true ∧ second.action.creates = true)
    (elapsed : session.expiry env < first.time)
    (retained : first.time + seconds env.options.terminalRetentionSeconds < second.time) :
    ((timedMachine env).after system
      (waiting ++ first :: (between ++ second :: later))).manager.Forgotten id := by
  have known := System.known_of_stored fresh reachable stored
  have read := timed.read
  have early : ∀ moment ∈ waiting, moment.time ≤ first.time := fun moment listed =>
    (List.pairwise_append.mp timed.ordered).2.2 moment listed first List.mem_cons_self
  have here := System.expires_of_stored fresh reachable stored elapsed
  have split : waiting ++ first :: (between ++ second :: later) =
      (waiting ++ [first]) ++ ((between ++ [second]) ++ later) := by simp
  rw [show waiting ++ first :: between = (waiting ++ [first]) ++ between by simp,
    Machine.after_append] at running
  rw [split, Machine.after_append, Machine.after_append]
  rw [split] at read
  -- The first sweep leaves the session ended, if it leaves it at all, and the second takes it.
  have alive : ((timedMachine env).after system waiting).alive = true := by
    have before := System.alive_of_after between running
    rw [Machine.after_append] at before
    exact System.alive_of_after [first] before
  have ended := known.holds_until fresh waiting first
    (fun moment listed => read moment (List.mem_append_left _ listed)) alive sweeps.1
    (fun moment listed => keeps_expires (read moment (by simp [listed])) (early moment listed)) here
    fun _ _ expires kept => expires.swept kept
  replace known := known.after (waiting ++ [first])
  have absent := known.holds_until fresh between second
    (fun moment listed => read moment (List.mem_append_right _ (List.mem_append_left _ listed)))
    running sweeps.2 (fun moment _ => keeps_ended env first.time moment) ended
    fun _ _ settled kept => settled.swept retained kept
  replace known := known.after (between ++ [second])
  have gone := known.holds_after fresh later (fun moment listed => read moment (by simp [listed]))
    (fun moment _ => keeps_absent env moment) absent
  have sound := sound_of_reachable fresh (known.after later).reachable
  exact sound.forgotten (Option.eq_none_iff_forall_ne_some.mpr gone)

def calendarSweep (time : Int) : Moment :=
  ⟨time, .createSession time { policy := { policyClass := "calendar", expectedParticipants := 2 } }⟩

theorem calendar_reclaimed :
    ((timedMachine calendarEnv).after calendarDispatched
      ([⟨seconds 1, .spawnSucceeds 0⟩] ++ calendarSweep (seconds 1801) ::
        ([⟨seconds 5000, .getResult (seconds 5000) ⟨"aa"⟩⟩] ++ calendarSweep (seconds 5402) ::
          []))).manager.Forgotten "a" := by
  obtain ⟨session, stored, expiry⟩ := calendarDispatched_expiry
  have reachable := timed_reachable calendarEnv (calendarSubmissions.map (Moment.mk 0))
  apply sessions_reclaimed calendarEnv (countingEnv_neverRepeats _) calendarDispatched reachable "a"
    session stored
  · constructor
    · simp [calendarSweep, Moment.Read, Action.clock]
    · simp [calendarSweep, seconds]
  · decide +kernel
  · exact ⟨rfl, rfl⟩
  · rw [expiry]
    decide
  · decide

end Ztab
