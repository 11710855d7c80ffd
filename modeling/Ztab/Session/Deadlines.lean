import Ztab.Session.Docket
import Ztab.Session.Outcome

set_option autoImplicit false

/-!
# Deadlines

A session that has stayed too long in a state leaves it by its timeout only, whoever
looks at it and when, as long as no worker ends a session that is past its cap: the
locked steps of a worker do not check the timeout.
-/

namespace Ztab

theorem SessionState.Terminal.ne {state other : SessionState} (terminal : state.Terminal)
    (waiting : ¬ other.Terminal) : state ≠ other := by
  rintro rfl
  exact waiting terminal

namespace Session

variable {env : Environment} {now later : Int} {session : Session}

theorem TimedOut.mono (due : session.TimedOut env now) (ordered : now ≤ later) :
    session.TimedOut env later := by
  obtain ⟨waiting, past⟩ := due
  refine ⟨waiting, ?_⟩
  omega

theorem checkAndEnforceTimeout_of_due (due : session.TimedOut env now) :
    session.checkAndEnforceTimeout env now = session.abortOnTimeout env now := by
  simp [checkAndEnforceTimeout, due]

/-- The check leaves an ended session: it had ended, or its time is up. -/
def Over (env : Environment) (now : Int) (session : Session) : Prop :=
  session.state.Terminal ∨ session.TimedOut env now

theorem Over.mono (past : session.Over env now) (ordered : now ≤ later) : session.Over env later :=
  past.imp_right fun due => due.mono ordered

theorem Over.checked (past : session.Over env now) :
    (session.checkAndEnforceTimeout env now).state.Terminal := by
  rcases past with terminal | due
  · rw [checkAndEnforceTimeout_of_terminal env now terminal]
    exact terminal
  · rw [checkAndEnforceTimeout_of_due due]
    exact .inr rfl

def verdict (env : Environment) (finish : Int) (session : Session) :
    SessionState × SessionError × Bytes :=
  let checked := session.checkAndEnforceTimeout env finish
  (checked.state, checked.errorCode, checked.resultJson)

theorem verdict_later (past : session.Over env now) (ordered : now ≤ later) :
    session.verdict env later = session.verdict env now := by
  rcases past with terminal | due
  · simp [verdict, checkAndEnforceTimeout_of_terminal env _ terminal]
  · have still := due.mono ordered
    simp [verdict, checkAndEnforceTimeout_of_due due, checkAndEnforceTimeout_of_due still,
      abortOnTimeout]

theorem verdict_checked (past : session.Over env now) :
    (session.checkAndEnforceTimeout env now).verdict env now = session.verdict env now := by
  have terminal := past.checked
  simp [verdict, checkAndEnforceTimeout_of_terminal env now terminal]

theorem acceptPolicy_over (terminal : session.state.Terminal) (token : String)
    (participant : Participant) : (session.acceptPolicy now token participant).1 = session := by
  have closed : session.state ≠ .OPEN := terminal.ne (by decide)
  simp only [acceptPolicy, closed, ne_eq, not_false_eq_true, if_true]
  split_ifs <;> rfl

theorem submitInput_over (env : Environment) (now : Int) (terminal : session.state.Terminal)
    (token inputJson : String) (participant : Participant) :
    (session.submitInput env now token inputJson participant).1 = session ∧
      ∀ id, (session.submitInput env now token inputJson participant).2 ≠ .ok (.dispatched id) := by
  have closed : session.state ≠ .SEALED := terminal.ne (by decide)
  simp only [submitInput, closed, ne_eq, not_false_eq_true, if_true]
  split_ifs
  · refine ⟨retryInput_fst env inputJson session participant 0, ?_⟩
    intro id
    unfold retryInput
    split <;> simp [answer]
  · simp [refuse]

theorem join_over (terminal : session.state.Terminal) (token clientNonce : String) :
    (session.join token clientNonce).1 = session := by
  have closed : session.state ≠ .OPEN := terminal.ne (by decide)
  unfold join
  split
  next => rfl
  next => rfl
  next => simp [closed]

theorem withParticipant_over {α : Type} {body : Session → Participant → Session × Outcome α}
    (kept : ∀ participant, (body (session.checkAndEnforceTimeout env now) participant).1 =
      session.checkAndEnforceTimeout env now) (token : String) :
    (session.withParticipant env now token body).1 = session ∨
      (session.withParticipant env now token body).1 = session.checkAndEnforceTimeout env now := by
  obtain same | ⟨participant, -, same⟩ := session.withParticipant_cases env now token body
  · exact .inl (by rw [same])
  · exact .inr (by rw [same, kept])

theorem call_over (past : session.Over env now) {action : Action} (clock : action.clock = some now)
    (fresh : Nat → String) :
    ((session.call env fresh action).record = some session ∨
      (session.call env fresh action).record = some (session.checkAndEnforceTimeout env now)) ∧
      (session.call env fresh action).phase = none := by
  have terminal := past.checked
  have polled {α : Type} {body : Session → Participant → Session × Outcome α} (token : String)
      (kept : ∀ participant, (body (session.checkAndEnforceTimeout env now) participant).1 =
        session.checkAndEnforceTimeout env now) :=
    (withParticipant_over kept token).imp (congrArg some) (congrArg some)
  cases action with
  | joinSession time request =>
    cases clock
    exact ⟨.inr (congrArg some (join_over terminal _ _)), rfl⟩
  | acceptPolicy time request =>
    cases clock
    exact ⟨polled _ (acceptPolicy_over terminal _), rfl⟩
  | submitInput time request =>
    cases clock
    have kept := submitInput_over env now terminal request.participantToken request.inputJson
    simp only [call, submitted_record]
    refine ⟨polled _ fun participant => (kept participant).1, ?_⟩
    obtain same | ⟨participant, -, same⟩ := session.withParticipant_cases env now
      request.participantToken (submitInput env now request.participantToken request.inputJson)
    · rw [same]
      rfl
    · rw [same]
      unfold submitted
      split
      next => rfl
      next => rfl
      next id dispatched => exact absurd dispatched ((kept participant).2 id)
  | getResult time request =>
    cases clock
    exact ⟨polled _ fun _ => rfl, rfl⟩
  | getSessionStatus time request =>
    cases clock
    exact ⟨polled _ fun _ => rfl, rfl⟩
  | _ => exact ⟨.inl rfl, rfl⟩

end Session

/-- A step that ends a stored session finds it within its cap, and a failing spawn finds it waiting. -/
def Phase.InTime (env : Environment) (time : Int) (record : Option Session) : Phase → Action → Prop
  | .inferred _, .writeResult _ _ => ∀ session, record = some session →
    session.state = .CALCULATING → ¬ session.TimedOut env time
  | .spawning, .spawnFails _ _ => ∀ session, record = some session →
    session.state = .CALCULATING ∧ ¬ session.TimedOut env time
  | _, _ => True

section Work

variable {env : Environment} {time : Int} {record : Option Session} {phase : Phase} {action : Action}

theorem Session.Over.not_calculating {session : Session} (past : session.Over env time)
    (calculating : session.state = .CALCULATING) (early : ¬ session.TimedOut env time) : False := by
  rcases past with terminal | due
  · exact terminal.ne (by decide) calculating
  · exact early due

theorem Phase.work_over (past : ∀ session, record = some session → session.Over env time)
    (inTime : phase.InTime env time record action) (fresh : Nat → String) :
    (phase.work env fresh record action).record = record := by
  revert inTime
  fun_cases Phase.work env fresh record phase action
  case case2 what =>
    intro inTime
    cases record with
    | none => rfl
    | some session =>
      obtain ⟨calculating, early⟩ := inTime session rfl
      exact ((past session rfl).not_calculating calculating early).elim
  case case6 outcome position now =>
    intro inTime
    cases record with
    | none => rfl
    | some session =>
      by_cases calculating : session.state = .CALCULATING
      · exact ((past session rfl).not_calculating calculating (inTime session rfl calculating)).elim
      · simp [Session.written, calculating]
  all_goals exact fun _ => rfl

theorem Phase.work_spawning {fresh : Nat → String}
    (pending : (phase.work env fresh record action).phase = some .spawning) :
    phase = .spawning ∧ ∀ other, (Phase.spawning.work env fresh other action).phase =
      some .spawning := by
  have unspawned : phase = .spawning := by
    obtain ⟨next, moved, spawned⟩ := Phase.work_spawned env fresh record phase action
    cases moved.symm.trans pending
    cases phase with
    | spawning => rfl
    | _ => cases spawned rfl
  subst unspawned
  refine ⟨rfl, fun other => ?_⟩
  cases action with
  | spawnSucceeds index => cases pending
  | spawnFails index what => cases pending
  | _ => rfl

end Work

def Entry.Read (entry : Entry) : Prop :=
  ∀ fresh action, entry.move = .call fresh action → action.clock = some entry.time

namespace Docket

def InTime (env : Environment) (docket : Docket) (entry : Entry) : Prop :=
  ∀ fresh action phase, entry.move = .work fresh action → docket.worker = some phase →
    phase.InTime env entry.time docket.record action

variable {env : Environment} {docket : Docket} {entry : Entry}

theorem step_over (past : docket.session.Over env entry.time) (read : entry.Read)
    (inTime : docket.InTime env entry) :
    (docket.step env entry).session = docket.session ∨
      (docket.step env entry).session = docket.session.checkAndEnforceTimeout env entry.time := by
  obtain ⟨time, move⟩ := entry
  cases move with
  | call fresh action =>
    obtain ⟨kept | checked, -⟩ := Session.call_over past (read fresh action rfl) fresh
    · cases stored : docket.stored <;> simp [step, stored, kept]
    · cases stored : docket.stored <;> simp [step, stored, checked]
  | work fresh action =>
    cases worker : docket.worker with
    | none => simp [step, worker]
    | some phase =>
      have held : ∀ session, docket.record = some session → session.Over env time := by
        intro session found
        rw [← (record_eq_some.mp found).2]
        exact past
      have kept := Phase.work_over held (inTime fresh action phase rfl worker) fresh
      refine .inl ?_
      simp only [step, worker, kept]
      unfold record
      split_ifs <;> rfl
  | sweep => cases stored : docket.stored <;> simp [step, stored]
  | timer => cases stored : docket.stored <;> simp [step, stored]

theorem step_pending (past : docket.session.Over env entry.time) (read : entry.Read)
    (pending : (docket.step env entry).worker = some .spawning) :
    docket.worker = some .spawning ∧ ∀ other : Docket, other.session.Over env entry.time →
      other.worker = some .spawning → (other.step env entry).worker = some .spawning := by
  obtain ⟨time, move⟩ := entry
  cases move with
  | call fresh action =>
    have silent (each : Docket) (past : each.session.Over env time) :
        (each.step env ⟨time, .call fresh action⟩).worker = each.worker := by
      have none := (Session.call_over past (read fresh action rfl) fresh).2
      cases stored : each.stored <;> simp [step, stored, none]
    rw [silent docket past] at pending
    exact ⟨pending, fun other past waiting => (silent other past).trans waiting⟩
  | work fresh action =>
    cases worker : docket.worker with
    | none => simp [step, worker] at pending
    | some phase =>
      simp only [step, worker] at pending
      obtain ⟨rfl, still⟩ := Phase.work_spawning pending
      refine ⟨rfl, fun other past waiting => ?_⟩
      simp only [step, waiting]
      exact still _
  | sweep | timer =>
    have silent (each : Docket) : ∀ move, move = .sweep ∨ move = .timer →
        (each.step env ⟨time, move⟩).worker = each.worker := by
      rintro move (rfl | rfl) <;> cases stored : each.stored <;> simp [step, stored]
    rw [silent docket _ (by simp)] at pending
    exact ⟨pending, fun other past waiting => (silent other _ (by simp)).trans waiting⟩

end Docket

def Action.Polls (time : Int) : Action → Prop
  | .getResult now _ | .getSessionStatus now _ => now = time
  | _ => False

-- A timer looks as well.
def Entry.Polls (entry : Entry) : Prop :=
  entry.move = .timer ∨ ∃ fresh action, entry.move = .call fresh action ∧ action.Polls entry.time

inductive Polled : List Entry → List Entry → Prop
  | done : Polled [] []
  | keep (entry : Entry) {entries polled : List Entry} (rest : Polled entries polled) :
      Polled (entry :: entries) (entry :: polled)
  | poll {entry : Entry} (polls : entry.Polls) {entries polled : List Entry}
      (rest : Polled entries polled) : Polled entries (entry :: polled)

section Polls

variable {env : Environment} {now : Int} {docket : Docket} {entry : Entry}

theorem Session.call_polls (env : Environment) (fresh : Nat → String) (session : Session)
    {action : Action} (polls : action.Polls now) :
    ((session.call env fresh action).record = some session ∨
      (session.call env fresh action).record = some (session.checkAndEnforceTimeout env now)) ∧
      (session.call env fresh action).phase = none := by
  cases action with
  | getResult time request =>
    cases polls
    have looked : (session.withParticipant env now request.participantToken getResult).1 = _ ∨ _ :=
      withParticipant_over (fun _ => rfl) _
    exact ⟨looked.imp (congrArg some) (congrArg some), rfl⟩
  | getSessionStatus time request =>
    cases polls
    have looked :
        (session.withParticipant env now request.participantToken getSessionStatus).1 = _ ∨ _ :=
      withParticipant_over (fun _ => rfl) _
    exact ⟨looked.imp (congrArg some) (congrArg some), rfl⟩
  | _ => cases polls

theorem Docket.step_polls (polls : entry.Polls) :
    docket.step env entry = docket ∨ docket.step env entry =
      { docket with session := docket.session.checkAndEnforceTimeout env entry.time } := by
  obtain ⟨time, move⟩ := entry
  obtain ⟨session, stored, worker⟩ := docket
  rcases polls with timer | ⟨fresh, action, called, polls⟩
  · cases timer
    cases stored <;> simp [step]
  · cases called
    obtain ⟨looked, silent⟩ := session.call_polls env fresh polls
    rcases looked with same | checked
    · cases stored <;> simp [step, same, silent]
    · cases stored <;> simp [step, checked, silent]

/-- One docket has ended, and the other ends alike as soon as its timeout is looked at. -/
structure Docket.Settled (env : Environment) (now : Int) (docket polled : Docket) : Prop where
  ended : polled.session.state.Terminal
  past : docket.session.Over env now
  agree : docket.session.verdict env now = polled.session.verdict env now
  pending : polled.worker = some .spawning → docket.worker = some .spawning
  stored : polled.stored = true → docket.stored = true
  -- It has ended no later, so it is not kept longer.
  entered : polled.session.stateEnteredAt ≤ now
  elder : docket.session.state.Terminal →
    polled.session.stateEnteredAt ≤ docket.session.stateEnteredAt

def Docket.Alike (env : Environment) (now : Int) (docket polled : Docket) : Prop :=
  docket = polled ∨ docket.Settled env now polled

namespace Docket

variable {polled : Docket} {later : Int}

theorem Settled.mono (settled : docket.Settled env now polled) (ordered : now ≤ later) :
    docket.Settled env later polled where
  ended := settled.ended
  past := settled.past.mono ordered
  agree := by
    rw [Session.verdict_later settled.past ordered, settled.agree,
      Session.verdict_later (.inl settled.ended) ordered]
  pending := settled.pending
  stored := settled.stored
  entered := settled.entered.trans ordered
  elder := settled.elder

theorem Settled.erased (settled : docket.Settled env now polled)
    (due : (docket.session.checkAndEnforceTimeout env now).ShouldErase env now) :
    polled.session.ShouldErase env now := by
  have agree := settled.agree
  simp only [Session.verdict, Prod.mk.injEq,
    Session.checkAndEnforceTimeout_of_terminal env _ settled.ended] at agree
  obtain ⟨state, error, -⟩ := agree
  refine ⟨settled.ended, due.2.imp (fun early => ?_) fun kept => ?_⟩
  · rw [← state, ← error]
    exact early
  · have entered := settled.entered
    rcases settled.past with terminal | late
    · have elder := settled.elder terminal
      rw [Session.checkAndEnforceTimeout_of_terminal env _ terminal] at kept
      omega
    · rw [Session.checkAndEnforceTimeout_of_due late] at kept
      simp only [Session.abortOnTimeout] at kept
      omega

theorem step_stored (docket : Docket) {entry : Entry} (other : entry.move ≠ .sweep) :
    (docket.step env entry).stored = docket.stored := by
  unfold Docket.step
  split
  next => split <;> rfl
  next => split <;> rfl
  next same => exact absurd same other
  next => split <;> rfl

theorem Settled.stored_step (settled : docket.Settled env entry.time polled)
    (kept : (polled.step env entry).stored = true) : (docket.step env entry).stored = true := by
  by_cases sweeps : entry.move = .sweep
  · cases there : polled.stored with
    | false => simp [Docket.step, sweeps, there] at kept
    | true =>
      simp only [Docket.step, sweeps, there, if_true, decide_eq_true_eq,
        Session.checkAndEnforceTimeout_of_terminal env _ settled.ended] at kept
      simp only [Docket.step, sweeps, settled.stored there, if_true, decide_eq_true_eq]
      exact fun due => kept (settled.erased due)
  · rw [step_stored polled sweeps] at kept
    rw [step_stored docket sweeps]
    exact settled.stored kept

theorem Settled.elder_checked (settled : docket.Settled env now polled) :
    polled.session.stateEnteredAt ≤ (docket.session.checkAndEnforceTimeout env now).stateEnteredAt := by
  rcases settled.past with terminal | due
  · rw [Session.checkAndEnforceTimeout_of_terminal env _ terminal]
    exact settled.elder terminal
  · rw [Session.checkAndEnforceTimeout_of_due due]
    exact settled.entered

theorem Alike.verdict (alike : docket.Alike env now polled) :
    docket.session.verdict env now = polled.session.verdict env now := by
  rcases alike with rfl | settled
  · rfl
  · exact settled.agree

theorem Alike.mono (alike : docket.Alike env now polled) (ordered : now ≤ later) :
    docket.Alike env later polled :=
  alike.imp_right fun settled => settled.mono ordered

theorem Alike.poll (alike : docket.Alike env now polled) (ordered : now ≤ entry.time)
    (polls : entry.Polls) : docket.Alike env entry.time (polled.step env entry) := by
  rcases alike with rfl | settled
  · obtain same | checked := docket.step_polls polls
    · exact .inl same.symm
    · by_cases due : docket.session.TimedOut env entry.time
      · rw [checked]
        refine .inr ⟨Session.Over.checked (.inr due), .inr due,
          (Session.verdict_checked (.inr due)).symm, id, id, ?_, fun ended => absurd ended due.1⟩
        simp [Session.checkAndEnforceTimeout_of_due due, Session.abortOnTimeout]
      · have same : docket.session.checkAndEnforceTimeout env entry.time = docket.session := by
          simp [Session.checkAndEnforceTimeout, due]
        rw [same] at checked
        exact .inl checked.symm
  · have same : polled.step env entry = polled := by
      obtain same | checked := polled.step_polls polls
      · exact same
      · rw [checked, Session.checkAndEnforceTimeout_of_terminal env _ settled.ended]
    rw [same]
    exact .inr (settled.mono ordered)

theorem Alike.step (alike : docket.Alike env now polled) (ordered : now ≤ entry.time)
    (read : entry.Read) (inTime : docket.InTime env entry) :
    (docket.step env entry).Alike env entry.time (polled.step env entry) := by
  rcases alike with rfl | settled
  · exact .inl rfl
  · have settled := settled.mono ordered
    have ended : polled.session.Over env entry.time := .inl settled.ended
    -- The only step that a session past its cap would notice is the failure of a spawn.
    have inTime' : polled.InTime env entry := by
      intro fresh action phase made worker
      unfold Phase.InTime
      split
      next =>
        intro session found calculating
        rw [← (record_eq_some.mp found).2] at calculating
        exact absurd calculating (settled.ended.ne (by decide))
      next index what =>
        intro session found
        have kept := record_eq_some.mpr ⟨settled.stored (record_eq_some.mp found).1, rfl⟩
        obtain ⟨calculating, early⟩ :=
          inTime fresh _ .spawning made (settled.pending worker) docket.session kept
        exact (settled.past.not_calculating calculating early).elim
      next => trivial
    have kept : (polled.step env entry).session = polled.session := by
      obtain same | checked := step_over ended read inTime'
      · exact same
      · rw [checked, Session.checkAndEnforceTimeout_of_terminal env _ settled.ended]
    refine .inr ⟨?_, ?_, ?_, ?_, settled.stored_step, ?_, ?_⟩
    · rw [kept]
      exact settled.ended
    · obtain same | checked := step_over settled.past read inTime
      · rw [same]
        exact settled.past
      · rw [checked]
        exact .inl settled.past.checked
    · rw [kept, ← settled.agree]
      obtain same | checked := step_over settled.past read inTime
      · rw [same]
      · rw [checked]
        exact Session.verdict_checked settled.past
    · intro pending
      obtain ⟨waiting, still⟩ := step_pending ended read pending
      exact still docket settled.past (settled.pending waiting)
    · rw [kept]
      exact settled.entered
    · rw [kept]
      obtain same | checked := step_over settled.past read inTime
      · rw [same]
        exact settled.elder
      · rw [checked]
        exact fun _ => settled.elder_checked

/-- Every step of the docket's own history is in time. -/
def Punctual (env : Environment) : Docket → List Entry → Prop
  | _, [] => True
  | docket, entry :: rest => docket.InTime env entry ∧ Punctual env (docket.step env entry) rest

-- By induction on where the polls are put; the times only have to keep their order.
theorem Alike.run {entries polledEntries : List Entry} (same : Polled entries polledEntries)
    (alike : docket.Alike env now polled) (read : ∀ entry ∈ entries, entry.Read)
    (punctual : docket.Punctual env entries) {finish : Int}
    (ordered : (now :: polledEntries.map Entry.time ++ [finish]).Pairwise (· ≤ ·)) :
    (docket.run env entries).Alike env finish (polled.run env polledEntries) := by
  induction same generalizing docket polled now with
  | done =>
    apply alike.mono
    simpa using ordered
  | keep entry rest ih =>
    obtain ⟨first, others⟩ := List.pairwise_cons.mp ordered
    have next : now ≤ entry.time := first _ (by simp)
    refine ih (alike.step next (read entry List.mem_cons_self) punctual.1) ?_ punctual.2 others
    exact fun other listed => read other (List.mem_cons_of_mem _ listed)
  | @poll entry polls _ _ rest ih =>
    obtain ⟨first, others⟩ := List.pairwise_cons.mp ordered
    have next : now ≤ entry.time := first _ (by simp)
    exact ih (alike.poll next polls) read punctual others

theorem verdict_of_polled {entries polledEntries : List Entry} (same : Polled entries polledEntries)
    (read : ∀ entry ∈ entries, entry.Read) (punctual : docket.Punctual env entries) {finish : Int}
    (ordered : (polledEntries.map Entry.time ++ [finish]).Pairwise (· ≤ ·)) :
    (docket.run env polledEntries).session.verdict env finish =
      (docket.run env entries).session.verdict env finish := by
  obtain ⟨start, least⟩ : ∃ start, ∀ time ∈ polledEntries.map Entry.time ++ [finish], start ≤ time := by
    cases times : polledEntries.map Entry.time ++ [finish] with
    | nil => simp at times
    | cons time rest =>
      rw [times] at ordered
      refine ⟨time, fun other listed => ?_⟩
      rcases List.mem_cons.mp listed with rfl | later
      · exact le_rfl
      · exact (List.pairwise_cons.mp ordered).1 other later
  have alike := Alike.run same (.inl rfl : docket.Alike env start docket) read punctual
    (List.pairwise_cons.mpr ⟨least, ordered⟩)
  exact alike.verdict.symm

def eager (entries : List Entry) : List Entry :=
  entries.flatMap fun entry => [⟨entry.time, .timer⟩, entry]

theorem polled_eager (entries : List Entry) : Polled entries (eager entries) := by
  induction entries with
  | nil => exact .done
  | cons entry rest ih => exact .poll (.inl rfl) (.keep entry ih)

theorem eager_ordered {entries : List Entry} {finish : Int}
    (ordered : (entries.map Entry.time ++ [finish]).Pairwise (· ≤ ·)) :
    ((eager entries).map Entry.time ++ [finish]).Pairwise (· ≤ ·) := by
  simp only [eager, List.pairwise_append, List.pairwise_map, List.pairwise_flatMap] at ordered ⊢
  obtain ⟨entriesOrdered, -, bounded⟩ := ordered
  refine ⟨⟨by simp, entriesOrdered.imp ?_⟩, by simp, ?_⟩
  · intro first second before
    simp [before]
  · have late : ∀ entry ∈ entries, entry.time ≤ finish := by simpa using bounded
    simp only [List.mem_map, List.mem_flatMap, List.mem_cons, List.not_mem_nil, or_false, forall_eq]
    rintro _ ⟨_, ⟨entry, listed, rfl | rfl⟩, rfl⟩
    · exact late entry listed
    · exact late _ listed

end Docket

end Polls

/-- No worker ends a session that is past its cap, and no spawn fails after its session has
ended. -/
def System.Punctual (env : Environment) (system : System) (moment : Moment) : Prop :=
  ∀ index thread, moment.action.thread = some index → system.threads[index]? = some thread →
    thread.phase.InTime env moment.time (system.manager.sessions.lookup thread.session) moment.action

theorem Moment.Read.clock {moment : Moment} (read : moment.Read) {manager : SessionManager}
    {id : String} (resolved : moment.action.resolves manager = some id) :
    moment.action.clock = some moment.time := by
  obtain ⟨time, action⟩ := moment
  cases action <;> first | cases resolved | exact congrArg some (read _ rfl)

namespace System

variable {env : Environment} {system : System} {id : String}

theorem entries_cases (env : Environment) (id : String) (system : System) (moment : Moment) :
    system.entries env id moment = [] ∨
      ∃ move, system.entries env id moment = [⟨moment.time, move⟩] := by
  unfold entries
  split_ifs <;> simp

theorem docketed_times (env : Environment) (id : String) (system : System) (run : List Moment) :
    ((system.docketed env id run).map Entry.time).Sublist (run.map Moment.time) := by
  induction run generalizing system with
  | nil => exact .slnil
  | cons moment rest ih =>
    obtain none | ⟨move, one⟩ := system.entries_cases env id moment
    · simp only [docketed, none, List.nil_append, List.map_cons]
      exact (ih _).cons _
    · simp only [docketed, one, List.cons_append, List.nil_append, List.map_cons]
      exact (ih _).cons_cons _

theorem docketed_read (env : Environment) (id : String) (system : System) (run : List Moment)
    (read : ∀ moment ∈ run, moment.Read) :
    ∀ entry ∈ system.docketed env id run, entry.Read := by
  induction run generalizing system with
  | nil => simp [docketed]
  | cons moment rest ih =>
    intro entry listed
    rcases List.mem_append.mp listed with now | later
    · unfold entries at now
      split_ifs at now with running creates resolved worked
      · cases List.mem_singleton.mp now
        intro _ _ called
        cases called
      · cases List.mem_singleton.mp now
        rintro _ _ called
        cases called
        exact (read moment List.mem_cons_self).clock resolved
      · cases List.mem_singleton.mp now
        intro _ _ called
        cases called
      · cases now
      · cases now
    · exact ih _ (fun other member => read other (List.mem_cons_of_mem _ member)) entry later

end System

namespace Docket

variable {env : Environment} {system : System} {id : String} {docket : Docket}

theorem punctual_append (first second : List Entry) :
    docket.Punctual env (first ++ second) ↔
      docket.Punctual env first ∧ (docket.run env first).Punctual env second := by
  induction first generalizing docket with
  | nil => simp [Punctual, run]
  | cons entry rest ih => simp [Punctual, run, ih, and_assoc]

theorem punctual_entries {moment : Moment} (fresh : env.NeverRepeats)
    (reachable : (machine env).Reachable system) (follows : docket.Follows id system)
    (punctual : system.Punctual env moment) :
    docket.Punctual env (system.entries env id moment) := by
  unfold System.entries
  split_ifs with running creates resolved worked
  · refine ⟨?_, trivial⟩
    intro _ _ _ made
    cases made
  · refine ⟨?_, trivial⟩
    intro _ _ _ made
    cases made
  · refine ⟨?_, trivial⟩
    intro _ _ phase made worker
    cases made
    obtain ⟨thread, here, rfl⟩ := Option.map_eq_some_iff.mp worked
    obtain ⟨index, own, here⟩ := Option.bind_eq_some_iff.mp here
    have distinct := (workers_of_reachable fresh reachable).distinct
    rw [← follows.worker, System.worker_of_thread distinct (List.mem_of_getElem? here)] at worker
    cases worker
    rw [← follows.record]
    exact punctual index thread own here
  · trivial
  · trivial

theorem punctual_docketed (fresh : env.NeverRepeats) (reachable : (machine env).Reachable system)
    (drawn : env.Drawn system.manager.draws id) (run : List Moment)
    (read : ∀ moment ∈ run, moment.Read) (follows : docket.Follows id system)
    (punctual : (timedMachine env).Allowed (System.Punctual env) system run) :
    docket.Punctual env (system.docketed env id run) := by
  induction run generalizing system docket with
  | nil => trivial
  | cons moment rest ih =>
    have grown := (system.step_manager env moment.action).draws_le
    rw [System.docketed, punctual_append]
    refine ⟨punctual_entries fresh reachable follows punctual.1, ?_⟩
    apply ih (reachable.step moment.action) (drawn.mono grown)
    · exact fun other listed => read other (List.mem_cons_of_mem _ listed)
    · exact follows_step fresh reachable (read moment List.mem_cons_self) drawn follows
    · exact punctual.2

end Docket

/-- Once the cap has elapsed only the timeout ends the state, so every other way out of it is
taken within the cap. -/
structure DeadlineKept (env : Environment) (now : Int) (before after : Session) : Prop where
  expires : before.TimedOut env now → after = before ∨ after = before.abortOnTimeout env now
  sealing : before.state = .OPEN → after.state = .SEALED →
    now - before.stateEnteredAt ≤ min before.timeout (seconds 600)
  dispatch : before.state = .SEALED → after.state = .CALCULATING →
    now - before.stateEnteredAt ≤ min before.timeout (seconds 600)
  delivery : before.state = .CALCULATING → after.state = .CLOSED →
    now - before.stateEnteredAt ≤ seconds env.options.maxCalculatingSeconds

theorem DeadlineKept.of_expires {env : Environment} {now : Int} {before after : Session}
    (expires : before.TimedOut env now → after = before ∨ after = before.abortOnTimeout env now) :
    DeadlineKept env now before after := by
  have within {first next : SessionState} (state : before.state = first) (moved : after.state = next)
      (waiting : ¬ first.Terminal) (apart : next ≠ first) (alive : next ≠ .ABORTED) :
      now - before.stateEnteredAt ≤ before.effectiveTimeout env := by
    by_contra late
    obtain rfl | rfl := expires ⟨state ▸ waiting, not_le.mp late⟩
    · exact apart (moved.symm.trans state)
    · exact alive moved.symm
  refine ⟨expires, ?_, ?_, ?_⟩
  · intro state next
    have bound := within state next (by decide) (by decide) (by decide)
    simpa [Session.effectiveTimeout, state, kMaxOpenSeconds] using bound
  · intro state next
    have bound := within state next (by decide) (by decide) (by decide)
    simpa [Session.effectiveTimeout, state, kMaxSealedSeconds] using bound
  · intro state next
    have bound := within state next (by decide) (by decide) (by decide)
    simpa [Session.effectiveTimeout, state] using bound

theorem deadlineKept_step {env : Environment} (fresh : env.NeverRepeats) {system : System}
    (reachable : (machine env).Reachable system) {moment : Moment} (read : moment.Read)
    (punctual : system.Punctual env moment) {id : String} {before after : Session}
    (stored : system.manager.sessions.lookup id = some before)
    (found : (system.step env moment.action).1.manager.sessions.lookup id = some after) :
    DeadlineKept env moment.time before after := by
  apply DeadlineKept.of_expires
  intro due
  have unchanged {next : Option Session} (same : next = some before) (is : next = some after) :
      after = before ∨ after = before.abortOnTimeout env moment.time :=
    .inl (Option.some.inj (is.symm.trans same))
  cases owner_of_reachable fresh reachable moment.action with
  | call owner session resolved held isolated =>
    by_cases same : id = owner
    · subst same
      cases held.symm.trans stored
      rw [isolated.record] at found
      rw [← Session.checkAndEnforceTimeout_of_due due]
      obtain ⟨kept | checked, -⟩ := Session.call_over (.inr due) (read.clock resolved)
        (env.randomHex system.manager.draws)
      · exact .inl (Option.some.inj (found.symm.trans kept))
      · exact .inr (Option.some.inj (found.symm.trans checked))
    · exact unchanged ((isolated.records id same).trans stored) found
  | worker index thread own here isolated =>
    by_cases same : id = thread.session
    · subst same
      rw [isolated.record, Phase.work_over (fun session held => ?_) (punctual index thread own here)]
        at found
      · exact unchanged stored found
      · cases held.symm.trans stored
        exact .inr due
    · exact unchanged ((isolated.records id same).trans stored) found
  | create now request same manager =>
    have reading : now = moment.time := read now (by rw [same]; rfl)
    rw [manager, createSession_swept fresh (sound_of_reachable fresh reachable) now request stored]
      at found
    obtain rfl := Session.swept_some found
    rw [reading, Session.checkAndEnforceTimeout_of_due due]
    exact .inr rfl
  | nobody same =>
    rw [same] at found
    exact unchanged stored found

/-- What becomes of a session that is stored now, in a run from here: the same as with polls put
in anywhere between its own steps, and the same as with eager timeouts. -/
structure EndsAlike (env : Environment) (system : System) (run : List Moment) (id : String)
    (session : Session) : Prop where
  followed : ((timedMachine env).after system run).manager.sessions.lookup id =
    ((system.docket id session).run env (system.docketed env id run)).record
  polls : ∀ polled finish, Polled (system.docketed env id run) polled →
    (polled.map Entry.time ++ [finish]).Pairwise (· ≤ ·) →
    ((system.docket id session).run env polled).session.verdict env finish =
      ((system.docket id session).run env (system.docketed env id run)).session.verdict env finish
  eager : ∀ finish, (∀ moment ∈ run, moment.time ≤ finish) →
    ((system.docket id session).run env
        (Docket.eager (system.docketed env id run))).session.verdict env finish =
      ((system.docket id session).run env (system.docketed env id run)).session.verdict env finish

theorem endsAlike_of_punctual {env : Environment} (fresh : env.NeverRepeats) {system : System}
    (reachable : (machine env).Reachable system) {run : List Moment} (timed : Timed run)
    (punctual : (timedMachine env).Allowed (System.Punctual env) system run) {id : String}
    {session : Session} (stored : system.manager.sessions.lookup id = some session) :
    EndsAlike env system run id session := by
  have drawn := (sound_of_reachable fresh reachable).idsDrawn id session stored
  have follows := System.docket_follows stored
  have inTime := Docket.punctual_docketed fresh reachable drawn run timed.read follows punctual
  have read := system.docketed_read env id run timed.read
  constructor
  · exact (Docket.follows_after fresh reachable drawn run timed.read follows).record
  · intro polled finish same ordered
    exact Docket.verdict_of_polled same read inTime ordered
  · intro finish late
    apply Docket.verdict_of_polled (Docket.polled_eager _) read inTime
    apply Docket.eager_ordered
    have times := system.docketed_times env id run
    refine List.pairwise_append.mpr ⟨?_, by simp, ?_⟩
    · exact (List.pairwise_map.mpr timed.ordered).sublist times
    · intro time listed last isLast
      obtain ⟨moment, member, rfl⟩ := List.mem_map.mp (times.subset listed)
      rw [List.mem_singleton.mp isLast]
      exact late moment member

structure DeadlinesHold (env : Environment) (run : List Moment) : Prop where
  kept : ∀ earlier moment later, run = earlier ++ moment :: later → ∀ id before after,
    ((timedMachine env).after (timedMachine env).initial earlier).manager.sessions.lookup id =
      some before →
    ((timedMachine env).after (timedMachine env).initial (earlier ++ [moment])).manager.sessions.lookup
      id = some after →
    DeadlineKept env moment.time before after
  alike : ∀ earlier later, run = earlier ++ later → ∀ id session,
    ((timedMachine env).after (timedMachine env).initial earlier).manager.sessions.lookup id =
      some session →
    EndsAlike env ((timedMachine env).after (timedMachine env).initial earlier) later id session

theorem timed_reachable (env : Environment) (run : List Moment) :
    (machine env).Reachable ((timedMachine env).after (timedMachine env).initial run) := by
  refine (timedMachine env).after_preserves (machine env).Reachable ?_ _ ⟨[], rfl⟩ run
  intro system moment reachable
  exact reachable.step moment.action

/-- The caps bind in every run in which no worker ends a session past its cap. -/
theorem deadlines_hold_of_punctual (env : Environment) (fresh : env.NeverRepeats)
    (run : List Moment) (timed : Timed run)
    (punctual : (timedMachine env).Allowed (System.Punctual env) (timedMachine env).initial run) :
    DeadlinesHold env run := by
  constructor
  · rintro earlier moment later rfl id before after stored found
    obtain ⟨-, here, -⟩ := ((timedMachine env).allowed_append _ _ _).mp punctual
    rw [Machine.after_append] at found
    exact deadlineKept_step fresh (timed_reachable env earlier) (timed.read moment (by simp)) here
      stored found
  · rintro earlier later rfl id session stored
    obtain ⟨-, rest⟩ := ((timedMachine env).allowed_append _ _ _).mp punctual
    have after : Timed later :=
      ⟨fun moment listed => timed.read moment (List.mem_append_right _ listed),
        (List.pairwise_append.mp timed.ordered).2.1⟩
    exact endsAlike_of_punctual fresh (timed_reachable env earlier) after rest stored

-- Everything happens at once but the last step of the worker.
def calendarWrite (time : Int) : List Moment :=
  (calendarSubmissions ++ (calendarInference "\x7b\x7d").take 3).map (Moment.mk 0) ++
    [⟨time, .writeResult 0 time⟩]

theorem calendarWrite_timed {time : Int} (later : 0 ≤ time) : Timed (calendarWrite time) := by
  constructor
  · simp [calendarWrite, calendarSubmissions, calendarInference, Moment.Read, Action.clock]
  · simp [calendarWrite, calendarSubmissions, calendarInference, later]

theorem punctual_of_harmless {env : Environment} {system : System} {moment : Moment}
    (writes : ∀ index now, moment.action ≠ .writeResult index now)
    (fails : ∀ index what, moment.action ≠ .spawnFails index what) : system.Punctual env moment := by
  intro index thread own here
  unfold Phase.InTime
  split
  next written => exact absurd written (writes _ _)
  next failed => exact absurd failed (fails _ _)
  next => trivial

def calendarInferred : System :=
  (timedMachine calendarEnv).after (timedMachine calendarEnv).initial
    ((calendarSubmissions ++ (calendarInference "\x7b\x7d").take 3).map (Moment.mk 0))

-- The session that the worker is about to write, with its state and when it entered it.
theorem calendarInferred_pending :
    calendarInferred.threads.map Thread.session = ["a"] ∧
      (calendarInferred.manager.sessions.lookup "a").map
        (fun session => (session.state, session.stateEnteredAt)) = some (.CALCULATING, 0) := by
  decide +kernel

theorem calendar_deadlines_hold : DeadlinesHold calendarEnv (calendarWrite (seconds 1800)) := by
  apply deadlines_hold_of_punctual calendarEnv (countingEnv_neverRepeats _) _
    (calendarWrite_timed (by decide))
  refine ((timedMachine calendarEnv).allowed_append _ _ _).mpr ⟨?_, ?_, trivial⟩
  · refine ⟨?_, ?_, ?_, ?_, ?_, ?_, ?_, ?_, trivial⟩
    all_goals exact punctual_of_harmless (by simp) (by simp)
  · obtain ⟨threads, pending⟩ := calendarInferred_pending
    intro index thread own here
    cases own
    have named : thread.session = "a" := by
      have first := congrArg (·[0]?) threads
      simpa [show calendarInferred.threads[0]? = some thread from here] using first
    unfold Phase.InTime
    split
    next =>
      intro session found calculating
      rw [named] at found
      rw [show calendarInferred.manager.sessions.lookup "a" = some session from found] at pending
      simp only [Option.map_some, Option.some.injEq, Prod.mk.injEq] at pending
      simp only [Session.TimedOut, Session.effectiveTimeout, pending.1, pending.2]
      decide
    next failed => cases failed
    next => trivial

/-- A worker delivers a second after the cap: the session is CLOSED, and it is ABORTED when
somebody polls right before. -/
theorem late_worker_delivers :
    Timed (calendarWrite (seconds 1801)) ∧
      ¬ DeadlinesHold calendarEnv (calendarWrite (seconds 1801)) ∧
      (((machine calendarEnv).after calendarInferred
        [.writeResult 0 (seconds 1801)]).manager.sessions.lookup "a").map Session.state =
          some .CLOSED ∧
      (((machine calendarEnv).after calendarInferred
        [.getResult (seconds 1801) ⟨"aa"⟩, .writeResult 0 (seconds 1801)]).manager.sessions.lookup
          "a").map Session.state = some .ABORTED := by
  have closed : (((machine calendarEnv).after calendarInferred
      [.writeResult 0 (seconds 1801)]).manager.sessions.lookup "a").map Session.state =
        some .CLOSED := by decide +kernel
  refine ⟨calendarWrite_timed (by decide), ?_, closed, by decide +kernel⟩
  intro hold
  obtain ⟨before, stored, waiting⟩ := Option.map_eq_some_iff.mp calendarInferred_pending.2
  obtain ⟨after, found, delivered⟩ := Option.map_eq_some_iff.mp closed
  simp only [Prod.mk.injEq] at waiting
  have kept := hold.kept _ ⟨seconds 1801, .writeResult 0 (seconds 1801)⟩ [] rfl "a" before after
    stored (by rw [Machine.after_append]; exact found)
  have bound := kept.delivery waiting.1 delivered
  rw [waiting.2] at bound
  revert bound
  decide

end Ztab
