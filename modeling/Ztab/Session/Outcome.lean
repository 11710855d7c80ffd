import Ztab.Session.Lifecycle

set_option autoImplicit false

/-!
# Reported outcomes

Once a participant has seen the outcome of a session nobody sees another one,
unless a spawn fails after its session was aborted: the handler of a failed spawn
writes its own error over the one already reported.
-/

namespace Ztab

namespace Session

theorem report_state (session : Session) : session.report.state = session.state := by
  unfold report
  split <;> rfl

theorem checkAndEnforceTimeout_of_terminal (env : Environment) (now : Int) {session : Session}
    (terminal : session.state.Terminal) : session.checkAndEnforceTimeout env now = session := by
  unfold checkAndEnforceTimeout
  rw [if_neg (fun due => due.1 terminal)]

end Session

namespace System

variable {env : Environment} {system : System}

theorem getResult_ok {now : Int} {token : String} {response : GetResultResponse}
    (answered : (system.step env (.getResult now ⟨token⟩)).2 = .getResult (.ok response)) :
    ∃ id session, system.manager.participantToSession.lookup token = some id ∧
      system.manager.sessions.lookup id = some session ∧
      response = (session.checkAndEnforceTimeout env now).report ∧
      (system.step env (.getResult now ⟨token⟩)).1.manager.sessions.lookup id =
        some (session.checkAndEnforceTimeout env now) := by
  unfold step at answered ⊢
  split at answered
  next alive =>
    simp only [perform, SessionManager.getResult] at answered
    rw [if_pos alive]
    simp only [perform, SessionManager.getResult]
    obtain refused | ⟨id, session, participant, known, handled⟩ :=
      system.manager.withSession_cases env now token Session.getResult
    · rw [refused] at answered
      cases answered
    · rw [handled] at answered ⊢
      obtain ⟨indexed, stored, -⟩ := SessionManager.authenticate_ok known
      cases answered
      exact ⟨id, session, indexed, stored, rfl, AList.lookup_insert _⟩
  next => cases answered

/-- A spawn fails only while its session is erased or still waits for the worker. -/
def TimelySpawnFailure (system : System) : Action → Prop
  | .spawnFails index _ => ∀ thread, system.threads[index]? = some thread →
    thread.phase = .spawning → ∀ session,
      system.manager.sessions.lookup thread.session = some session → session.state = .CALCULATING
  | _ => True

-- With timely failures nothing at all touches a terminal session.
theorem terminal_unchanged (fresh : env.NeverRepeats) (reachable : (machine env).Reachable system)
    {id : String} {session : Session} (stored : system.manager.sessions.lookup id = some session)
    (terminal : session.state.Terminal) (actions : List Action)
    (timely : (machine env).Allowed TimelySpawnFailure system actions) (later : Session)
    (found : ((machine env).after system actions).manager.sessions.lookup id = some later) :
    later = session := by
  refine terminal_after fresh TimelySpawnFailure (fun held => held = session)
    (fun held same => same ▸ terminal) ?_ reachable
    ((sound_of_reachable fresh reachable).idsDrawn id session stored) ?_ actions timely later found
  · intro system index what thread held _ timely here phase kept same
    have calculating := timely thread here phase held kept
    rw [same] at calculating
    simp [calculating, SessionState.Terminal] at terminal
  · intro held kept
    exact Option.some.inj (kept.symm.trans stored)

end System

def OutcomesAgree (env : Environment) (actions : List Action) : Prop :=
  ∀ earlier between later now now' token token' id response response',
    actions = earlier ++ .getResult now ⟨token⟩ :: (between ++ .getResult now' ⟨token'⟩ :: later) →
    let first := (machine env).after (machine env).initial earlier
    let second := (machine env).after first (.getResult now ⟨token⟩ :: between)
    first.manager.participantToSession.lookup token = some id →
    second.manager.participantToSession.lookup token' = some id →
    (first.step env (.getResult now ⟨token⟩)).2 = .getResult (.ok response) →
    (second.step env (.getResult now' ⟨token'⟩)).2 = .getResult (.ok response') →
    response.state.Terminal → response'.state.Terminal → response = response'

theorem outcomes_agree_of_timely (env : Environment) (fresh : env.NeverRepeats)
    (actions : List Action)
    (timely : (machine env).Allowed System.TimelySpawnFailure (machine env).initial actions) :
    OutcomesAgree env actions := by
  intro earlier between later now now' token token' id response response' split first second
    owner owner' answered answered' terminal terminal'
  obtain ⟨id₁, session, indexed, stored, rfl, kept⟩ := System.getResult_ok answered
  obtain ⟨id₂, session', indexed', stored', rfl, -⟩ := System.getResult_ok answered'
  cases owner.symm.trans indexed
  cases owner'.symm.trans indexed'
  rw [split, (machine env).allowed_append] at timely
  have rest : (machine env).Allowed System.TimelySpawnFailure
      (first.step env (.getResult now ⟨token⟩)).1
      (between ++ .getResult now' ⟨token'⟩ :: later) := timely.2.2
  rw [(machine env).allowed_append] at rest
  have reachable : (machine env).Reachable (first.step env (.getResult now ⟨token⟩)).1 :=
    Machine.Reachable.step ⟨earlier, rfl⟩ _
  rw [Session.report_state] at terminal
  have same := System.terminal_unchanged fresh reachable kept terminal between rest.1 session' stored'
  rw [same, Session.checkAndEnforceTimeout_of_terminal env now' terminal]

theorem calendar_outcomes_agree :
    OutcomesAgree calendarEnv
      (calendarSubmissions ++
        [.spawnFails 0 "busy", .getResult 0 ⟨"aa"⟩, .getResult 0 ⟨"aaaa"⟩]) := by
  have pending : (((machine calendarEnv).after (machine calendarEnv).initial
      calendarSubmissions).threads[0]?.map Thread.session = some "a") ∧
      (((machine calendarEnv).after (machine calendarEnv).initial
        calendarSubmissions).manager.sessions.lookup "a").map Session.state =
          some .CALCULATING := by decide +kernel
  refine outcomes_agree_of_timely calendarEnv (countingEnv_neverRepeats _) _ ?_
  refine ⟨trivial, trivial, trivial, trivial, trivial, ?_, trivial, trivial, trivial⟩
  intro thread here phase session stored
  obtain ⟨owned, waiting⟩ := pending
  have named : thread.session = "a" := by
    rw [Option.map_eq_some_iff] at owned
    obtain ⟨other, there, named⟩ := owned
    cases here.symm.trans there
    exact named
  rw [Option.map_eq_some_iff] at waiting
  obtain ⟨held, kept, state⟩ := waiting
  rw [named] at stored
  cases stored.symm.trans kept
  exact state

-- The spawn outlives the inference deadline: the first participant reads the timeout, the
-- second one the error of the failed spawn.
def lateSpawnFailure : List Action :=
  calendarSubmissions ++
    [.getResult (seconds 1801) ⟨"aa"⟩, .spawnFails 0 "busy", .getResult (seconds 1801) ⟨"aaaa"⟩]

theorem late_spawn_failure_disagrees : ¬ OutcomesAgree calendarEnv lateSpawnFailure := by
  intro agree
  have same := agree calendarSubmissions [.spawnFails 0 "busy"] [] (seconds 1801) (seconds 1801)
    "aa" "aaaa" "a"
    { state := .ABORTED, errorCode := .LLM_GENERATION_FAILED
      errorDetail := "Session timed out in state CALCULATING after 1801000000000ns" }
    { state := .ABORTED, errorDetail := "Failed to spawn inference thread: busy" }
    rfl (by decide +kernel) (by decide +kernel) rfl rfl (by decide) (by decide)
  cases same

end Ztab
