import Ztab.Session.Steps

set_option autoImplicit false

namespace Ztab

def Session.swept (env : Environment) (now : Int) (session : Session) : Option Session :=
  if (session.checkAndEnforceTimeout env now).ShouldErase env now then none
  else some (session.checkAndEnforceTimeout env now)

theorem Session.swept_some {env : Environment} {now : Int} {session after : Session}
    (kept : session.swept env now = some after) : after = session.checkAndEnforceTimeout env now := by
  unfold Session.swept at kept
  split_ifs at kept
  cases kept
  rfl

namespace SessionManager

variable (env : Environment) (now : Int)

theorem sweepSession_absent {manager : SessionManager} {id : String}
    (absent : manager.sessions.lookup id = none) : manager.sweepSession env now id = manager := by
  simp [sweepSession, absent]

theorem sweepSession_erases {manager : SessionManager} {id : String} {found : Session}
    (stored : manager.sessions.lookup id = some found)
    (due : (found.checkAndEnforceTimeout env now).ShouldErase env now) :
    manager.sweepSession env now id =
      manager.eraseSession id (found.checkAndEnforceTimeout env now) := by
  simp [sweepSession, stored, due]

theorem sweepSession_keeps {manager : SessionManager} {id : String} {found : Session}
    (stored : manager.sessions.lookup id = some found)
    (kept : ¬ (found.checkAndEnforceTimeout env now).ShouldErase env now) :
    manager.sweepSession env now id =
      manager.putSession id (found.checkAndEnforceTimeout env now) := by
  simp [sweepSession, stored, kept]

theorem lookup_sweepSession (manager : SessionManager) (id other : String) :
    (manager.sweepSession env now id).sessions.lookup other =
      if other = id then (manager.sessions.lookup id).bind (Session.swept env now)
      else manager.sessions.lookup other := by
  cases stored : manager.sessions.lookup id with
  | none =>
    rw [sweepSession_absent env now stored]
    by_cases same : other = id
    · subst same
      simp [stored]
    · simp [same]
  | some found =>
    by_cases due : (found.checkAndEnforceTimeout env now).ShouldErase env now
    · rw [sweepSession_erases env now stored due]
      simp [eraseSession, FlatHashMap.lookup_erase_ite, Session.swept, due]
    · rw [sweepSession_keeps env now stored due]
      simp [putSession, FlatHashMap.lookup_insert_ite, Session.swept, due]

theorem lookup_sweepAll (ids : List String) (distinct : ids.Nodup) (manager : SessionManager)
    (other : String) :
    (ids.foldl (sweepSession env now) manager).sessions.lookup other =
      if other ∈ ids then (manager.sessions.lookup other).bind (Session.swept env now)
      else manager.sessions.lookup other := by
  induction ids generalizing manager with
  | nil => simp
  | cons id rest ih =>
    obtain ⟨apart, distinct⟩ := List.nodup_cons.mp distinct
    rw [List.foldl_cons, ih distinct, lookup_sweepSession]
    by_cases same : other = id
    · subst same
      simp [apart]
    · simp [same]

-- The sweep decides on each session by that session's record and the clock alone.
theorem lookup_sweep (manager : SessionManager) (id : String) :
    (manager.sweepTerminalSessions env now).sessions.lookup id =
      (manager.sessions.lookup id).bind (Session.swept env now) := by
  unfold sweepTerminalSessions
  rw [lookup_sweepAll env now _ manager.sessions.keys_nodup]
  split
  next => rfl
  next absent =>
    have missing : manager.sessions.lookup id = none := AList.lookup_eq_none.mpr absent
    simp [missing]

theorem sweep_preserves (invariant : SessionManager → Prop)
    (preserved : ∀ manager id, invariant manager → invariant (manager.sweepSession env now id))
    (manager : SessionManager) (holds : invariant manager) :
    invariant (manager.sweepTerminalSessions env now) := by
  unfold sweepTerminalSessions
  generalize manager.sessions.keys = ids
  induction ids generalizing manager with
  | nil => exact holds
  | cons id rest ih => exact ih _ (preserved manager id holds)

end SessionManager

inductive Origin (env : Environment) (before : SessionManager) (id : String) : Actor → Session → Prop
  | stepped {actor : Actor} {held session : Session} (stored : before.sessions.lookup id = some held)
      (step : held.Step env actor session) : Origin env before id actor session
  | joined {held : Session} (token clientNonce : String)
      (stored : before.sessions.lookup id = some held) (waiting : held.state = .OPEN) :
      Origin env before id .rpc (held.addParticipant token clientNonce)
  | created {call : Nat} {policyDef : PolicyDefinition} {request : CreateSessionRequest}
      (now : Int) (creatorToken invitationToken : String) (recent : before.draws ≤ call)
      (named : id = env.randomHex call kSessionIdBytes)
      (admitted : SessionManager.Admitted env (before.sweepTerminalSessions env now) request policyDef) :
      Origin env before id .rpc
        (SessionManager.newSession now request policyDef id creatorToken invitationToken)

theorem draws_sweep (env : Environment) (now : Int) (manager : SessionManager) :
    (manager.sweepTerminalSessions env now).draws = manager.draws := by
  refine SessionManager.sweep_preserves env now (fun after => after.draws = manager.draws) ?_
    manager rfl
  intro after id holds
  unfold SessionManager.sweepSession
  split
  next => exact holds
  next =>
    simp only
    split_ifs <;> exact holds

theorem swept_step {env : Environment} {now : Int} {manager : SessionManager} {id : String}
    {session : Session}
    (found : (manager.sweepTerminalSessions env now).sessions.lookup id = some session) :
    ∃ held, manager.sessions.lookup id = some held ∧ held.Step env .rpc session := by
  rw [SessionManager.lookup_sweep] at found
  obtain ⟨held, stored, swept⟩ := Option.bind_eq_some_iff.mp found
  obtain rfl := Session.swept_some swept
  exact ⟨held, stored, held.checkAndEnforceTimeout_step env now⟩

theorem ManagerStep.origin {env : Environment} {actor : Actor} {before after : SessionManager}
    (step : ManagerStep env before actor after) {id : String} {session : Session}
    (found : after.sessions.lookup id = some session) : Origin env before id actor session := by
  cases step with
  | within step =>
    cases step with
    | keep count draws later => exact .stepped found .same
    | update other held after count stored step =>
      replace found : (before.sessions.insert other after).lookup id = some session := found
      rw [FlatHashMap.lookup_insert_ite] at found
      split_ifs at found with same
      · cases found
        exact .stepped (same ▸ stored) step
      · exact .stepped found .same
  | join other clientNonce held stored waiting room =>
    replace found : (before.sessions.insert other _).lookup id = some session := found
    rw [FlatHashMap.lookup_insert_ite] at found
    split_ifs at found with same
    · cases found
      exact .joined _ clientNonce (same ▸ stored) waiting
    · exact .stepped found .same
  | sweep now =>
    obtain ⟨held, stored, step⟩ := swept_step found
    exact .stepped stored step
  | create now request policyDef admitted =>
    replace found : ((before.sweepTerminalSessions env now).sessions.insert _ _).lookup id =
      some session := found
    rw [FlatHashMap.lookup_insert_ite] at found
    split_ifs at found with same
    · cases found
      subst same
      exact .created now _ _ (draws_sweep env now before).ge rfl admitted
    · obtain ⟨held, stored, step⟩ := swept_step found
      exact .stepped stored step

end Ztab
