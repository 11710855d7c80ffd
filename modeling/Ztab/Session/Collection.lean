import Ztab.Session.Indexes

set_option autoImplicit false

/-!
# Collection of finished sessions

What SweepTerminalSessions aborts, what it removes, and what is left of the reverse indexes.
-/

namespace Ztab

namespace Session

def Collectable (env : Environment) (now : Int) (session : Session) : Prop :=
  (session.state = .ABORTED ∧
    (session.errorCode = .JOIN_TIMEOUT ∨ session.errorCode = .INPUT_TIMEOUT)) ∨
  (session.state.Terminal ∧
    now - session.stateEnteredAt > seconds env.options.terminalRetentionSeconds)

theorem shouldErase_iff (env : Environment) (now : Int) (session : Session) :
    session.ShouldErase env now ↔ session.Collectable env now := by
  unfold ShouldErase Collectable
  constructor
  · rintro ⟨terminal, stalled | old⟩
    · exact .inl stalled
    · exact .inr ⟨terminal, old⟩
  · rintro (⟨aborted, error⟩ | ⟨terminal, old⟩)
    · exact ⟨.inr aborted, .inl ⟨aborted, error⟩⟩
    · exact ⟨terminal, .inr old⟩

end Session

def IndexFollows (before after : FlatHashMap String String) (swept : SessionManager) : Prop :=
  ∀ key id, after.lookup key = some id ↔ before.lookup key = some id ∧ id ∈ swept.sessions

structure SweepExact (env : Environment) (now : Int) (manager swept : SessionManager) : Prop where
  -- A session past its cap is aborted, and only then looked at again.
  overdue : ∀ id session, manager.sessions.lookup id = some session → session.TimedOut env now →
    ((session.abortOnTimeout env now).Collectable env now → id ∉ swept.sessions) ∧
    (¬ (session.abortOnTimeout env now).Collectable env now →
      swept.sessions.lookup id = some (session.abortOnTimeout env now))
  punctual : ∀ id session, manager.sessions.lookup id = some session → ¬ session.TimedOut env now →
    (session.Collectable env now → id ∉ swept.sessions) ∧
    (¬ session.Collectable env now → swept.sessions.lookup id = some session)
  live : ∀ id session, manager.sessions.lookup id = some session → ¬ session.state.Terminal →
    ¬ session.TimedOut env now → swept.sessions.lookup id = some session
  nothingNew : ∀ id, id ∈ swept.sessions → id ∈ manager.sessions
  participants : IndexFollows manager.participantToSession swept.participantToSession swept
  invitations : IndexFollows manager.invitationToSession swept.invitationToSession swept
  creatorNonces : IndexFollows manager.creatorNonceToSession swept.creatorNonceToSession swept

section Sweep

variable {env : Environment} {now : Int} {manager : SessionManager} {id : String} {session : Session}

theorem swept_collected (stored : manager.sessions.lookup id = some session)
    (due : (session.checkAndEnforceTimeout env now).Collectable env now) :
    id ∉ (manager.sweepTerminalSessions env now).sessions := by
  rw [FlatHashMap.mem_iff_lookup, SessionManager.lookup_sweep, stored]
  simp [Session.swept, Session.shouldErase_iff, due]

theorem swept_kept (stored : manager.sessions.lookup id = some session)
    (kept : ¬ (session.checkAndEnforceTimeout env now).Collectable env now) :
    (manager.sweepTerminalSessions env now).sessions.lookup id =
      some (session.checkAndEnforceTimeout env now) := by
  rw [SessionManager.lookup_sweep, stored]
  simp [Session.swept, Session.shouldErase_iff, kept]

theorem mem_swept (present : id ∈ (manager.sweepTerminalSessions env now).sessions) :
    ∃ session, manager.sessions.lookup id = some session ∧
      (manager.sweepTerminalSessions env now).sessions.lookup id =
        some (session.checkAndEnforceTimeout env now) := by
  obtain ⟨after, found⟩ := (FlatHashMap.mem_iff_lookup _ _).mp present
  rw [SessionManager.lookup_sweep] at found
  obtain ⟨session, stored, swept⟩ := Option.bind_eq_some_iff.mp found
  refine ⟨session, stored, ?_⟩
  rw [SessionManager.lookup_sweep, stored, Option.bind_some, swept, Session.swept_some swept]

-- An index that is exact before and after lists, of the swept sessions, what it did before.
theorem indexFollows_of_exact {before after : FlatHashMap String String}
    {owns : String → Session → Prop}
    (exactBefore : ∀ key id, before.lookup key = some id ↔
      ∃ session, manager.sessions.lookup id = some session ∧ owns key session)
    (exactAfter : ∀ key id, after.lookup key = some id ↔
      ∃ session, (manager.sweepTerminalSessions env now).sessions.lookup id = some session ∧
        owns key session)
    (same : ∀ key (session : Session),
      owns key (session.checkAndEnforceTimeout env now) ↔ owns key session) :
    IndexFollows before after (manager.sweepTerminalSessions env now) := by
  intro key id
  rw [exactBefore, exactAfter]
  constructor
  · rintro ⟨held, found, owned⟩
    have present := (FlatHashMap.mem_iff_lookup _ _).mpr ⟨held, found⟩
    obtain ⟨session, stored, swept⟩ := mem_swept present
    cases found.symm.trans swept
    exact ⟨⟨session, stored, (same key session).mp owned⟩, present⟩
  · rintro ⟨⟨session, stored, owned⟩, present⟩
    obtain ⟨other, stored', swept⟩ := mem_swept present
    cases stored.symm.trans stored'
    exact ⟨_, swept, (same key session).mpr owned⟩

end Sweep

/-- A sweep aborts the sessions past their cap, removes the collectable ones with their index
entries, and leaves everything else alone. -/
theorem sweep_exact_of_reachable (env : Environment) (fresh : env.NeverRepeats) (system : System)
    (reachable : (machine env).Reachable system) (now : Int) :
    SweepExact env now system.manager (system.manager.sweepTerminalSessions env now) := by
  have sound := sound_of_reachable fresh reachable
  have soundAfter := sound.sweep now
  have identity (session : Session) : session.SameIdentity (session.checkAndEnforceTimeout env now) :=
    (session.checkAndEnforceTimeout_step env now).identity
  constructor
  · intro id session stored due
    have aborted : session.checkAndEnforceTimeout env now = session.abortOnTimeout env now := by
      simp [Session.checkAndEnforceTimeout, due]
    rw [← aborted]
    exact ⟨swept_collected stored, swept_kept stored⟩
  · intro id session stored due
    have same : session.checkAndEnforceTimeout env now = session := by
      simp [Session.checkAndEnforceTimeout, due]
    constructor
    · intro collectable
      exact swept_collected stored (same.symm ▸ collectable)
    · intro kept
      rw [swept_kept stored (same.symm ▸ kept), same]
  · intro id session stored active due
    have same : session.checkAndEnforceTimeout env now = session := by
      simp [Session.checkAndEnforceTimeout, due]
    have kept : ¬ session.Collectable env now := by
      rintro (⟨aborted, -⟩ | ⟨terminal, -⟩)
      · exact active (.inr aborted)
      · exact active terminal
    rw [swept_kept stored (same.symm ▸ kept), same]
  · intro id present
    obtain ⟨session, stored, -⟩ := mem_swept present
    exact (FlatHashMap.mem_iff_lookup _ _).mpr ⟨session, stored⟩
  · refine indexFollows_of_exact sound.participants soundAfter.participants fun key session => ?_
    exact (identity session).members key
  · refine indexFollows_of_exact sound.invitations soundAfter.invitations fun key session => ?_
    rw [(identity session).invitationToken]
  · refine indexFollows_of_exact sound.creatorNonces soundAfter.creatorNonces fun key session => ?_
    rw [(identity session).creatorNonce]

-- Nobody joined for more than the five minutes that the creator did not ask to change.
theorem calendar_sweep_exact :
    ∃ system, system = (machine calendarEnv).after (machine calendarEnv).initial
        (calendarSubmissions.take 1) ∧
      (system.manager.sessions.lookup "a").isSome = true ∧
      ((system.manager.sweepTerminalSessions calendarEnv (seconds 301)).sessions.lookup "a").isSome =
        false ∧
      SweepExact calendarEnv (seconds 301) system.manager
        (system.manager.sweepTerminalSessions calendarEnv (seconds 301)) :=
  ⟨_, rfl, by decide +kernel, by decide +kernel,
    sweep_exact_of_reachable calendarEnv (countingEnv_neverRepeats _) _ ⟨_, rfl⟩ (seconds 301)⟩

end Ztab
