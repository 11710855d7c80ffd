import Mathlib.Algebra.Order.BigOperators.Group.List
import Ztab.Session.Records

set_option autoImplicit false

/-!
# Capacity

What the manager holds is bounded by its options, whatever is called: the sessions, their
participants and nonces, and the three indexes. A creation is only turned away for want of room when
every place is taken by a session that the sweep has to keep.
-/

namespace Ztab

def Session.Keyed (session : Session) : Prop :=
  FlatHashMap.size session.nonceToToken ≤ session.size

theorem FlatHashMap.size_insert_le {K V : Type} [DecidableEq K] (map : FlatHashMap K V) (key : K)
    (value : V) : FlatHashMap.size (map.insert key value) ≤ FlatHashMap.size map + 1 := by
  by_cases present : key ∈ map
  · rw [FlatHashMap.size_insert_of_mem map key value present]
    omega
  · rw [FlatHashMap.size_insert_of_not_mem map key value present]

theorem Session.Step.keyed {env : Environment} {actor : Actor} {before after : Session}
    (step : before.Step env actor after) (keyed : before.Keyed) : after.Keyed := by
  cases step with
  | same => exact keyed
  | timeout now due => exact keyed
  | spawnFailure what => exact keyed
  | write now outcome waiting => cases outcome <;> exact keyed
  | accept token participant listed waiting missing =>
    exact keyed.trans (before.size_reseat listed).ge
  | sealing now token participant listed waiting full accepted =>
    exact keyed.trans (before.size_reseat listed).ge
  | submit token inputJson canonical participant listed unsubmitted waiting admitted missing =>
    exact keyed.trans (before.size_reseat listed).ge
  | calculate now token inputJson canonical participant listed unsubmitted waiting =>
    exact keyed.trans (before.size_reseat listed).ge

theorem keyed_of_reachable {env : Environment} (fresh : env.NeverRepeats) {system : System}
    (reachable : (machine env).Reachable system) {id : String} {session : Session}
    (stored : system.manager.sessions.lookup id = some session) : session.Keyed := by
  obtain ⟨actions, rfl⟩ := reachable
  induction actions using List.reverseRecOn generalizing id session with
  | nil => cases stored
  | append_singleton earlier action ih =>
    have reachable : (machine env).Reachable ((machine env).after (machine env).initial earlier) :=
      ⟨earlier, rfl⟩
    rw [Machine.after_append] at stored
    cases record_origin fresh reachable stored with
    | stepped held step => exact step.keyed (ih held)
    | @joined held now request response token same answered kept waiting unanswered newcomer =>
      have before : FlatHashMap.size held.nonceToToken ≤ held.size := ih kept
      have grown : (held.addParticipant token request.clientNonce).size = held.size + 1 :=
        FlatHashMap.size_insert_of_not_mem _ _ _ newcomer
      unfold Session.Keyed
      rw [grown]
      simp only [Session.addParticipant]
      split
      · omega
      · have most := FlatHashMap.size_insert_le held.nonceToToken request.clientNonce token
        omega
    | created same named => exact Nat.zero_le _

namespace SessionManager

variable {env : Environment} {manager : SessionManager}

theorem size_sweep (env : Environment) (now : Int) (manager : SessionManager) :
    FlatHashMap.size (manager.sweepTerminalSessions env now).sessions ≤
      FlatHashMap.size manager.sessions := by
  apply FlatHashMap.size_le
  intro id member
  obtain ⟨session, found⟩ := (FlatHashMap.mem_iff_lookup _ _).mp member
  obtain ⟨held, stored, -⟩ := swept_step found
  exact (FlatHashMap.mem_iff_lookup _ _).mpr ⟨held, stored⟩

theorem size_put {id : String} {session : Session}
    (stored : manager.sessions.lookup id = some session) (after : Session) :
    FlatHashMap.size (manager.sessions.insert id after) = FlatHashMap.size manager.sessions :=
  FlatHashMap.size_insert_of_mem _ _ _ ((FlatHashMap.mem_iff_lookup _ _).mpr ⟨session, stored⟩)

theorem index_size_le {index : FlatHashMap String String} (each : Nat)
    (entries : Session → List String)
    (few : ∀ id session, manager.sessions.lookup id = some session → (entries session).length ≤ each)
    (listed : ∀ key id, index.lookup key = some id →
      ∃ session, manager.sessions.lookup id = some session ∧ key ∈ entries session) :
    FlatHashMap.size index ≤ each * FlatHashMap.size manager.sessions := by
  have within : index.keys ⊆ (FlatHashMap.values manager.sessions).flatMap entries := by
    intro key member
    obtain ⟨id, found⟩ := (FlatHashMap.mem_iff_lookup index key).mp member
    obtain ⟨session, stored, here⟩ := listed key id found
    exact List.mem_flatMap.mpr ⟨session, (FlatHashMap.mem_values _ _).mpr ⟨id, stored⟩, here⟩
  have most := (List.subperm_of_subset index.keys_nodup within).length_le
  have total : ((FlatHashMap.values manager.sessions).flatMap entries).length ≤
      (FlatHashMap.values manager.sessions).length * each := by
    rw [List.length_flatMap]
    have bounded : ∀ count ∈ (FlatHashMap.values manager.sessions).map fun session =>
        (entries session).length, count ≤ each := by
      intro count member
      obtain ⟨session, stored, rfl⟩ := List.mem_map.mp member
      obtain ⟨id, found⟩ := (FlatHashMap.mem_values _ _).mp stored
      exact few id session found
    simpa using List.sum_le_card_nsmul _ each bounded
  rw [FlatHashMap.length_values] at total
  rw [Nat.mul_comm]
  exact most.trans total

end SessionManager

theorem ManagerStep.roomy {env : Environment} {actor : Actor} {before after : SessionManager}
    (step : ManagerStep env before actor after) {limit : Int} (enough : env.options.maxSessions ≤ limit)
    (roomy : (FlatHashMap.size before.sessions : Int) ≤ limit) :
    (FlatHashMap.size after.sessions : Int) ≤ limit := by
  cases step with
  | within step =>
    cases step with
    | keep count draws later => exact roomy
    | update id session after count stored step =>
      have same := SessionManager.size_put stored after
      simp only [SessionManager.putSession]
      omega
  | join id clientNonce session stored waiting room =>
    have same := SessionManager.size_put stored
      (session.addParticipant (env.randomHex before.draws kParticipantTokenBytes) clientNonce)
    simp only [SessionManager.admitParticipant, SessionManager.putSession,
      SessionManager.generateRandomHex]
    omega
  | sweep now =>
    have fewer := before.size_sweep env now
    omega
  | create now request policyDef admitted =>
    have room := admitted.room
    have most := FlatHashMap.size_insert_le (before.sweepTerminalSessions env now).sessions
      (env.randomHex (before.sweepTerminalSessions env now).draws kSessionIdBytes)
      (SessionManager.opened env now (before.sweepTerminalSessions env now) request policyDef)
    have same : ((before.sweepTerminalSessions env now).openSession env now request
        policyDef).1.sessions = (before.sweepTerminalSessions env now).sessions.insert
          (env.randomHex (before.sweepTerminalSessions env now).draws kSessionIdBytes)
          (SessionManager.opened env now (before.sweepTerminalSessions env now) request policyDef) := rfl
    rw [same]
    omega

theorem size_sessions_of_reachable {env : Environment} {system : System}
    (reachable : (machine env).Reachable system) :
    (FlatHashMap.size system.manager.sessions : Int) ≤ max 0 env.options.maxSessions := by
  apply (machine env).reachable_invariant
    (fun system => (FlatHashMap.size system.manager.sessions : Int) ≤ max 0 env.options.maxSessions)
    ?_ ?_ system reachable
  · exact le_max_left _ _
  · intro system action roomy
    exact (system.step_manager env action).roomy (le_max_right _ _) roomy

/-- What the manager holds, by what its options allow. -/
structure Bounded (env : Environment) (manager : SessionManager) : Prop where
  sessions : (FlatHashMap.size manager.sessions : Int) ≤ max 0 env.options.maxSessions
  records : ∀ id session, manager.sessions.lookup id = some session →
    session.size ≤ 100 ∧ session.participantTokens.length = session.size ∧
      FlatHashMap.size session.nonceToToken ≤ session.size
  participants : FlatHashMap.size manager.participantToSession ≤
    100 * FlatHashMap.size manager.sessions
  invitations : FlatHashMap.size manager.invitationToSession ≤ FlatHashMap.size manager.sessions
  nonces : FlatHashMap.size manager.creatorNonceToSession ≤ FlatHashMap.size manager.sessions

theorem bounded_of_reachable {env : Environment} (fresh : env.NeverRepeats) {system : System}
    (reachable : (machine env).Reachable system) : Bounded env system.manager := by
  have sound := sound_of_reachable fresh reachable
  have few (id : String) (session : Session)
      (stored : system.manager.sessions.lookup id = some session) : session.size ≤ 100 := by
    have ready := sound.ready id session stored
    have bounds := ready.sizeBounds
    have expected := ready.expectedBounds
    omega
  refine ⟨size_sessions_of_reachable reachable, ?_, ?_, ?_, ?_⟩
  · intro id session stored
    exact ⟨few id session stored, (sound.ready id session stored).length_tokens,
      keyed_of_reachable fresh reachable stored⟩
  · apply SessionManager.index_size_le 100 (fun session => session.participants.keys) few
    intro token id found
    exact (sound.participants token id).mp found
  · rw [← Nat.one_mul (FlatHashMap.size system.manager.sessions)]
    apply SessionManager.index_size_le 1 (fun session => [session.invitationToken]) (by simp)
    intro token id found
    obtain ⟨session, stored, same⟩ := (sound.invitations token id).mp found
    exact ⟨session, stored, by simp [same]⟩
  · rw [← Nat.one_mul (FlatHashMap.size system.manager.sessions)]
    apply SessionManager.index_size_le 1 (fun session => [session.creatorNonce]) (by simp)
    intro nonce id found
    obtain ⟨session, stored, same, -⟩ := (sound.creatorNonces nonce id).mp found
    exact ⟨session, stored, by simp [same]⟩

def Session.InUse (env : Environment) (now : Int) (session : Session) : Prop :=
  ¬ session.ShouldErase env now

theorem swept_inUse {env : Environment} {now : Int} {manager : SessionManager} {id : String}
    {session : Session}
    (found : (manager.sweepTerminalSessions env now).sessions.lookup id = some session) :
    session.InUse env now := by
  rw [SessionManager.lookup_sweep] at found
  obtain ⟨held, -, kept⟩ := Option.bind_eq_some_iff.mp found
  unfold Session.swept at kept
  split_ifs at kept with due
  cases kept
  exact due

def Exhausted {α : Type} (outcome : Outcome α) : Prop :=
  ∃ message, outcome = refuse .resourceExhausted message

theorem not_exhausted_refuse {α : Type} {code : StatusCode} (other : code ≠ .resourceExhausted)
    (message : String) : ¬ Exhausted (refuse code message : Outcome α) := by
  rintro ⟨said, same⟩
  simp only [refuse, Except.error.injEq, Failure.status.injEq, Status.mk.injEq] at same
  exact other same.1

theorem not_exhausted_checkBuiltInSchema (env : Environment) (name schema : String) {failure : Failure}
    (refused : SessionManager.checkBuiltInSchema env name schema = .error failure) {α : Type} :
    ¬ Exhausted (.error failure : Outcome α) := by
  unfold SessionManager.checkBuiltInSchema at refused
  split at refused
  next => cases refused
  next =>
    split at refused
    next => cases refused
    next =>
      cases refused
      exact not_exhausted_refuse (by decide) _
    next raised notStatus read =>
      cases refused
      rintro ⟨message, same⟩
      cases same
      exact notStatus _ rfl

theorem not_exhausted_replayCreate {manager : SessionManager} {request : CreateSessionRequest}
    {failure : Failure} (refused : SessionManager.replayCreate manager request = .error failure)
    {α : Type} : ¬ Exhausted (.error failure : Outcome α) := by
  unfold SessionManager.replayCreate at refused
  split at refused
  next => cases refused
  next =>
    split at refused
    next =>
      cases refused
      exact not_exhausted_refuse (by decide) _
    next =>
      split at refused
      next => cases refused
      next =>
        simp only at refused
        split at refused
        next =>
          cases refused
          exact not_exhausted_refuse (by decide) _
        next => cases refused

theorem exhausted_admitSession_iff (env : Environment) (manager : SessionManager)
    (request : CreateSessionRequest) : Exhausted (manager.admitSession env request) ↔
      env.options.maxSessions ≤ FlatHashMap.size manager.sessions := by
  unfold SessionManager.admitSession
  simp only
  split
  next full => exact ⟨fun _ => full, fun _ => ⟨_, rfl⟩⟩
  next vacant =>
    refine ⟨fun exhausted => absurd exhausted ?_, fun enough => absurd enough vacant⟩
    split
    next status unknown => exact not_exhausted_refuse (by decide) _
    next policyDef known =>
      split_ifs with few many long
      · exact not_exhausted_refuse (by decide) _
      · exact not_exhausted_refuse (by decide) _
      · exact not_exhausted_refuse (by decide) _
      · split
        next failure refused => exact not_exhausted_checkBuiltInSchema env _ _ refused
        next =>
          split
          next failure refused => exact not_exhausted_checkBuiltInSchema env _ _ refused
          next =>
            split
            next failure refused => exact not_exhausted_replayCreate refused
            next response replayed => rintro ⟨message, same⟩; cases same
            next unanswered => rintro ⟨message, same⟩; cases same

/--
In every reachable state the manager is within its bounds; and a creation is told that the server is
full exactly when, after the sweep, `max_sessions` sessions are left, every one of which the sweep
has to keep.
-/
theorem manager_bounded_and_room_exact (env : Environment) (fresh : env.NeverRepeats)
    (system : System) (reachable : (machine env).Reachable system) (now : Int)
    (request : CreateSessionRequest) :
    let created := system.manager.createSession env now request
    Bounded env system.manager ∧
      (Exhausted created.2 ↔ env.options.maxSessions ≤
        FlatHashMap.size (system.manager.sweepTerminalSessions env now).sessions) ∧
      ∀ id session, (system.manager.sweepTerminalSessions env now).sessions.lookup id =
        some session → session.InUse env now := by
  intro created
  refine ⟨bounded_of_reachable fresh reachable, ?_, fun _ _ => swept_inUse⟩
  rw [← exhausted_admitSession_iff env _ request]
  have outcome : created = system.manager.createSession env now request := rfl
  unfold SessionManager.createSession at outcome
  simp only at outcome
  rw [outcome]
  split
  next failure refused =>
    rw [refused]
    constructor
    · rintro ⟨message, same⟩
      cases same
      exact ⟨message, rfl⟩
    · rintro ⟨message, same⟩
      cases same
      exact ⟨message, rfl⟩
  next response admitted =>
    rw [admitted]
    constructor <;> (rintro ⟨message, same⟩; cases same)
  next policyDef admitted =>
    rw [admitted]
    constructor <;> (rintro ⟨message, same⟩; cases same)

theorem calendar_bounded :
    let system := (machine calendarEnv).after (machine calendarEnv).initial calendarSubmissions
    FlatHashMap.size system.manager.participantToSession = 2 ∧ Bounded calendarEnv system.manager := by
  intro system
  have reachable : (machine calendarEnv).Reachable system := ⟨calendarSubmissions, rfl⟩
  exact ⟨by decide +kernel, (manager_bounded_and_room_exact calendarEnv (countingEnv_neverRepeats _)
    system reachable 0 {}).1⟩

end Ztab
