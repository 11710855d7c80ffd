import Ztab.Session.Lifecycle
import Ztab.Session.Records

set_option autoImplicit false

/-!
# Status reports

What `GetSessionStatus` tells the participants of a session, over a whole run: the counts never
fall, the state follows the documented graph, and state and counts fit together in every report.
-/

namespace Ztab

namespace Session

variable {env : Environment} {before after : Session}

def Advances (before after : Session) : Prop :=
  ∀ token participant, before.participants.lookup token = some participant →
    ∃ later, after.participants.lookup token = some later ∧
      (participant.accepted = true → later.accepted = true) ∧
      (participant.inputSubmitted = true → later.inputSubmitted = true)

theorem Advances.refl (session : Session) : session.Advances session :=
  fun _ participant found => ⟨participant, found, fun yes => yes, fun yes => yes⟩

theorem Advances.trans {middle : Session} (first : before.Advances middle)
    (second : middle.Advances after) : before.Advances after := by
  intro token participant found
  obtain ⟨between, there, accepted, submitted⟩ := first token participant found
  obtain ⟨later, here, stillAccepted, stillSubmitted⟩ := second token between there
  exact ⟨later, here, stillAccepted ∘ accepted, stillSubmitted ∘ submitted⟩

theorem advances_of_participants (same : after.participants = before.participants) :
    before.Advances after := by
  intro token participant found
  exact ⟨participant, same ▸ found, fun yes => yes, fun yes => yes⟩

theorem advances_reseat {token : String} {participant replaced : Participant}
    (listed : before.participants.lookup token = some replaced)
    (accepted : replaced.accepted = true → participant.accepted = true)
    (submitted : replaced.inputSubmitted = true → participant.inputSubmitted = true) :
    before.Advances (before.reseat token participant) := by
  intro other held found
  by_cases here : other = token
  · subst here
    cases listed.symm.trans found
    exact ⟨participant, before.lookup_reseat_self other participant, accepted, submitted⟩
  · exact ⟨held, (AList.lookup_insert_ne here).trans found, fun yes => yes, fun yes => yes⟩

theorem Step.advances {actor : Actor} (step : before.Step env actor after) :
    before.Advances after := by
  cases step with
  | same => exact .refl before
  | timeout now due => exact advances_of_participants rfl
  | spawnFailure what => exact advances_of_participants rfl
  | write now outcome waiting => cases outcome <;> exact advances_of_participants rfl
  | accept token participant listed waiting missing =>
    exact advances_reseat listed (fun _ => rfl) (fun yes => yes)
  | sealing now token participant listed waiting full accepted =>
    have marked : before.Advances (before.markAccepted token participant) :=
      advances_reseat listed (fun _ => rfl) (fun yes => yes)
    exact marked
  | submit token inputJson canonical participant listed unsubmitted waiting admitted missing =>
    exact advances_reseat listed (fun yes => yes) (fun _ => rfl)
  | calculate now token inputJson canonical participant listed unsubmitted waiting =>
    have stored : before.Advances (before.storeInput token participant canonical) :=
      advances_reseat listed (fun yes => yes) (fun _ => rfl)
    exact stored

theorem Change.advances (change : before.Change env after) : before.Advances after := by
  cases change with
  | stepped step => exact step.advances
  | joined token clientNonce waiting unanswered newcomer =>
    intro other participant found
    refine ⟨participant, ?_, fun yes => yes, fun yes => yes⟩
    rw [lookup_addParticipant, if_neg, found]
    rintro rfl
    exact newcomer ((FlatHashMap.mem_iff_lookup _ _).mpr ⟨participant, found⟩)

theorem changes_advance (changes : Relation.ReflTransGen (Change env) before after) :
    before.Advances after := by
  induction changes with
  | refl => exact .refl before
  | tail earlier change ih => exact ih.trans change.advances

theorem Advances.counts (advances : before.Advances after) :
    before.size ≤ after.size ∧ before.acceptedCount ≤ after.acceptedCount ∧
      before.submittedCount ≤ after.submittedCount := by
  refine ⟨?_, ?_, ?_⟩
  · apply FlatHashMap.size_le
    intro token member
    obtain ⟨participant, found⟩ := (FlatHashMap.mem_iff_lookup _ _).mp member
    obtain ⟨later, kept, -, -⟩ := advances token participant found
    exact (FlatHashMap.mem_iff_lookup _ _).mpr ⟨later, kept⟩
  · apply FlatHashMap.countP_values_le
    intro token participant found accepted
    obtain ⟨later, kept, still, -⟩ := advances token participant found
    exact ⟨later, kept, still accepted⟩
  · apply FlatHashMap.countP_values_le
    intro token participant found submitted
    obtain ⟨later, kept, -, still⟩ := advances token participant found
    exact ⟨later, kept, still submitted⟩

def Consented (session : Session) : Prop :=
  ∀ token participant, session.participants.lookup token = some participant →
    participant.inputSubmitted = true → participant.accepted = true

theorem Consented.reseat {token : String} {participant : Participant} (consented : before.Consented)
    (here : participant.inputSubmitted = true → participant.accepted = true) :
    (before.reseat token participant).Consented := by
  intro other held found
  by_cases same : other = token
  · subst same
    cases (before.lookup_reseat_self other participant).symm.trans found
    exact here
  · exact consented other held ((AList.lookup_insert_ne same).symm.trans found)

theorem Step.consented {actor : Actor} (step : before.Step env actor after)
    (ready : before.Ready) (consented : before.Consented) : after.Consented := by
  cases step with
  | same => exact consented
  | timeout now due => exact consented
  | spawnFailure what => exact consented
  | write now outcome waiting => cases outcome <;> exact consented
  | accept token participant listed waiting missing => exact consented.reseat (fun _ => rfl)
  | sealing now token participant listed waiting full accepted =>
    have marked : (before.markAccepted token participant).Consented :=
      consented.reseat (fun _ => rfl)
    exact marked
  | submit token inputJson canonical participant listed unsubmitted waiting admitted missing =>
    -- In SEALED everybody has accepted.
    exact consented.reseat fun _ => (ready.advanced (.inl waiting)).2 token participant listed
  | calculate now token inputJson canonical participant listed unsubmitted waiting =>
    have stored : (before.storeInput token participant canonical).Consented :=
      consented.reseat fun _ => (ready.advanced (.inl waiting)).2 token participant listed
    exact stored

end Session

theorem consented_of_reachable {env : Environment} (fresh : env.NeverRepeats) {system : System}
    (reachable : (machine env).Reachable system) {id : String} {session : Session}
    (stored : system.manager.sessions.lookup id = some session) : session.Consented := by
  obtain ⟨actions, rfl⟩ := reachable
  induction actions using List.reverseRecOn generalizing id session with
  | nil => cases stored
  | append_singleton earlier action ih =>
    have reachable : (machine env).Reachable ((machine env).after (machine env).initial earlier) :=
      ⟨earlier, rfl⟩
    rw [Machine.after_append] at stored
    have ready := (sound_of_reachable fresh (reachable.after [action])).ready _ _ stored
    cases record_origin fresh reachable stored with
    | stepped held step =>
      exact step.consented ((sound_of_reachable fresh reachable).ready _ _ held) (ih held)
    | joined same answered held waiting unanswered newcomer =>
      intro token participant found
      rw [Session.lookup_addParticipant] at found
      split at found
      · cases found
        simp
      · exact ih held token participant found
    | created same named =>
      intro token participant found submitted
      rw [ready.openEmpty rfl token participant found] at submitted
      cases submitted

def Session.status (session : Session) : GetSessionStatusResponse where
  state := session.state
  participantsJoined := session.size
  participantsAccepted := session.acceptedCount
  inputsReceived := session.submittedCount

theorem System.getSessionStatus_ok {env : Environment} {system : System} {now : Int} {token : String}
    {response : GetSessionStatusResponse}
    (answered : (system.step env (.getSessionStatus now ⟨token⟩)).2 =
      .getSessionStatus (.ok response)) :
    ∃ id session, system.manager.participantToSession.lookup token = some id ∧
      response = session.status ∧
      (system.step env (.getSessionStatus now ⟨token⟩)).1.manager.sessions.lookup id =
        some session := by
  unfold step at answered ⊢
  split at answered
  next alive =>
    simp only [perform, SessionManager.getSessionStatus] at answered
    rw [if_pos alive]
    simp only [perform, SessionManager.getSessionStatus]
    obtain refused | ⟨id, session, participant, known, handled⟩ :=
      system.manager.withSession_cases env now token Session.getSessionStatus
    · rw [refused] at answered
      cases answered
    · rw [handled] at answered ⊢
      obtain ⟨indexed, -, -⟩ := SessionManager.authenticate_ok known
      cases answered
      exact ⟨id, session.checkAndEnforceTimeout env now, indexed, rfl, AList.lookup_insert _⟩
  next => cases answered

/-- One report by itself: who has submitted has accepted, and the state says how many have. -/
structure GetSessionStatusResponse.Consistent (response : GetSessionStatusResponse)
    (expected : Int) : Prop where
  ordered : response.inputsReceived ≤ response.participantsAccepted ∧
    response.participantsAccepted ≤ response.participantsJoined
  joined : 1 ≤ response.participantsJoined ∧ (response.participantsJoined : Int) ≤ expected
  waiting : response.state = .OPEN →
    response.inputsReceived = 0 ∧ (response.participantsAccepted : Int) < expected
  sealed : response.state = .SEALED →
    (response.participantsAccepted : Int) = expected ∧ (response.inputsReceived : Int) < expected
  complete : response.state = .CALCULATING ∨ response.state = .CLOSED →
    (response.participantsAccepted : Int) = expected ∧ (response.inputsReceived : Int) = expected

structure GetSessionStatusResponse.Follows (earlier later : GetSessionStatusResponse) : Prop where
  states : Relation.ReflTransGen SessionState.Moves earlier.state later.state
  joined : earlier.participantsJoined ≤ later.participantsJoined
  accepted : earlier.participantsAccepted ≤ later.participantsAccepted
  received : earlier.inputsReceived ≤ later.inputsReceived

section

variable {session : Session}

theorem Session.acceptedCount_eq_size (session : Session) :
    session.acceptedCount = session.size ↔
      ∀ token participant, session.participants.lookup token = some participant →
        participant.accepted = true := by
  rw [← session.allAccepted_iff, allAccepted, List.all_eq_true, acceptedCount,
    show session.size = (FlatHashMap.values session.participants).length from
      (FlatHashMap.length_values session.participants).symm, List.countP_eq_length]

theorem Session.submittedCount_eq_zero (session : Session) :
    session.submittedCount = 0 ↔
      ∀ token participant, session.participants.lookup token = some participant →
        participant.inputSubmitted = false := by
  rw [submittedCount, List.countP_eq_zero, ← FlatHashMap.forall_values]
  simp

theorem Session.acceptedCount_le (session : Session) : session.acceptedCount ≤ session.size := by
  rw [size, ← FlatHashMap.length_values]
  exact List.countP_le_length

theorem Session.submittedCount_le (session : Session) : session.submittedCount ≤ session.size := by
  rw [size, ← FlatHashMap.length_values]
  exact List.countP_le_length

theorem Session.Consented.counts (consented : session.Consented) :
    session.submittedCount ≤ session.acceptedCount := by
  apply List.countP_mono_left
  exact (FlatHashMap.forall_values session.participants
    fun participant => participant.inputSubmitted = true → participant.accepted = true).mpr consented

theorem Session.status_consistent (ready : session.Ready) (consented : session.Consented) :
    session.status.Consistent session.policy.expectedParticipants := by
  have most := session.acceptedCount_le
  have bounds := ready.sizeBounds
  refine ⟨⟨consented.counts, most⟩, bounds, ?_, ?_, ?_⟩
  · intro waiting
    refine ⟨(session.submittedCount_eq_zero).mpr (ready.openEmpty waiting), ?_⟩
    by_contra enough
    have accepted : (session.size : Int) ≤ session.acceptedCount := by
      simp only [Session.status] at enough
      omega
    refine ready.openWaits waiting ⟨?_, session.acceptedCount_eq_size.mp (by omega)⟩
    simp only [Session.status] at enough
    omega
  · intro waiting
    obtain ⟨full, accepted⟩ := ready.advanced (.inl waiting)
    have all := session.acceptedCount_eq_size.mpr accepted
    obtain ⟨token, participant, found, unsubmitted⟩ := ready.sealedWaits waiting
    have fewer := session.submittedCount_le
    have missing : session.submittedCount ≠ session.size := by
      intro every
      rw [session.submittedCount_eq_size.mp every token participant found] at unsubmitted
      cases unsubmitted
    simp only [Session.status]
    omega
  · intro waiting
    have all := session.acceptedCount_eq_size.mpr (ready.advanced (.inr waiting)).2
    have every := session.submittedCount_eq_size.mpr (ready.calculated waiting)
    have full := (ready.advanced (.inr waiting)).1
    simp only [Session.status]
    omega

end

theorem states_follow {env : Environment} (fresh : env.NeverRepeats) {system : System}
    (reachable : (machine env).Reachable system) {id : String} (actions : List Action)
    {session later : Session} (stored : system.manager.sessions.lookup id = some session)
    (found : ((machine env).after system actions).manager.sessions.lookup id = some later) :
    Relation.ReflTransGen SessionState.Moves session.state later.state := by
  induction actions generalizing system session with
  | nil =>
    cases stored.symm.trans found
    exact .refl
  | cons action rest ih =>
    have sound := sound_of_reachable fresh reachable
    have drawn := (sound.idsDrawn id session stored).mono (system.step_manager env action).draws_le
    -- The session was there in between: its identifier is never drawn again.
    obtain ⟨middle, between, -⟩ := changes_after fresh (reachable.step action) drawn rest found
    have remaining := ih (reachable.step action) between found
    obtain same | moved := System.step_moves fresh sound (workers_of_reachable fresh reachable) action
      stored between
    · rwa [same] at remaining
    · exact .head moved remaining

/--
Any two reports about one session, whoever asks and whatever happens in between: each fits the state
it reports, and the later one follows the earlier one.
-/
theorem status_reports_follow (env : Environment) (fresh : env.NeverRepeats) (system : System)
    (reachable : (machine env).Reachable system) (now now' : Int) (token token' id : String)
    (between : List Action) (first second : GetSessionStatusResponse)
    (owner : system.manager.participantToSession.lookup token = some id)
    (answered : (system.step env (.getSessionStatus now ⟨token⟩)).2 = .getSessionStatus (.ok first))
    (owner' : ((machine env).after system
      (.getSessionStatus now ⟨token⟩ :: between)).manager.participantToSession.lookup token' = some id)
    (answered' : (((machine env).after system (.getSessionStatus now ⟨token⟩ :: between)).step env
      (.getSessionStatus now' ⟨token'⟩)).2 = .getSessionStatus (.ok second)) :
    (∃ expected, first.Consistent expected ∧ second.Consistent expected) ∧ first.Follows second := by
  obtain ⟨id₁, session, indexed, rfl, kept⟩ := System.getSessionStatus_ok answered
  obtain ⟨id₂, later, indexed', rfl, found⟩ := System.getSessionStatus_ok answered'
  cases owner.symm.trans indexed
  cases owner'.symm.trans indexed'
  have earlier := reachable.step (.getSessionStatus now ⟨token⟩)
  have last : ((machine env).after (system.step env (.getSessionStatus now ⟨token⟩)).1
      (between ++ [.getSessionStatus now' ⟨token'⟩])).manager.sessions.lookup id = some later := by
    rw [Machine.after_append]
    exact found
  have sound := sound_of_reachable fresh earlier
  obtain ⟨held, there, changes⟩ :=
    changes_after fresh earlier (sound.idsDrawn id session kept) _ last
  cases kept.symm.trans there
  have reached := earlier.after (between ++ [.getSessionStatus now' ⟨token'⟩])
  have policy := (Session.changes_continue changes).policy
  have counts := (Session.changes_advance changes).counts
  refine ⟨⟨session.policy.expectedParticipants, ?_, ?_⟩, ?_, counts.1, counts.2.1, counts.2.2⟩
  · exact Session.status_consistent (sound.ready id session kept)
      (consented_of_reachable fresh earlier kept)
  · rw [← policy]
    exact Session.status_consistent ((sound_of_reachable fresh reached).ready id later last)
      (consented_of_reachable fresh reached last)
  · exact states_follow fresh earlier _ kept last

/-- The creator asks when only it has joined, the other participant when both inputs are in. -/
theorem calendar_status_follows :
    let opened := (machine calendarEnv).after (machine calendarEnv).initial
      (calendarSubmissions.take 1)
    ∃ first second : GetSessionStatusResponse, first = ⟨.OPEN, 1, 1, 0⟩ ∧
      second = ⟨.CALCULATING, 2, 2, 2⟩ ∧
      (opened.step calendarEnv (.getSessionStatus 0 ⟨"aa"⟩)).2 = .getSessionStatus (.ok first) ∧
      first.Follows second := by
  have reachable : (machine calendarEnv).Reachable ((machine calendarEnv).after
    (machine calendarEnv).initial (calendarSubmissions.take 1)) := ⟨_, rfl⟩
  have follows := status_reports_follow calendarEnv (countingEnv_neverRepeats _) _ reachable 0 0 "aa"
    "aaaa" "a" (calendarSubmissions.drop 1) ⟨.OPEN, 1, 1, 0⟩ ⟨.CALCULATING, 2, 2, 2⟩
    (by decide +kernel) (by rfl) (by decide +kernel) (by rfl)
  exact ⟨_, _, rfl, rfl, by rfl, follows.2⟩

end Ztab
