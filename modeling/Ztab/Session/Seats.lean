import Ztab.Session.Creations
import Ztab.Session.Joins

set_option autoImplicit false

/-!
# Seats and admissions

An admission is a creation or a join. Each adds at most one seat to the store: the
creator's in a new session, or one in the session of the invitation.
-/

namespace Ztab

structure Seat where
  session : String
  invitation : String
  token : String
  deriving DecidableEq, Repr

namespace SessionManager

def seats (manager : SessionManager) : Finset Seat :=
  (manager.sessions.entries.flatMap fun entry =>
    entry.2.participants.keys.map (Seat.mk entry.1 entry.2.invitationToken)).toFinset

theorem mem_seats {manager : SessionManager} {seat : Seat} :
    seat ∈ manager.seats ↔ ∃ session, manager.sessions.lookup seat.session = some session ∧
      session.invitationToken = seat.invitation ∧ seat.token ∈ session.participants := by
  unfold seats
  rw [List.mem_toFinset, List.mem_flatMap]
  constructor
  · rintro ⟨⟨id, session⟩, listed, member⟩
    obtain ⟨token, seated, rfl⟩ := List.mem_map.mp member
    exact ⟨session, AList.mem_lookup_iff.mpr listed, rfl, seated⟩
  · rintro ⟨session, stored, invitation, seated⟩
    refine ⟨⟨seat.session, session⟩, AList.mem_lookup_iff.mp stored, ?_⟩
    exact List.mem_map.mpr ⟨seat.token, seated, by simp [invitation]⟩

def newSeats (before after : SessionManager) : Finset Seat := after.seats \ before.seats

theorem newSeats_eq_empty {before after : SessionManager}
    (kept : ∀ id session, after.sessions.lookup id = some session →
      ∃ held, before.sessions.lookup id = some held ∧ held.SameIdentity session) :
    newSeats before after = ∅ := by
  rw [newSeats, Finset.sdiff_eq_empty_iff_subset]
  intro seat seated
  obtain ⟨session, stored, invitation, member⟩ := mem_seats.mp seated
  obtain ⟨held, found, same⟩ := kept seat.session session stored
  exact mem_seats.mpr
    ⟨held, found, same.invitationToken.symm.trans invitation, (same.members _).mp member⟩

theorem newSeats_sweep (env : Environment) (now : Int) (manager : SessionManager) :
    newSeats manager (manager.sweepTerminalSessions env now) = ∅ := by
  apply newSeats_eq_empty
  intro id session found
  rw [lookup_sweep] at found
  obtain ⟨held, stored, swept⟩ := Option.bind_eq_some_iff.mp found
  exact ⟨held, stored, (Session.swept_step swept).identity⟩

-- One record is new, or has one participant more; the others are as they were.
theorem newSeats_eq_singleton {before after : SessionManager} {seat : Seat} {session : Session}
    (stored : after.sessions.lookup seat.session = some session)
    (invitation : session.invitationToken = seat.invitation)
    (seated : seat.token ∈ session.participants) (unseated : seat ∉ before.seats)
    (others : ∀ token ∈ session.participants, token = seat.token ∨
      { seat with token } ∈ before.seats)
    (kept : ∀ id, id ≠ seat.session → ∀ session, after.sessions.lookup id = some session →
      ∃ held, before.sessions.lookup id = some held ∧ held.SameIdentity session) :
    newSeats before after = {seat} := by
  ext other
  rw [newSeats, Finset.mem_sdiff, Finset.mem_singleton]
  constructor
  · rintro ⟨there, missing⟩
    obtain ⟨held, found, invited, member⟩ := mem_seats.mp there
    by_cases here : other.session = seat.session
    · rw [here, stored] at found
      cases found
      have same : other = { seat with token := other.token } := by
        cases other
        simp_all
      rcases others _ member with only | earlier
      · rw [same, only]
      · exact absurd (same ▸ earlier) missing
    · obtain ⟨earlier, was, identity⟩ := kept _ here held found
      refine absurd (mem_seats.mpr ⟨earlier, was, ?_, (identity.members _).mp member⟩) missing
      exact identity.invitationToken.symm.trans invited
  · rintro rfl
    exact ⟨mem_seats.mpr ⟨session, stored, invitation, seated⟩, unseated⟩

end SessionManager

structure Reserved (env : Environment) (system : System) (seat : Seat) (stands : Session → Prop) :
    Prop where
  idDrawn : env.Drawn system.manager.draws seat.session
  invitationDrawn : env.Drawn system.manager.draws seat.invitation
  alone : ∀ id session, system.manager.sessions.lookup id = some session →
    session.invitationToken = seat.invitation → id = seat.session
  stands : ∀ session, system.manager.sessions.lookup seat.session = some session → stands session

theorem Reserved.of_stored {env : Environment} {system : System}
    (sound : SessionManager.Sound env system.manager) {seat : Seat} {stands : Session → Prop}
    {session : Session} (stored : system.manager.sessions.lookup seat.session = some session)
    (invitation : session.invitationToken = seat.invitation) (holds : stands session) :
    Reserved env system seat stands where
  idDrawn := sound.idsDrawn _ session stored
  invitationDrawn := invitation ▸ sound.invitationsDrawn _ session stored
  alone id held found same := by
    have there := (sound.invitations seat.invitation id).mpr ⟨held, found, same⟩
    have here := (sound.invitations seat.invitation seat.session).mpr ⟨session, stored, invitation⟩
    exact Option.some.inj (there.symm.trans here)
  stands held found := by
    cases stored.symm.trans found
    exact holds

theorem Reserved.step {env : Environment} (fresh : env.NeverRepeats) {system : System}
    (reachable : (machine env).Reachable system) {seat : Seat} {stands : Session → Prop}
    (stable : ∀ before after, Session.Change env before after → stands before → stands after)
    (reserved : Reserved env system seat stands) (action : Action) :
    Reserved env (system.step env action).1 seat stands := by
  have grown := (system.step_manager env action).draws_le
  refine ⟨reserved.idDrawn.mono grown, reserved.invitationDrawn.mono grown, ?_, ?_⟩
  · intro id session found invitation
    cases record_origin fresh reachable found with
    | stepped stored step =>
      exact reserved.alone id _ stored (step.identity.invitationToken.symm.trans invitation)
    | joined same answered stored waiting unanswered newcomer =>
      exact reserved.alone id _ stored invitation
    | created same named =>
      exact absurd invitation.symm (reserved.invitationDrawn.ne_next fresh (by omega) _)
  · intro session found
    cases record_origin fresh reachable found with
    | stepped stored step => exact stable _ _ (.stepped step) (reserved.stands _ stored)
    | joined same answered stored waiting unanswered newcomer =>
      exact stable _ _ (.joined _ _ waiting unanswered newcomer) (reserved.stands _ stored)
    | created same named => exact absurd named (reserved.idDrawn.ne_next fresh le_rfl _)

inductive Admission where
  | create (request : CreateSessionRequest)
  | join (request : JoinSessionRequest)

namespace Admission

def action (now : Int) : Admission → Action
  | .create request => .createSession now request
  | .join request => .joinSession now request

def nonce : Admission → String
  | .create request => request.clientNonce
  | .join request => request.clientNonce

def Stands (admission : Admission) (seat : Seat) (session : Session) : Prop :=
  match admission with
  | .create request => session.Answers request seat.invitation seat.token
  | .join request => session.invitationToken = request.invitationToken ∧
      session.Seats request.clientNonce seat.token

theorem Stands.change {env : Environment} {admission : Admission} {seat : Seat}
    (before after : Session) (change : before.Change env after)
    (stands : admission.Stands seat before) : admission.Stands seat after := by
  cases admission with
  | create request => exact change.continues.answers stands
  | join request =>
    obtain ⟨invitation, seats⟩ := stands
    exact ⟨change.continues.invitationToken.trans invitation, change.seats seats⟩

structure Reserves (env : Environment) (admission : Admission) (system : System) (seat : Seat) : Prop
    extends Reserved env system seat (admission.Stands seat) where
  invited : ∀ request, admission = .join request → seat.invitation = request.invitationToken

theorem Reserves.step {env : Environment} (fresh : env.NeverRepeats) {system : System}
    (reachable : (machine env).Reachable system) {admission : Admission} {seat : Seat}
    (reserves : admission.Reserves env system seat) (action : Action) :
    admission.Reserves env (system.step env action).1 seat where
  toReserved := reserves.toReserved.step fresh reachable Stands.change action
  invited := reserves.invited

end Admission

def Reply.tokens : Reply → Option (Option String × String)
  | .createSession (.ok response) => some (some response.invitationToken, response.participantToken)
  | .joinSession (.ok response) => some (none, response.participantToken)
  | _ => none

structure Seat.Bears (seat : Seat) (tokens : Option String × String) : Prop where
  invitation : ∀ invitation, tokens.1 = some invitation → seat.invitation = invitation
  token : seat.token = tokens.2

theorem Seat.bears_joined {seat : Seat} {token : String} (same : seat.token = token) :
    seat.Bears (none, token) := ⟨by simp, same⟩

theorem Seat.bears_created {seat : Seat} {invitation token : String}
    (invited : seat.invitation = invitation) (same : seat.token = token) :
    seat.Bears (some invitation, token) := ⟨by simp [invited], same⟩

def SessionManager.Keeps (env : Environment) (manager : SessionManager) (now : Int) (seat : Seat) :
    Prop :=
  ∃ session kept, manager.sessions.lookup seat.session = some session ∧
    session.swept env now = some kept

structure SessionManager.Unused (manager : SessionManager) (nonce : String) : Prop where
  creator : manager.creatorNonceToSession.lookup nonce = none
  joiners : ∀ id session, manager.sessions.lookup id = some session →
    session.nonceToToken.lookup nonce = none

def Admission.Grants (env : Environment) (admission : Admission) (before : SessionManager)
    (result : System × Reply) : Prop :=
  (before.newSeats result.1.manager = ∅ ∧ result.2.tokens = none) ∨
    ∃ seat tokens, before.newSeats result.1.manager = {seat} ∧ result.2.tokens = some tokens ∧
      seat.Bears tokens ∧ (admission.nonce ≠ "" → admission.Reserves env result.1 seat)

def Seat.Repeats (seat : Seat) (before : SessionManager) (result : System × Reply) : Prop :=
  before.newSeats result.1.manager = ∅ ∧ ∀ tokens, result.2.tokens = some tokens → seat.Bears tokens

section Step

variable {env : Environment} {system : System} {now : Int}

theorem newSeats_unjoined (fresh : env.NeverRepeats) (reachable : (machine env).Reachable system)
    {action : Action} (kind : ∀ now request, action ≠ .createSession now request)
    (refused : ∀ response, (system.step env action).2 ≠ .joinSession (.ok response)) :
    system.manager.newSeats (system.step env action).1.manager = ∅ := by
  apply SessionManager.newSeats_eq_empty
  intro id session found
  cases record_origin fresh reachable found with
  | stepped stored step => exact ⟨_, stored, step.identity⟩
  | joined same answered stored waiting unanswered newcomer => exact absurd answered (refused _)
  | created same named => exact absurd same (kind _ _)

theorem unused_unreplayed (sound : SessionManager.Sound env system.manager)
    {request : CreateSessionRequest} (unused : system.manager.Unused request.clientNonce)
    (response : CreateSessionResponse) :
    SessionManager.replayCreate (system.manager.sweepTerminalSessions env now) request ≠
      .ok (some response) := by
  intro replayed
  obtain ⟨id, session, indexed, -, -⟩ := SessionManager.replayCreate_some replayed
  obtain ⟨kept, found, nonce, keyed⟩ := ((sound.sweep now).creatorNonces _ id).mp indexed
  rw [SessionManager.lookup_sweep] at found
  obtain ⟨held, stored, swept⟩ := Option.bind_eq_some_iff.mp found
  have before : held.creatorNonce = request.clientNonce :=
    (Session.swept_step swept).identity.creatorNonce.symm.trans nonce
  have known := (sound.creatorNonces _ id).mpr ⟨held, stored, before, keyed⟩
  rw [unused.creator] at known
  cases known

-- The creator's seat, by the random values the creation draws.
def SessionManager.creatorSeat (env : Environment) (manager : SessionManager) : Seat where
  session := env.randomHex manager.draws kSessionIdBytes
  invitation := env.randomHex (manager.draws + 2) kParticipantTokenBytes
  token := env.randomHex (manager.draws + 1) kParticipantTokenBytes

theorem newSeats_opened (fresh : env.NeverRepeats) (sound : SessionManager.Sound env system.manager)
    (request : CreateSessionRequest) (policyDef : PolicyDefinition) :
    system.manager.newSeats ((system.manager.sweepTerminalSessions env now).openSession env now request
      policyDef).1 = {system.manager.creatorSeat env} := by
  have drawn := draws_sweep env now system.manager
  have stored : ((system.manager.sweepTerminalSessions env now).openSession env now request
      policyDef).1.sessions.lookup (system.manager.creatorSeat env).session =
        some (system.manager.opened env now request policyDef) := by
    rw [SessionManager.creatorSeat, SessionManager.opened, ← drawn]
    exact AList.lookup_insert _
  apply SessionManager.newSeats_eq_singleton stored
  · rfl
  · exact (AList.mem_insert _).mpr (.inl rfl)
  · intro seated
    obtain ⟨held, found, -⟩ := SessionManager.mem_seats.mp seated
    exact (sound.idsDrawn _ held found).ne_next fresh le_rfl _ rfl
  · intro token member
    simp only [SessionManager.opened, SessionManager.newSession, AList.mem_insert,
      AList.notMem_empty, or_false] at member
    exact .inl member
  · intro id apart session found
    rw [SessionManager.creatorSeat, ← drawn] at apart
    have kept : (system.manager.sweepTerminalSessions env now).sessions.lookup id = some session :=
      (AList.lookup_insert_ne apart).symm.trans found
    rw [SessionManager.lookup_sweep] at kept
    obtain ⟨held, stored, swept⟩ := Option.bind_eq_some_iff.mp kept
    exact ⟨held, stored, (Session.swept_step swept).identity⟩

theorem create_grants (fresh : env.NeverRepeats) (reachable : (machine env).Reachable system)
    {request : CreateSessionRequest} (unused : system.manager.Unused request.clientNonce) :
    (Admission.create request).Grants env system.manager
      (system.step env (.createSession now request)) := by
  have sound := sound_of_reachable fresh reachable
  by_cases running : system.alive = true
  · unfold Admission.Grants
    have after := sound_of_reachable fresh (reachable.step (.createSession now request))
    have manager : (system.step env (.createSession now request)).1.manager =
        (system.manager.createSession env now request).1 :=
      System.step_createSession running now request
    rw [System.createSession_reply running, manager]
    obtain ⟨failure, result⟩ | ⟨response, replayed, -⟩ | ⟨policyDef, admitted, result⟩ :=
      system.manager.createSession_cases env now request
    · rw [result]
      exact .inl ⟨SessionManager.newSeats_sweep env now _, rfl⟩
    · exact absurd replayed (unused_unreplayed sound unused response)
    · rw [result] at manager ⊢
      have drawn := draws_sweep env now system.manager
      refine .inr ⟨_, _, newSeats_opened fresh sound request policyDef, rfl,
        Seat.bears_created ?_ ?_, ?_⟩
      · simp [SessionManager.openSession, SessionManager.generateRandomHex, drawn,
          SessionManager.creatorSeat]
      · simp [SessionManager.openSession, SessionManager.generateRandomHex, drawn,
          SessionManager.creatorSeat]
      · intro keyed
        have stored : (system.step env (.createSession now request)).1.manager.sessions.lookup
            (system.manager.creatorSeat env).session =
              some (system.manager.opened env now request policyDef) := by
          rw [manager, SessionManager.creatorSeat, SessionManager.opened, ← drawn]
          exact AList.lookup_insert _
        refine ⟨Reserved.of_stored after stored rfl ?_, by simp⟩
        exact ⟨keyed, SessionManager.replayCreate_valid keyed admitted.unanswered, rfl, rfl, rfl, rfl⟩
  · refine .inl ⟨?_, by simp [System.step, running, Reply.tokens]⟩
    simp [System.step, running, SessionManager.newSeats]

theorem create_repeats (fresh : env.NeverRepeats) (reachable : (machine env).Reachable system)
    {request : CreateSessionRequest} {seat : Seat}
    (reserves : (Admission.create request).Reserves env system seat)
    (keeps : system.manager.Keeps env now seat) :
    seat.Repeats system.manager (system.step env (.createSession now request)) := by
  have sound := sound_of_reachable fresh reachable
  obtain ⟨session, kept, stored, swept⟩ := keeps
  have found : (system.manager.sweepTerminalSessions env now).sessions.lookup seat.session =
      some kept := by simp [SessionManager.lookup_sweep, stored, swept]
  have answers : kept.Answers request seat.invitation seat.token :=
    (Session.Change.stepped (Session.swept_step swept)).continues.answers
      (reserves.stands session stored)
  have replays := SessionManager.replayCreate_answers (sound.sweep now).toIndexed found answers
  by_cases running : system.alive = true
  · unfold Seat.Repeats
    rw [System.createSession_reply running, System.step_createSession running]
    obtain ⟨failure, result⟩ | ⟨response, replayed, result⟩ | ⟨policyDef, admitted, -⟩ :=
      system.manager.createSession_cases env now request
    · rw [result]
      exact ⟨SessionManager.newSeats_sweep env now _, by simp [Reply.tokens]⟩
    · rw [result]
      refine ⟨SessionManager.newSeats_sweep env now _, ?_⟩
      cases replays.symm.trans replayed
      rintro tokens ⟨⟩
      exact Seat.bears_created rfl rfl
    · cases replays.symm.trans admitted.unanswered
  · simp [Seat.Repeats, System.step, running, SessionManager.newSeats, Reply.tokens]

theorem join_tokens_none {request : JoinSessionRequest}
    (refused : ∀ response, (system.step env (.joinSession now request)).2 ≠
      .joinSession (.ok response)) :
    (system.step env (.joinSession now request)).2.tokens = none := by
  by_cases running : system.alive = true
  · simp only [System.step, running, if_true, System.perform, System.joinSession] at refused ⊢
    cases outcome : (system.manager.joinSession env now request).2 with
    | ok response => simp [outcome] at refused
    | error failure => rfl
  · simp [System.step, running, Reply.tokens]

theorem join_grants (fresh : env.NeverRepeats) (reachable : (machine env).Reachable system)
    {request : JoinSessionRequest} (unused : system.manager.Unused request.clientNonce) :
    (Admission.join request).Grants env system.manager
      (system.step env (.joinSession now request)) := by
  have sound := sound_of_reachable fresh reachable
  by_cases succeeds : ∃ response, (system.step env (.joinSession now request)).2 =
      .joinSession (.ok response)
  · obtain ⟨response, answered⟩ := succeeds
    obtain ⟨id, session, -, indexed, stored, invited, joined, isolated⟩ :=
      joinedAt_of_answered fresh reachable answered
    have checked := (session.checkAndEnforceTimeout_step env now).identity
    obtain ⟨token, replayed, -⟩ | ⟨unanswered, -, same, granted⟩ := Session.join_cases joined
    · -- The nonce is in no table.
      obtain ⟨-, missing⟩ | ⟨-, -, recorded⟩ := SessionManager.replayJoin_ok_iff.mp replayed
      · cases missing
      · rw [checked.nonceToToken, unused.joiners id session stored] at recorded
        cases recorded
    · have record := isolated.record
      simp only [Session.call, same] at record
      refine .inr ⟨⟨id, request.invitationToken, response.participantToken⟩, _, ?_,
        by rw [answered]; rfl, Seat.bears_joined rfl, ?_⟩
      · apply SessionManager.newSeats_eq_singleton record
        · exact checked.invitationToken.trans invited
        · rw [granted]
          exact (AList.mem_insert _).mpr (.inl rfl)
        · intro seated
          obtain ⟨_, there, -, member⟩ := SessionManager.mem_seats.mp seated
          rw [granted] at member
          exact (sound.tokensDrawn _ _ there _ member).ne_next fresh le_rfl _ rfl
        · intro token member
          rw [granted]
          refine ((AList.mem_insert _).mp member).imp_right fun earlier => ?_
          exact SessionManager.mem_seats.mpr
            ⟨session, stored, invited, (checked.members token).mp earlier⟩
        · intro other apart held found
          rw [isolated.records other apart] at found
          exact ⟨held, found, .refl held⟩
      · intro keyed
        have seats := Session.join_seats joined keyed
        rw [same] at seats
        have invitation := checked.invitationToken.trans invited
        refine ⟨Reserved.of_stored (sound_of_reachable fresh (reachable.step _)) record invitation
          ⟨invitation, seats⟩, ?_⟩
        rintro _ ⟨⟩
        rfl
  · have refused := not_exists.mp succeeds
    exact .inl ⟨newSeats_unjoined fresh reachable (by simp) refused, join_tokens_none refused⟩

theorem join_repeats (fresh : env.NeverRepeats) (reachable : (machine env).Reachable system)
    {request : JoinSessionRequest} {seat : Seat}
    (reserves : (Admission.join request).Reserves env system seat) :
    seat.Repeats system.manager (system.step env (.joinSession now request)) := by
  have sound := sound_of_reachable fresh reachable
  by_cases succeeds : ∃ response, (system.step env (.joinSession now request)).2 =
      .joinSession (.ok response)
  · obtain ⟨response, answered⟩ := succeeds
    obtain ⟨id, session, running, indexed, stored, invitation, -, -⟩ :=
      joinedAt_of_answered fresh reachable answered
    have here : id = seat.session :=
      reserves.alone id session stored (invitation.trans (reserves.invited request rfl).symm)
    subst here
    obtain ⟨-, seats⟩ := reserves.stands session stored
    have replayed : JoinReplayed env system now request seat.session seat.token session :=
      System.joinSession_replayed sound.toIndexed running now stored invitation seats
    refine ⟨?_, ?_⟩
    · rw [replayed.manager]
      apply SessionManager.newSeats_eq_empty
      apply SessionManager.forall_put
      · exact ⟨session, stored, (session.checkAndEnforceTimeout_step env now).identity⟩
      · exact fun other held kept => ⟨held, kept, .refl held⟩
    · rw [replayed.reply]
      rintro tokens ⟨⟩
      exact Seat.bears_joined rfl
  · have refused := not_exists.mp succeeds
    refine ⟨newSeats_unjoined fresh reachable (by simp) refused, ?_⟩
    simp [join_tokens_none refused]

end Step

namespace Admission

variable {env : Environment} {system : System}

-- A nonce nobody used: a new seat with its tokens, or nothing.
theorem step_grants (fresh : env.NeverRepeats) (reachable : (machine env).Reachable system)
    (now : Int) {admission : Admission} (unused : system.manager.Unused admission.nonce) :
    admission.Grants env system.manager (system.step env (admission.action now)) := by
  cases admission with
  | create request => exact create_grants fresh reachable unused
  | join request => exact join_grants fresh reachable unused

-- A nonce a seat is held for: no new seat, and no tokens but those of the seat.
theorem step_repeats (fresh : env.NeverRepeats) (reachable : (machine env).Reachable system)
    (now : Int) {admission : Admission} {seat : Seat} (reserves : admission.Reserves env system seat)
    (keeps : ∀ request, admission = .create request → system.manager.Keeps env now seat) :
    seat.Repeats system.manager (system.step env (admission.action now)) := by
  cases admission with
  | create request => exact create_repeats fresh reachable reserves (keeps request rfl)
  | join request => exact join_repeats fresh reachable reserves

end Admission

end Ztab
