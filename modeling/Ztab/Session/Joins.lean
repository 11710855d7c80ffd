import Mathlib.Data.Finset.Card
import Ztab.Session.Records

set_option autoImplicit false

/-!
# Idempotent admission

A join nonce stands for one seat of its session as long as the session is stored, and
every seat but the creator's is accounted for in the log.
-/

namespace Ztab

namespace SessionManager

theorem replayJoin_ok_iff {session : Session} {clientNonce : String} {answered : Option String} :
    replayJoin session clientNonce = .ok answered ↔
      (clientNonce = "" ∧ answered = none) ∨
        (clientNonce ≠ "" ∧ isValidUuidV4 clientNonce = true ∧
          answered = session.nonceToToken.lookup clientNonce) := by
  by_cases anonymous : clientNonce = ""
  · have answer : replayJoin session clientNonce = .ok none := by simp [replayJoin, anonymous]
    rw [answer, Except.ok.injEq]
    simp only [anonymous, ne_eq, not_true, true_and, false_and, or_false]
    exact eq_comm
  · by_cases valid : isValidUuidV4 clientNonce = true
    · have answer : replayJoin session clientNonce =
          .ok (session.nonceToToken.lookup clientNonce) := by simp [replayJoin, anonymous, valid]
      rw [answer, Except.ok.injEq]
      simp only [anonymous, valid, ne_eq, not_false_eq_true, true_and, false_and, false_or]
      exact eq_comm
    · simp [replayJoin, anonymous, valid, refuse]

end SessionManager

namespace Session

def Seats (session : Session) (nonce token : String) : Prop :=
  nonce ≠ "" ∧ isValidUuidV4 nonce = true ∧ session.nonceToToken.lookup nonce = some token

variable {env : Environment} {session after : Session} {nonce token : String}

theorem Change.seats (change : session.Change env after) (seats : session.Seats nonce token) :
    after.Seats nonce token := by
  obtain ⟨keyed, valid, recorded⟩ := seats
  refine ⟨keyed, valid, ?_⟩
  cases change with
  | stepped step => rw [step.identity.nonceToToken, recorded]
  | joined newcomer clientNonce waiting unanswered =>
    simp only [addParticipant]
    split_ifs with anonymous
    · exact recorded
    · rw [FlatHashMap.lookup_insert_ite]
      split_ifs with same
      · -- A nonce in the table is answered from it.
        subst same
        obtain ⟨empty, -⟩ | ⟨-, -, missing⟩ := SessionManager.replayJoin_ok_iff.mp unanswered
        · exact absurd empty anonymous
        · rw [recorded] at missing
          cases missing
      · exact recorded

theorem changes_seat (changes : Relation.ReflTransGen (Session.Change env) session after)
    (seats : session.Seats nonce token) : after.Seats nonce token := by
  induction changes with
  | refl => exact seats
  | tail earlier change ih => exact change.seats ih

theorem join_seats {newcomer : String} {response : JoinSessionResponse}
    (joined : (session.join newcomer nonce).2 = .ok response) (keyed : nonce ≠ "") :
    (session.join newcomer nonce).1.Seats nonce response.participantToken := by
  obtain ⟨held, replayed, same, rfl⟩ | ⟨unanswered, -, same, rfl⟩ := join_cases joined
  · obtain ⟨empty, -⟩ | ⟨-, valid, recorded⟩ := SessionManager.replayJoin_ok_iff.mp replayed
    · exact absurd empty keyed
    · rw [same]
      exact ⟨keyed, valid, recorded.symm⟩
  · obtain ⟨empty, -⟩ | ⟨-, valid, -⟩ := SessionManager.replayJoin_ok_iff.mp unanswered
    · exact absurd empty keyed
    · rw [same]
      exact ⟨keyed, valid, by simp [addParticipant, keyed]⟩

end Session

structure JoinReplayed (env : Environment) (system : System) (now : Int) (request : JoinSessionRequest)
    (id token : String) (session : Session) : Prop where
  reply : (system.step env (.joinSession now request)).2 =
    .joinSession (.ok ⟨(session.checkAndEnforceTimeout env now).state, session.policy, token⟩)
  manager : (system.step env (.joinSession now request)).1.manager =
    system.manager.putSession id (session.checkAndEnforceTimeout env now)
  threads : (system.step env (.joinSession now request)).1.threads = system.threads

namespace System

variable {env : Environment} {system : System}

theorem joinSession_replayed (indexed : system.manager.Indexed) (running : system.alive = true)
    (now : Int) {request : JoinSessionRequest} {id token : String} {session : Session}
    (stored : system.manager.sessions.lookup id = some session)
    (invited : session.invitationToken = request.invitationToken)
    (seats : session.Seats request.clientNonce token) :
    JoinReplayed env system now request id token session := by
  obtain ⟨keyed, valid, recorded⟩ := seats
  have known : system.manager.invitationToSession.lookup request.invitationToken = some id :=
    (indexed.invitations _ id).mpr ⟨session, stored, invited⟩
  have replayed : SessionManager.replayJoin (session.checkAndEnforceTimeout env now)
      request.clientNonce = .ok (some token) := by
    rw [SessionManager.replayJoin_ok_iff]
    exact .inr ⟨keyed, valid, by simp [recorded]⟩
  have joined : system.manager.joinSession env now request =
      (system.manager.putSession id (session.checkAndEnforceTimeout env now),
        .ok ⟨(session.checkAndEnforceTimeout env now).state, session.policy, token⟩) := by
    rw [SessionManager.joinSession_stored known stored]
    simp [SessionManager.joinChecked, replayed]
  constructor
  all_goals simp [step, running, perform, joinSession, joined]

end System

-- The nonce, possibly empty, of a successful join of this invitation.
def joinNonce (invitation : String) : Action × Reply → Option String
  | (.joinSession _ request, .joinSession (.ok _)) =>
    if request.invitationToken = invitation then some request.clientNonce else none
  | _ => none

def joinNonces (invitation : String) (log : List (Action × Reply)) : List String :=
  log.filterMap (joinNonce invitation)

structure SeatsCounted (env : Environment) (log : List (Action × Reply)) (system : System) : Prop where
  known : ∀ invitation, joinNonces invitation log ≠ [] → env.Drawn system.manager.draws invitation
  nonces : ∀ id session, system.manager.sessions.lookup id = some session →
    ∀ nonce, nonce ∈ session.nonceToToken ↔
      nonce ≠ "" ∧ nonce ∈ joinNonces session.invitationToken log
  seats : ∀ id session, system.manager.sessions.lookup id = some session →
    session.size = 1 + FlatHashMap.size session.nonceToToken +
      (joinNonces session.invitationToken log).count ""

-- What the counts look at.
structure Session.SameSeats (before after : Session) : Prop where
  invitationToken : after.invitationToken = before.invitationToken
  nonceToToken : after.nonceToToken = before.nonceToToken
  size : after.size = before.size

theorem Session.SameIdentity.seats {before after : Session} (same : before.SameIdentity after)
    (ready : before.Ready) (ready' : after.Ready) : before.SameSeats after := by
  refine ⟨same.invitationToken, same.nonceToToken, ?_⟩
  rw [← ready.length_tokens, ← ready'.length_tokens, same.participantTokens]

namespace SeatsCounted

variable {env : Environment} {log : List (Action × Reply)} {system after : System}

theorem idle (counted : SeatsCounted env log system)
    (later : system.manager.draws ≤ after.manager.draws)
    (records : ∀ id session, after.manager.sessions.lookup id = some session →
      (∃ held, system.manager.sessions.lookup id = some held ∧ held.SameSeats session) ∨
        (session.nonceToToken = ∅ ∧ session.size = 1 ∧
          ¬ env.Drawn system.manager.draws session.invitationToken)) :
    SeatsCounted env log after where
  known invitation joined := (counted.known invitation joined).mono later
  nonces id session stored nonce := by
    obtain ⟨held, found, same⟩ | ⟨empty, -, unknown⟩ := records id session stored
    · rw [same.nonceToToken, same.invitationToken]
      exact counted.nonces id held found nonce
    · have none : joinNonces session.invitationToken log = [] :=
        not_not.mp fun joined => unknown (counted.known _ joined)
      simp [empty, none]
  seats id session stored := by
    obtain ⟨held, found, same⟩ | ⟨empty, single, unknown⟩ := records id session stored
    · rw [same.nonceToToken, same.invitationToken, same.size]
      exact counted.seats id held found
    · have none : joinNonces session.invitationToken log = [] :=
        not_not.mp fun joined => unknown (counted.known _ joined)
      simp [empty, none, single, FlatHashMap.size]

theorem join (counted : SeatsCounted env log system)
    (later : system.manager.draws ≤ after.manager.draws) (nonce newcomer : String) {id : String}
    {session joined : Session} {entry : Action × Reply}
    (entered : ∀ invitation, joinNonce invitation entry =
      if session.invitationToken = invitation then some nonce else none)
    (stored : system.manager.sessions.lookup id = some session)
    (drawn : env.Drawn system.manager.draws session.invitationToken)
    (found : after.manager.sessions.lookup id = some joined)
    (others : ∀ other, other ≠ id →
      after.manager.sessions.lookup other = system.manager.sessions.lookup other)
    (alone : ∀ other held, system.manager.sessions.lookup other = some held →
      held.invitationToken = session.invitationToken → other = id)
    (seated : (nonce ≠ "" ∧ nonce ∈ session.nonceToToken ∧ session.SameSeats joined) ∨
      ((nonce = "" ∨ nonce ∉ session.nonceToToken) ∧ newcomer ∉ session.participants ∧
        joined = session.addParticipant newcomer nonce)) :
    SeatsCounted env (log ++ [entry]) after := by
  have here : joinNonces session.invitationToken (log ++ [entry]) =
      joinNonces session.invitationToken log ++ [nonce] := by simp [joinNonces, entered]
  have elsewhere (invitation : String) (apart : session.invitationToken ≠ invitation) :
      joinNonces invitation (log ++ [entry]) = joinNonces invitation log := by
    simp [joinNonces, entered, apart]
  -- The other records and their invitations are not concerned.
  have untouched (other : String) (held : Session)
      (kept : after.manager.sessions.lookup other = some held) (apart : other ≠ id) :
      system.manager.sessions.lookup other = some held ∧
        joinNonces held.invitationToken (log ++ [entry]) = joinNonces held.invitationToken log := by
    rw [others other apart] at kept
    exact ⟨kept, elsewhere _ fun same => apart (alone other held kept same.symm)⟩
  have invitation : joined.invitationToken = session.invitationToken := by
    obtain ⟨-, -, same⟩ | ⟨-, -, rfl⟩ := seated
    · exact same.invitationToken
    · rfl
  constructor
  · intro invited listed
    by_cases same : session.invitationToken = invited
    · exact same ▸ drawn.mono later
    · rw [elsewhere invited same] at listed
      exact (counted.known invited listed).mono later
  · intro other held kept key
    by_cases apart : other = id
    · subst apart
      cases found.symm.trans kept
      have before := counted.nonces other session stored key
      rw [invitation, here, List.mem_append, List.mem_singleton]
      obtain ⟨keyed, recorded, same⟩ | ⟨unused, -, rfl⟩ := seated
      · rw [same.nonceToToken, before]
        have repeated := (counted.nonces other session stored nonce).mp recorded
        grind
      · by_cases anonymous : nonce = ""
        · simp only [Session.addParticipant, anonymous, if_true, before]
          grind
        · simp only [Session.addParticipant, anonymous, if_false, AList.mem_insert, before]
          grind
    · obtain ⟨stored', same⟩ := untouched other held kept apart
      rw [same]
      exact counted.nonces other held stored' key
  · intro other held kept
    by_cases apart : other = id
    · subst apart
      cases found.symm.trans kept
      have before := counted.seats other session stored
      rw [invitation, here, List.count_append]
      obtain ⟨keyed, recorded, same⟩ | ⟨unused, unseated, rfl⟩ := seated
      · rw [same.nonceToToken, same.size, before]
        simp [keyed]
      · have grown : (session.addParticipant newcomer nonce).size = session.size + 1 :=
          FlatHashMap.size_insert_of_not_mem _ _ _ unseated
        rw [grown, before]
        by_cases anonymous : nonce = ""
        · simp only [Session.addParticipant, anonymous, if_true, List.count_singleton_self]
          omega
        · have table := FlatHashMap.size_insert_of_not_mem session.nonceToToken nonce newcomer
            (unused.resolve_left anonymous)
          simp only [Session.addParticipant, anonymous, if_false, table]
          simp [anonymous]
          omega
    · obtain ⟨stored', same⟩ := untouched other held kept apart
      rw [same]
      exact counted.seats other held stored'

theorem silent (counted : SeatsCounted env log system) {entry : Action × Reply}
    (quiet : ∀ invitation, joinNonce invitation entry = none) :
    SeatsCounted env (log ++ [entry]) system := by
  have same (invitation : String) : joinNonces invitation (log ++ [entry]) =
      joinNonces invitation log := by simp [joinNonces, quiet]
  constructor
  all_goals simp only [same]
  · exact counted.known
  · exact counted.nonces
  · exact counted.seats

theorem joinNonce_of_not_joined {entry : Action × Reply}
    (kind : ∀ now request response, entry ≠ (.joinSession now request, .joinSession (.ok response)))
    (invitation : String) : joinNonce invitation entry = none := by
  unfold joinNonce
  split
  next now request response => exact absurd rfl (kind now request response)
  next => rfl

theorem step (fresh : env.NeverRepeats) (reachable : (machine env).Reachable system)
    (counted : SeatsCounted env log system) (action : Action) :
    SeatsCounted env (log ++ [(action, (system.step env action).2)]) (system.step env action).1 := by
  have sound := sound_of_reachable fresh reachable
  have sound' := sound_of_reachable fresh (reachable.step action)
  have later := (system.step_manager env action).draws_le
  by_cases kind : ∃ now request response,
      action = .joinSession now request ∧
        (system.step env action).2 = .joinSession (.ok response)
  · obtain ⟨now, request, response, rfl, answered⟩ := kind
    obtain ⟨id, session, -, indexed, stored, invited, joined, isolated⟩ :=
      joinedAt_of_answered fresh reachable answered
    refine counted.join later request.clientNonce
      (env.randomHex system.manager.draws kParticipantTokenBytes) ?_ stored
      (sound.invitationsDrawn id session stored) isolated.record isolated.records ?_ ?_
    · intro invitation
      rw [answered, invited]
      rfl
    · intro other held found same
      have one := (sound.invitations _ other).mpr ⟨held, found, same⟩
      rw [invited, indexed] at one
      exact (Option.some.inj one).symm
    · have checked := session.checkAndEnforceTimeout_step env now
      have ready := sound.ready id session stored
      obtain ⟨held, replayed, same, -⟩ | ⟨unanswered, waiting, same, -⟩ := Session.join_cases joined
      · obtain ⟨-, missing⟩ | ⟨keyed, -, recorded⟩ := SessionManager.replayJoin_ok_iff.mp replayed
        · cases missing
        · rw [Session.checkAndEnforceTimeout_nonceToToken] at recorded
          refine .inl ⟨keyed, (FlatHashMap.mem_iff_lookup _ _).mpr ⟨held, recorded.symm⟩, ?_⟩
          rw [same]
          exact checked.identity.seats ready (checked.ready ready)
      · have unchanged := session.checkAndEnforceTimeout_of_not_aborted env now (by simp [waiting])
        rw [unchanged] at unanswered same ⊢
        refine .inr ⟨?_, fun member => ?_, same⟩
        · obtain ⟨empty, -⟩ | ⟨-, -, missing⟩ := SessionManager.replayJoin_ok_iff.mp unanswered
          · exact .inl empty
          · exact .inr (AList.lookup_eq_none.mp missing.symm)
        · exact (sound.tokensDrawn id session stored _ member).ne_next fresh le_rfl _ rfl
  · refine (counted.idle later ?_).silent (joinNonce_of_not_joined ?_)
    · intro id session found
      cases record_origin fresh reachable found with
      | @stepped held _ _ stored step =>
        exact .inl ⟨held, stored, step.identity.seats (sound.ready id held stored)
          (sound'.ready id session found)⟩
      | joined same answered stored waiting unanswered newcomer =>
        exact absurd ⟨_, _, _, same, answered⟩ kind
      | created same named =>
        refine .inr ⟨rfl, rfl, fun drawn => ?_⟩
        exact drawn.ne_next fresh (Nat.le_add_right _ 2) _ rfl
    · intro now request response same
      obtain ⟨rfl, answered⟩ := Prod.mk.inj same
      exact kind ⟨now, request, response, rfl, answered⟩

end SeatsCounted

theorem seatsCounted_of_run {env : Environment} (fresh : env.NeverRepeats) (actions : List Action) :
    SeatsCounted env ((machine env).log (machine env).initial actions)
      ((machine env).after (machine env).initial actions) := by
  have both := (machine env).logged_invariant
    (fun log system => (machine env).Reachable system ∧ SeatsCounted env log system)
    ⟨⟨[], rfl⟩, by constructor <;> simp [machine, joinNonces]⟩
    (fun earlier system action holds =>
      ⟨holds.1.step action, holds.2.step fresh holds.1 action⟩) actions
  exact both.2

theorem SeatsCounted.size_nonces {env : Environment} {log : List (Action × Reply)} {system : System}
    (counted : SeatsCounted env log system) {id : String} {session : Session}
    (stored : system.manager.sessions.lookup id = some session) :
    FlatHashMap.size session.nonceToToken =
      ((joinNonces session.invitationToken log).toFinset.erase "").card := by
  have same : session.nonceToToken.keys.toFinset =
      (joinNonces session.invitationToken log).toFinset.erase "" := by
    ext nonce
    rw [List.mem_toFinset, Finset.mem_erase, List.mem_toFinset]
    exact counted.nonces id session stored nonce
  rw [← same, List.toFinset_card_of_nodup session.nonceToToken.keys_nodup]
  rfl

/-- What idempotent admission means for a run and everything after it. -/
structure JoinIdempotent (env : Environment) (actions : List Action) : Prop where
  seats : ∀ system, system = (machine env).after (machine env).initial actions →
    ∀ log, log = (machine env).log (machine env).initial actions →
      ∀ id session, system.manager.sessions.lookup id = some session →
        session.size = 1 + ((joinNonces session.invitationToken log).toFinset.erase "").card +
          (joinNonces session.invitationToken log).count ""
  -- The join answered here is made again in a later state.
  replayed : ∀ system, system = (machine env).after (machine env).initial actions →
    ∀ now request response,
      (system.step env (.joinSession now request)).2 = .joinSession (.ok response) →
      request.clientNonce ≠ "" →
        ∃ id, system.manager.invitationToSession.lookup request.invitationToken = some id ∧
          ∀ rest later, later = (machine env).after
              (system.step env (.joinSession now request)).1 rest → later.alive = true →
            ∀ session, later.manager.sessions.lookup id = some session →
              ∀ again repeated, repeated.invitationToken = request.invitationToken →
                repeated.clientNonce = request.clientNonce →
                  JoinReplayed env later again repeated id response.participantToken session

theorem join_idempotent (env : Environment) (fresh : env.NeverRepeats) (actions : List Action) :
    JoinIdempotent env actions := by
  constructor
  · rintro system rfl log rfl id session stored
    have counted := seatsCounted_of_run fresh actions
    rw [← counted.size_nonces stored]
    exact counted.seats id session stored
  · rintro system rfl now request response answered keyed
    have reachable : (machine env).Reachable _ := ⟨actions, rfl⟩
    have before := sound_of_reachable fresh reachable
    obtain ⟨id, session, -, indexed, stored, invited, joined, isolated⟩ :=
      joinedAt_of_answered fresh reachable answered
    refine ⟨id, indexed, ?_⟩
    rintro rest later rfl alive record found again repeated sameInvitation sameNonce
    have stepped := reachable.step (.joinSession now request)
    have sound := sound_of_reachable fresh stepped
    obtain ⟨seated, there, changes⟩ := changes_after fresh stepped
      (sound.idsDrawn id _ isolated.record) rest found
    cases isolated.record.symm.trans there
    have seats := Session.changes_seat changes (Session.join_seats joined keyed)
    have laterSound := sound_of_reachable fresh (stepped.after rest)
    refine System.joinSession_replayed laterSound.toIndexed alive again found ?_ (sameNonce ▸ seats)
    obtain ⟨first, firstStored, whole⟩ := changes_after fresh reachable
      (before.idsDrawn id session stored) (.joinSession now request :: rest) found
    cases stored.symm.trans firstStored
    rw [(Session.changes_continue whole).invitationToken, invited, sameInvitation]

-- One nonce, used twice: the second join gets the seat of the first.
def calendarNonceJoin : List Action :=
  [.createSession 0 { policy := { policyClass := "calendar", expectedParticipants := 3 } },
    .joinSession 0
      { invitationToken := "aaa", clientNonce := "a0eebc99-9c0b-4ef8-bb6d-6bb9bd380a11" },
    .joinSession 0
      { invitationToken := "aaa", clientNonce := "a0eebc99-9c0b-4ef8-bb6d-6bb9bd380a11" }]

theorem calendar_join_idempotent :
    JoinIdempotent calendarEnv calendarNonceJoin ∧
      (((machine calendarEnv).after (machine calendarEnv).initial
        calendarNonceJoin).manager.sessions.lookup "a").map Session.size = some 2 :=
  ⟨join_idempotent calendarEnv (countingEnv_neverRepeats _) _, by decide +kernel⟩

namespace SessionManager

variable {env : Environment} {manager : SessionManager} {now : Int} {request : JoinSessionRequest}

def Unknown (manager : SessionManager) (invitation : String) : Prop :=
  (manager.invitationToSession.lookup invitation).bind (fun id => manager.sessions.lookup id) = none

/-- A stored session that takes no newcomer once its due timeout is enforced. -/
def Unjoinable (env : Environment) (now : Int) (manager : SessionManager)
    (invitation clientNonce : String) : Prop :=
  ∃ id ∈ manager.invitationToSession.lookup invitation,
    ∃ session ∈ manager.sessions.lookup id, clientNonce ∉ session.nonceToToken ∧
      ((session.checkAndEnforceTimeout env now).state ≠ .OPEN ∨
        (session.size : Int) ≥ session.policy.expectedParticipants)

instance (manager : SessionManager) (invitation : String) : Decidable (manager.Unknown invitation) :=
  inferInstanceAs (Decidable (_ = none))

instance (env : Environment) (now : Int) (manager : SessionManager)
    (invitation clientNonce : String) :
    Decidable (manager.Unjoinable env now invitation clientNonce) :=
  inferInstanceAs (Decidable (∃ id ∈ manager.invitationToSession.lookup invitation,
    ∃ session ∈ manager.sessions.lookup id, _ ∧ _))

def SameRefusal (left right : Outcome JoinSessionResponse) : Prop :=
  ∃ status : Status, left = .error (.status status) ∧ right = .error (.status status)

theorem joinSession_unknown (unknown : manager.Unknown request.invitationToken) :
    (manager.joinSession env now request).2 = invalidToken := by
  unfold Unknown at unknown
  cases known : manager.invitationToSession.lookup request.invitationToken with
  | none => simp [joinSession, known]
  | some id =>
    simp only [known, Option.bind_some] at unknown
    simp [joinSession, known, unknown]

-- The syntax of the nonce is checked once the session is found, before its state.
theorem joinSession_unjoinable
    (unjoinable : manager.Unjoinable env now request.invitationToken request.clientNonce) :
    (manager.joinSession env now request).2 =
      if request.clientNonce = "" ∨ isValidUuidV4 request.clientNonce = true then invalidToken
      else refuse .invalidArgument "client_nonce must be a valid UUIDv4" := by
  obtain ⟨id, known, session, stored, unrecorded, barred⟩ := unjoinable
  have missing := AList.lookup_eq_none.mpr unrecorded
  have size : (session.checkAndEnforceTimeout env now).size = session.size := by
    unfold Session.checkAndEnforceTimeout
    split <;> rfl
  rw [joinSession_stored known stored]
  split
  next wellFormed =>
    have unanswered : replayJoin (session.checkAndEnforceTimeout env now) request.clientNonce =
        .ok none := by
      rw [replayJoin_ok_iff]
      by_cases anonymous : request.clientNonce = ""
      next => exact .inl ⟨anonymous, rfl⟩
      next => exact .inr ⟨anonymous, wellFormed.resolve_left anonymous, by simp [missing]⟩
    simp only [joinChecked, unanswered, size, Session.checkAndEnforceTimeout_policy]
    grind
  next malformed =>
    rw [not_or] at malformed
    simp [joinChecked, replayJoin, malformed.1, malformed.2, refuse]

/-- Joins with an unknown invitation and with that of a session that takes nobody are refused
alike exactly when the nonce is one the server can record. -/
theorem joinSession_refusals_alike_iff (env : Environment) (manager : SessionManager) (now : Int)
    (request : JoinSessionRequest) (unknown unjoinable : String)
    (missing : manager.Unknown unknown)
    (barred : manager.Unjoinable env now unjoinable request.clientNonce) :
    SameRefusal (manager.joinSession env now { request with invitationToken := unknown }).2
        (manager.joinSession env now { request with invitationToken := unjoinable }).2 ↔
      request.clientNonce = "" ∨ isValidUuidV4 request.clientNonce = true := by
  have first : (manager.joinSession env now { request with invitationToken := unknown }).2 =
      invalidToken := joinSession_unknown missing
  have second : (manager.joinSession env now { request with invitationToken := unjoinable }).2 = _ :=
    joinSession_unjoinable barred
  rw [SameRefusal, first, second]
  by_cases wellFormed : request.clientNonce = "" ∨ isValidUuidV4 request.clientNonce = true
  next => simp [wellFormed, invalidToken, refuse]
  next => simp [wellFormed, invalidToken, refuse]

end SessionManager

def calendarFull : System := (machine calendarEnv).after (machine calendarEnv).initial calendarSubmissions

theorem calendar_refusals_alike :
    SessionManager.SameRefusal
      (calendarFull.manager.joinSession calendarEnv 0 { invitationToken := "b" }).2
      (calendarFull.manager.joinSession calendarEnv 0 { invitationToken := "aaa" }).2 :=
  (SessionManager.joinSession_refusals_alike_iff calendarEnv calendarFull.manager 0
    { invitationToken := "" } "b" "aaa" (by decide +kernel) (by decide +kernel)).mpr (.inl rfl)

-- Everyone who sends the nonce "x" learns that "aaa" is an invitation and "b" is not.
theorem calendar_refusals_told_apart :
    (machine calendarEnv).Reachable calendarFull ∧ calendarFull.manager.Unknown "b" ∧
      calendarFull.manager.Unjoinable calendarEnv 0 "aaa" "x" ∧
        ¬ SessionManager.SameRefusal
          (calendarFull.manager.joinSession calendarEnv 0
            { invitationToken := "b", clientNonce := "x" }).2
          (calendarFull.manager.joinSession calendarEnv 0
            { invitationToken := "aaa", clientNonce := "x" }).2 := by
  refine ⟨⟨calendarSubmissions, rfl⟩, by decide +kernel, by decide +kernel, ?_⟩
  rintro ⟨status, first, second⟩
  have differ : (calendarFull.manager.joinSession calendarEnv 0
      { invitationToken := "b", clientNonce := "x" }).2 ≠
        (calendarFull.manager.joinSession calendarEnv 0
          { invitationToken := "aaa", clientNonce := "x" }).2 := by decide +kernel
  exact differ (first.trans second.symm)

end Ztab
