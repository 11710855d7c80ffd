import Ztab.Session.Readiness

set_option autoImplicit false

/-!
# Token capabilities and reverse indexes

The three reverse indexes say exactly what the stored sessions say, and every
identifier in the store is a value GenerateRandomHex has already given out.
-/

namespace Ztab

def Environment.Drawn (env : Environment) (draws : Nat) (text : String) : Prop :=
  ∃ call bytes, call < draws ∧ text = env.randomHex call bytes

theorem Environment.Drawn.mono {env : Environment} {draws later : Nat} {text : String}
    (drawn : env.Drawn draws text) (grown : draws ≤ later) : env.Drawn later text := by
  obtain ⟨call, bytes, before, rfl⟩ := drawn
  exact ⟨call, bytes, lt_of_lt_of_le before grown, rfl⟩

theorem Environment.Drawn.ne_next {env : Environment} (fresh : env.NeverRepeats) {draws later : Nat}
    {text : String} (drawn : env.Drawn draws text) (grown : draws ≤ later) (bytes : Nat) :
    text ≠ env.randomHex later bytes := by
  rintro rfl
  obtain ⟨call, size, before, same⟩ := drawn
  have := fresh _ _ _ _ same
  omega

namespace Session

-- What every step on a stored session leaves alone.
structure SameIdentity (before after : Session) : Prop where
  id : after.id = before.id
  invitationToken : after.invitationToken = before.invitationToken
  creatorNonce : after.creatorNonce = before.creatorNonce
  nonceToToken : after.nonceToToken = before.nonceToToken
  participantTokens : after.participantTokens = before.participantTokens
  policy : after.policy = before.policy
  policyDef : after.policyDef = before.policyDef
  members : ∀ token, token ∈ after.participants ↔ token ∈ before.participants

theorem SameIdentity.refl (session : Session) : session.SameIdentity session :=
  ⟨rfl, rfl, rfl, rfl, rfl, rfl, rfl, fun _ => Iff.rfl⟩

theorem members_reseat {session : Session} {token : String} {participant replaced : Participant}
    (listed : session.participants.lookup token = some replaced) (other : String) :
    other ∈ session.participants.insert token participant ↔ other ∈ session.participants := by
  have present : token ∈ session.participants :=
    (FlatHashMap.mem_iff_lookup _ _).mpr ⟨replaced, listed⟩
  rw [AList.mem_insert]
  constructor
  · rintro (rfl | member)
    · exact present
    · exact member
  · exact .inr

theorem Step.identity {env : Environment} {actor : Actor} {before after : Session}
    (step : before.Step env actor after) :
    before.SameIdentity after := by
  cases step with
  | same => exact .refl before
  | timeout now due => exact ⟨rfl, rfl, rfl, rfl, rfl, rfl, rfl, fun _ => Iff.rfl⟩
  | spawnFailure what => exact ⟨rfl, rfl, rfl, rfl, rfl, rfl, rfl, fun _ => Iff.rfl⟩
  | accept token participant listed =>
    exact ⟨rfl, rfl, rfl, rfl, rfl, rfl, rfl, members_reseat listed⟩
  | sealing now token participant listed =>
    exact ⟨rfl, rfl, rfl, rfl, rfl, rfl, rfl, members_reseat listed⟩
  | submit token inputJson canonical participant listed =>
    exact ⟨rfl, rfl, rfl, rfl, rfl, rfl, rfl, members_reseat listed⟩
  | calculate now token inputJson canonical participant listed =>
    exact ⟨rfl, rfl, rfl, rfl, rfl, rfl, rfl, members_reseat listed⟩
  | write now outcome waiting =>
    cases outcome <;> exact ⟨rfl, rfl, rfl, rfl, rfl, rfl, rfl, fun _ => Iff.rfl⟩

end Session

namespace SessionManager

structure Indexed (manager : SessionManager) : Prop where
  participants : ∀ token id, manager.participantToSession.lookup token = some id ↔
    ∃ session, manager.sessions.lookup id = some session ∧ token ∈ session.participants
  invitations : ∀ token id, manager.invitationToSession.lookup token = some id ↔
    ∃ session, manager.sessions.lookup id = some session ∧ session.invitationToken = token
  creatorNonces : ∀ nonce id, manager.creatorNonceToSession.lookup nonce = some id ↔
    ∃ session, manager.sessions.lookup id = some session ∧
      session.creatorNonce = nonce ∧ nonce ≠ ""
  joinNonces : ∀ id session, manager.sessions.lookup id = some session →
    ∀ nonce token, session.nonceToToken.lookup nonce = some token → token ∈ session.participants

structure Sound (env : Environment) (manager : SessionManager) : Prop extends Indexed manager where
  named : ∀ id session, manager.sessions.lookup id = some session → session.id = id
  ready : ∀ id session, manager.sessions.lookup id = some session → session.Ready
  idsDrawn : ∀ id session, manager.sessions.lookup id = some session → env.Drawn manager.draws id
  tokensDrawn : ∀ id session, manager.sessions.lookup id = some session →
    ∀ token ∈ session.participants, env.Drawn manager.draws token
  invitationsDrawn : ∀ id session, manager.sessions.lookup id = some session →
    env.Drawn manager.draws session.invitationToken
  apart : ∀ id session, manager.sessions.lookup id = some session →
    ∀ other held, manager.sessions.lookup other = some held →
      session.invitationToken ∉ held.participants

theorem sound_initial (env : Environment) : Sound env {} := by
  constructor
  constructor
  all_goals simp

section Put

variable {manager : SessionManager} {id : String} {session after : Session}

theorem forall_put {holds : String → Session → Prop} (here : holds id after)
    (others : ∀ other held, manager.sessions.lookup other = some held → holds other held) :
    ∀ other held, (manager.sessions.insert id after).lookup other = some held →
      holds other held := by
  intro other held found
  rw [FlatHashMap.lookup_insert_ite] at found
  split_ifs at found with same
  · cases found
    exact same ▸ here
  · exact others other held found

theorem exists_put (stored : manager.sessions.lookup id = some session) {holds : Session → Prop}
    (unchanged : holds after ↔ holds session) (other : String) :
    (∃ held, (manager.sessions.insert id after).lookup other = some held ∧ holds held) ↔
      ∃ held, manager.sessions.lookup other = some held ∧ holds held := by
  rw [FlatHashMap.lookup_insert_ite]
  by_cases same : other = id
  · subst same
    simp [stored, unchanged]
  · simp [same]

end Put

/-! The next two lemmas follow one key of a reverse index: `holds` says which sessions it is for. -/

section Exact

variable {manager : SessionManager} {id : String} {session : Session} {holds : Session → Prop}
  {index : Option String} [Decidable (holds session)]
  (exact : ∀ other, index = some other ↔
    ∃ held, manager.sessions.lookup other = some held ∧ holds held)
include exact

theorem exact_erase (stored : manager.sessions.lookup id = some session) (other : String) :
    (if holds session then none else index) = some other ↔
      ∃ held, (manager.sessions.erase id).lookup other = some held ∧ holds held := by
  rw [FlatHashMap.lookup_erase_ite]
  by_cases gone : holds session
  · have here : index = some id := (exact id).mpr ⟨session, stored, gone⟩
    have elsewhere : other ≠ id → ¬ ∃ held, manager.sessions.lookup other = some held ∧ holds held := by
      intro different found
      have same := ((exact other).mpr found).symm.trans here
      exact different (Option.some.inj same)
    by_cases same : other = id
    · simp [gone, same]
    · simpa [gone, same] using elsewhere same
  · rw [if_neg gone, exact]
    by_cases same : other = id
    · subst same
      simp [stored, gone]
    · simp [same]

theorem exact_insert
    (first : holds session → ∀ other held, manager.sessions.lookup other = some held → ¬ holds held)
    (absent : manager.sessions.lookup id = none) (other : String) :
    (if holds session then some id else index) = some other ↔
      ∃ held, (manager.sessions.insert id session).lookup other = some held ∧ holds held := by
  rw [FlatHashMap.lookup_insert_ite]
  by_cases new : holds session
  · by_cases same : other = id
    · simp [new, same]
    · simpa [new, same, Ne.symm same] using first new other
  · rw [if_neg new, exact]
    by_cases same : other = id
    · subst same
      simp [absent, new]
    · simp [same]

end Exact

namespace Sound

variable {env : Environment} {manager : SessionManager}

theorem keep (sound : Sound env manager) (count : Int) {draws : Nat} (later : manager.draws ≤ draws) :
    Sound env { manager with activeAsyncThreads := count, draws } where
  participants := sound.participants
  invitations := sound.invitations
  creatorNonces := sound.creatorNonces
  joinNonces := sound.joinNonces
  named := sound.named
  ready := sound.ready
  idsDrawn id session stored := (sound.idsDrawn id session stored).mono later
  tokensDrawn id session stored token member :=
    (sound.tokensDrawn id session stored token member).mono later
  invitationsDrawn id session stored := (sound.invitationsDrawn id session stored).mono later
  apart := sound.apart

theorem put (sound : Sound env manager) {id : String} {session after : Session}
    (stored : manager.sessions.lookup id = some session) (same : session.SameIdentity after)
    (ready : after.Ready) : Sound env (manager.putSession id after) where
  participants token other :=
    (sound.participants token other).trans (exists_put stored (same.members token) other).symm
  invitations token other :=
    (sound.invitations token other).trans
      (exists_put stored (by rw [same.invitationToken]) other).symm
  creatorNonces nonce other :=
    (sound.creatorNonces nonce other).trans
      (exists_put stored (by rw [same.creatorNonce]) other).symm
  joinNonces := by
    refine forall_put (fun nonce token recorded => ?_) sound.joinNonces
    rw [same.nonceToToken] at recorded
    exact (same.members token).mpr (sound.joinNonces id session stored nonce token recorded)
  named := forall_put (same.id.trans (sound.named id session stored)) sound.named
  ready := forall_put ready sound.ready
  idsDrawn := forall_put (sound.idsDrawn id session stored) sound.idsDrawn
  tokensDrawn := by
    refine forall_put (fun token member => ?_) sound.tokensDrawn
    exact sound.tokensDrawn id session stored token ((same.members token).mp member)
  invitationsDrawn := by
    refine forall_put ?_ sound.invitationsDrawn
    rw [same.invitationToken]
    exact sound.invitationsDrawn id session stored
  apart := by
    refine forall_put ?_ fun one kept keptStored => ?_
    · rw [same.invitationToken]
      refine forall_put (fun member => ?_) (sound.apart id session stored)
      exact sound.apart id session stored id session stored ((same.members _).mp member)
    · refine forall_put (fun member => ?_) (sound.apart one kept keptStored)
      exact sound.apart one kept keptStored id session stored ((same.members _).mp member)

theorem members_addParticipant (session : Session) (token clientNonce other : String) :
    other ∈ (session.addParticipant token clientNonce).participants ↔
      other = token ∨ other ∈ session.participants :=
  AList.mem_insert _

theorem join (fresh : env.NeverRepeats) (sound : Sound env manager) {id : String}
    {session : Session} (clientNonce : String)
    (stored : manager.sessions.lookup id = some session) (waiting : session.state = .OPEN)
    (room : (session.size : Int) < session.policy.expectedParticipants) :
    Sound env (manager.admitParticipant env id session clientNonce).1 := by
  have named := sound.named id session stored
  set token := env.randomHex manager.draws kParticipantTokenBytes with drawn
  have new : ∀ text, env.Drawn manager.draws text → text ≠ token := fun text known =>
    known.ne_next fresh le_rfl kParticipantTokenBytes
  have unseated : ∀ other held, manager.sessions.lookup other = some held →
      token ∉ held.participants :=
    fun other held found member => new token (sound.tokensDrawn other held found token member) rfl
  have later : manager.draws ≤ manager.draws + 1 := Nat.le_succ _
  have tokenDrawn : env.Drawn (manager.draws + 1) token := ⟨_, _, Nat.lt_succ_self _, drawn⟩
  have members := members_addParticipant session token clientNonce
  exact
    { participants := by
        intro other owner
        simp only [admitParticipant, generateRandomHex, putSession, ← drawn,
          FlatHashMap.lookup_insert_ite, named]
        by_cases same : other = token
        · subst same
          by_cases here : owner = id
          · simp [here, members]
          · simpa [here, Ne.symm here] using unseated owner
        · have unchanged : other ∈ (session.addParticipant token clientNonce).participants ↔
              other ∈ session.participants := by simp [members, same]
          rw [if_neg same, sound.participants, ← exists_put stored unchanged,
            FlatHashMap.lookup_insert_ite]
      invitations := fun other owner =>
        (sound.invitations other owner).trans (exists_put stored (by rfl) owner).symm
      creatorNonces := fun nonce owner =>
        (sound.creatorNonces nonce owner).trans (exists_put stored (by rfl) owner).symm
      joinNonces := by
        refine forall_put (fun nonce other recorded => ?_) sound.joinNonces
        rw [members]
        simp only [Session.addParticipant] at recorded
        split_ifs at recorded
        · exact .inr (sound.joinNonces id session stored nonce other recorded)
        · rw [FlatHashMap.lookup_insert_ite] at recorded
          split_ifs at recorded
          · cases recorded
            exact .inl rfl
          · exact .inr (sound.joinNonces id session stored nonce other recorded)
      named := forall_put named sound.named
      ready := forall_put ((sound.ready id session stored).addParticipant
        (unseated id session stored) clientNonce waiting room) sound.ready
      idsDrawn := forall_put ((sound.idsDrawn id session stored).mono later)
        (fun other held found => (sound.idsDrawn other held found).mono later)
      tokensDrawn := by
        refine forall_put (fun other member => ?_) (fun owner held found other member =>
          (sound.tokensDrawn owner held found other member).mono later)
        rcases (members other).mp member with rfl | member
        · exact tokenDrawn
        · exact (sound.tokensDrawn id session stored other member).mono later
      invitationsDrawn := forall_put ((sound.invitationsDrawn id session stored).mono later)
        (fun other held found => (sound.invitationsDrawn other held found).mono later)
      apart := by
        have distinct : ∀ other held, manager.sessions.lookup other = some held →
            held.invitationToken ∉ (session.addParticipant token clientNonce).participants := by
          intro other held found member
          rcases (members _).mp member with same | member
          · exact new _ (sound.invitationsDrawn other held found) same
          · exact sound.apart other held found id session stored member
        refine forall_put (forall_put (distinct id session stored) (sound.apart id session stored))
          fun one kept keptStored => ?_
        exact forall_put (distinct one kept keptStored) (sound.apart one kept keptStored) }

theorem erase (sound : Sound env manager) {id : String} {session after : Session}
    (stored : manager.sessions.lookup id = some session) (same : session.SameIdentity after) :
    Sound env (manager.eraseSession id after) := by
  have kept : ∀ {other held}, (manager.sessions.erase id).lookup other = some held →
      manager.sessions.lookup other = some held := by
    intro other held found
    rw [FlatHashMap.lookup_erase_ite] at found
    split_ifs at found
    exact found
  exact
    { participants := by
        intro token other
        simp only [eraseSession]
        rw [← exact_erase (fun other => sound.participants token other) stored other]
        simp only [FlatHashMap.lookup_eraseAll, same.participantTokens,
          (sound.ready id session stored).mem_tokens]
      invitations := by
        intro token other
        simp only [eraseSession]
        rw [← exact_erase (fun other => sound.invitations token other) stored other]
        simp only [FlatHashMap.lookup_erase_ite, same.invitationToken, eq_comm]
      creatorNonces := by
        intro nonce other
        simp only [eraseSession, same.creatorNonce]
        rw [← exact_erase (fun other => sound.creatorNonces nonce other) stored other]
        by_cases anonymous : session.creatorNonce = ""
        · have unkeyed : ¬ (session.creatorNonce = nonce ∧ nonce ≠ "") := by
            rintro ⟨rfl, keyed⟩
            exact keyed anonymous
          rw [if_pos anonymous, if_neg unkeyed]
        · rw [if_neg anonymous, FlatHashMap.lookup_erase_ite]
          by_cases hit : nonce = session.creatorNonce
          · simp [hit, anonymous]
          · simp [hit, Ne.symm hit]
      joinNonces := fun other held found => sound.joinNonces other held (kept found)
      named := fun other held found => sound.named other held (kept found)
      ready := fun other held found => sound.ready other held (kept found)
      idsDrawn := fun other held found => sound.idsDrawn other held (kept found)
      tokensDrawn := fun other held found => sound.tokensDrawn other held (kept found)
      invitationsDrawn := fun other held found => sound.invitationsDrawn other held (kept found)
      apart := fun one held found other found' stored' =>
        sound.apart one held (kept found) other found' (kept stored') }

theorem sweepSession (sound : Sound env manager) (now : Int) (id : String) :
    Sound env (manager.sweepSession env now id) := by
  cases stored : manager.sessions.lookup id with
  | none =>
    rw [sweepSession_absent env now stored]
    exact sound
  | some found =>
    have step := found.checkAndEnforceTimeout_step env now
    by_cases due : (found.checkAndEnforceTimeout env now).ShouldErase env now
    · rw [sweepSession_erases env now stored due]
      exact sound.erase stored step.identity
    · rw [sweepSession_keeps env now stored due]
      exact sound.put stored step.identity (step.ready (sound.ready id found stored))

theorem sweep (sound : Sound env manager) (now : Int) :
    Sound env (manager.sweepTerminalSessions env now) :=
  sweep_preserves env now (Sound env) (fun _ id holds => holds.sweepSession now id) manager sound

end Sound

theorem Sound.nonce_unused {env : Environment} {manager : SessionManager} (sound : Sound env manager)
    {request : CreateSessionRequest} (unanswered : replayCreate manager request = .ok none)
    (keyed : request.clientNonce ≠ "") (id : String) (session : Session)
    (stored : manager.sessions.lookup id = some session) :
    session.creatorNonce ≠ request.clientNonce := by
  intro same
  have indexed : manager.creatorNonceToSession.lookup request.clientNonce = some id :=
    (sound.creatorNonces _ id).mpr ⟨session, stored, same, keyed⟩
  simp only [replayCreate, if_neg keyed, indexed, Option.bind_some, stored, refuse] at unanswered
  split_ifs at unanswered
  cases unanswered

theorem newSession_ready (now : Int) (request : CreateSessionRequest) (policyDef : PolicyDefinition)
    (id creatorToken invitationToken : String)
    (bounds : 2 ≤ request.policy.expectedParticipants ∧
      request.policy.expectedParticipants ≤ 100) :
    (newSession now request policyDef id creatorToken invitationToken).Ready := by
  have size : (newSession now request policyDef id creatorToken invitationToken).size = 1 := rfl
  have listed (token : String) (participant : Participant) :
      (newSession now request policyDef id creatorToken invitationToken).participants.lookup token =
          some participant ↔
        token = creatorToken ∧ participant = { token := creatorToken, accepted := true } := by
    simp only [newSession, FlatHashMap.lookup_insert_ite]
    split_ifs with same <;> simp [same, eq_comm]
  exact
    { expectedBounds := bounds
      sizeBounds := by
        rw [size]
        simp only [newSession]
        omega
      joinIndexes := by
        intro index
        simp only [listed, size]
        constructor
        · intro within
          exact ⟨creatorToken, _, ⟨rfl, rfl⟩, by simp; omega⟩
        · rintro ⟨token, participant, ⟨-, rfl⟩, rfl⟩
          exact Nat.one_pos
      tokensDistinct := List.nodup_singleton _
      tokensInJoinOrder := by
        intro index token
        simp only [listed]
        cases index <;> simp [newSession, eq_comm]
      advanced := by simp [newSession]
      openEmpty := by
        intro _ token participant found
        obtain ⟨-, rfl⟩ := (listed token participant).mp found
        rfl
      openWaits := by
        rintro - ⟨full, -⟩
        rw [size] at full
        have : (1 : Int) = request.policy.expectedParticipants := full
        omega
      sealedWaits := by simp [newSession]
      calculated := by simp [newSession] }

-- A session none of whose identifiers occurs in the store.
structure New (manager : SessionManager) (session : Session) (creatorToken : String) : Prop where
  absent : manager.sessions.lookup session.id = none
  members : ∀ token, token ∈ session.participants ↔ token = creatorToken
  noReplays : session.nonceToToken = ∅
  creator : ∀ id held, manager.sessions.lookup id = some held →
    creatorToken ∉ held.participants ∧ held.invitationToken ≠ creatorToken
  invitation : ∀ id held, manager.sessions.lookup id = some held →
    session.invitationToken ∉ held.participants ∧ held.invitationToken ≠ session.invitationToken
  apart : session.invitationToken ≠ creatorToken
  nonce : session.creatorNonce ≠ "" → ∀ id held, manager.sessions.lookup id = some held →
    held.creatorNonce ≠ session.creatorNonce

theorem Sound.insertSession {env : Environment} {manager : SessionManager}
    (sound : Sound env manager) {session : Session} {creatorToken : String}
    (new : New manager session creatorToken) (ready : session.Ready)
    (idDrawn : env.Drawn manager.draws session.id)
    (creatorDrawn : env.Drawn manager.draws creatorToken)
    (invitationDrawn : env.Drawn manager.draws session.invitationToken) :
    Sound env (manager.insertSession session creatorToken) where
  participants token other := by
    simp only [SessionManager.insertSession]
    rw [← exact_insert (fun other => sound.participants token other) ?_ new.absent other]
    · simp only [FlatHashMap.lookup_insert_ite, new.members]
    · intro member id held stored
      rw [(new.members token).mp member]
      exact (new.creator id held stored).1
  invitations token other := by
    simp only [SessionManager.insertSession]
    rw [← exact_insert (fun other => sound.invitations token other) ?_ new.absent other]
    · simp only [FlatHashMap.lookup_insert_ite, eq_comm]
    · rintro rfl id held stored
      exact (new.invitation id held stored).2
  creatorNonces nonce other := by
    simp only [SessionManager.insertSession]
    rw [← exact_insert (fun other => sound.creatorNonces nonce other) ?_ new.absent other]
    · by_cases anonymous : session.creatorNonce = ""
      · have unkeyed : ¬ (session.creatorNonce = nonce ∧ nonce ≠ "") := by
          rintro ⟨rfl, keyed⟩
          exact keyed anonymous
        rw [if_pos anonymous, if_neg unkeyed]
      · rw [if_neg anonymous, FlatHashMap.lookup_insert_ite]
        by_cases hit : nonce = session.creatorNonce
        · simp [hit, anonymous]
        · simp [hit, Ne.symm hit]
    · rintro ⟨rfl, keyed⟩ id held stored ⟨same, -⟩
      exact new.nonce keyed id held stored same
  joinNonces := by
    refine forall_put (fun nonce token recorded => ?_) sound.joinNonces
    simp [new.noReplays] at recorded
  named := forall_put rfl sound.named
  ready := forall_put ready sound.ready
  idsDrawn := forall_put idDrawn sound.idsDrawn
  tokensDrawn := by
    refine forall_put (fun token member => ?_) sound.tokensDrawn
    rw [(new.members token).mp member]
    exact creatorDrawn
  invitationsDrawn := forall_put invitationDrawn sound.invitationsDrawn
  apart := by
    refine forall_put ?_ fun one held stored => ?_
    · refine forall_put ?_ fun other kept keptStored => (new.invitation other kept keptStored).1
      rw [new.members]
      exact new.apart
    · refine forall_put ?_ (sound.apart one held stored)
      rw [new.members]
      exact (new.creator one held stored).2

theorem Sound.new {env : Environment} {manager : SessionManager} (fresh : env.NeverRepeats)
    (sound : Sound env manager) (now : Int) {request : CreateSessionRequest}
    (policyDef : PolicyDefinition) (unanswered : replayCreate manager request = .ok none) :
    New manager
      (newSession now request policyDef (env.randomHex manager.draws kSessionIdBytes)
        (env.randomHex (manager.draws + 1) kParticipantTokenBytes)
        (env.randomHex (manager.draws + 2) kParticipantTokenBytes))
      (env.randomHex (manager.draws + 1) kParticipantTokenBytes) where
  absent := by
    by_contra present
    obtain ⟨held, stored⟩ := Option.ne_none_iff_exists'.mp present
    exact (sound.idsDrawn _ held stored).ne_next fresh le_rfl _ rfl
  members token := by
    simp only [newSession, AList.mem_insert, AList.notMem_empty, or_false]
  noReplays := rfl
  creator id held stored :=
    ⟨fun member => (sound.tokensDrawn id held stored _ member).ne_next fresh (by omega) _ rfl,
      (sound.invitationsDrawn id held stored).ne_next fresh (by omega) _⟩
  invitation id held stored :=
    ⟨fun member => (sound.tokensDrawn id held stored _ member).ne_next fresh (by omega) _ rfl,
      (sound.invitationsDrawn id held stored).ne_next fresh (by omega) _⟩
  apart same := by
    have := fresh _ _ _ _ same
    omega
  nonce keyed id held stored := sound.nonce_unused unanswered keyed id held stored

theorem Sound.create {env : Environment} {manager : SessionManager} (fresh : env.NeverRepeats)
    (sound : Sound env manager) (now : Int) {request : CreateSessionRequest}
    {policyDef : PolicyDefinition} (admitted : Admitted env manager request policyDef) :
    Sound env (manager.openSession env now request policyDef).1 := by
  have drawn (call bytes : Nat) (recent : call < manager.draws + 3) :
      env.Drawn (manager.draws + 3) (env.randomHex call bytes) := ⟨call, bytes, recent, rfl⟩
  have grown : Sound env { manager with draws := manager.draws + 3 } :=
    sound.keep manager.activeAsyncThreads (by omega)
  have new := sound.new fresh now policyDef admitted.unanswered
  exact grown.insertSession ⟨new.absent, new.members, new.noReplays, new.creator, new.invitation,
      new.apart, new.nonce⟩
    (newSession_ready now request policyDef _ _ _ admitted.expectedBounds)
    (drawn manager.draws _ (by omega)) (drawn (manager.draws + 1) _ (by omega))
    (drawn (manager.draws + 2) _ (by omega))

end SessionManager

theorem LocalStep.sound {env : Environment} {actor : Actor} {before after : SessionManager}
    (step : LocalStep env actor before after) (sound : SessionManager.Sound env before) :
    SessionManager.Sound env after := by
  cases step with
  | keep count draws later => exact sound.keep count later
  | update id session after count stored step =>
    exact (sound.put stored step.identity (step.ready (sound.ready id session stored))).keep count
      le_rfl

theorem ManagerStep.sound {env : Environment} {actor : Actor} {before after : SessionManager}
    (fresh : env.NeverRepeats) (step : ManagerStep env before actor after)
    (sound : SessionManager.Sound env before) : SessionManager.Sound env after := by
  cases step with
  | within step => exact step.sound sound
  | join id clientNonce session stored waiting room =>
    exact sound.join fresh clientNonce stored waiting room
  | sweep now => exact sound.sweep now
  | create now request policyDef admitted =>
    exact (sound.sweep now).create fresh now admitted

theorem sound_of_reachable {env : Environment} (fresh : env.NeverRepeats) {system : System}
    (reachable : (machine env).Reachable system) : SessionManager.Sound env system.manager :=
  (machine env).reachable_invariant (fun system => SessionManager.Sound env system.manager)
    (SessionManager.sound_initial env)
    (fun system action sound => (system.step_manager env action).sound fresh sound) system reachable

/-- The readiness invariant: no session advances early, and none misses its last step. -/
theorem session_ready_of_reachable (env : Environment) (fresh : env.NeverRepeats) (system : System)
    (reachable : (machine env).Reachable system) (id : String) (session : Session)
    (stored : system.manager.sessions.lookup id = some session) : session.Ready :=
  (sound_of_reachable fresh reachable).ready id session stored

theorem calendar_session_ready :
    ∃ session, ((machine calendarEnv).after (machine calendarEnv).initial
        (calendarSubmissions ++ calendarInference "\x7b\x7d")).manager.sessions.lookup "a" =
        some session ∧
      session.state = .CLOSED ∧ session.Ready := by
  have closed : (((machine calendarEnv).after (machine calendarEnv).initial
      (calendarSubmissions ++ calendarInference "\x7b\x7d")).manager.sessions.lookup "a").map
        Session.state = some .CLOSED := by decide +kernel
  obtain ⟨session, stored, state⟩ := Option.map_eq_some_iff.mp closed
  exact ⟨session, stored, state, session_ready_of_reachable calendarEnv
    (countingEnv_neverRepeats _) _ ⟨_, rfl⟩ "a" session stored⟩

end Ztab
