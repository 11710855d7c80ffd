import Ztab.Session.Records

set_option autoImplicit false

/-!
# Idempotent creation

A creation nonce stands for one session as long as that session is stored.
-/

namespace Ztab

def Session.normalized (session : Session) (policy : SessionPolicy) : SessionPolicy :=
  { policy with
    inputSchemaJson := session.policy.inputSchemaJson
    outputSchemaJson := session.policy.outputSchemaJson
    timeoutSeconds := SessionManager.timeoutSecondsOf policy }

structure Session.Answers (session : Session) (request : CreateSessionRequest)
    (invitation token : String) : Prop where
  keyed : request.clientNonce ≠ ""
  valid : isValidUuidV4 request.clientNonce = true
  nonce : session.creatorNonce = request.clientNonce
  policy : session.policy = session.normalized request.policy
  invitation : session.invitationToken = invitation
  creator : session.participantTokens.head? = some token

namespace SessionManager

variable {env : Environment} {manager : SessionManager} {request : CreateSessionRequest}

theorem replayCreate_answers (indexed : Indexed manager) {id invitation token : String}
    {session : Session} (stored : manager.sessions.lookup id = some session)
    (answers : session.Answers request invitation token) :
    replayCreate manager request = .ok (some ⟨invitation, session.state, token⟩) := by
  have known : manager.creatorNonceToSession.lookup request.clientNonce = some id :=
    (indexed.creatorNonces _ id).mpr ⟨session, stored, answers.nonce, answers.keyed⟩
  have same := answers.policy
  unfold Session.normalized at same
  have creator : session.participantTokens.headD "" = token := by
    simp [List.headD_eq_head?_getD, answers.creator]
  unfold replayCreate
  simp only [answers.keyed, answers.valid, known, stored, if_false, not_true, Option.bind_some,
    ne_eq]
  rw [if_neg (not_not.mpr same), creator, answers.invitation]

theorem replayCreate_different (indexed : Indexed manager) {id : String} {session : Session}
    (stored : manager.sessions.lookup id = some session) (keyed : request.clientNonce ≠ "")
    (nonce : session.creatorNonce = request.clientNonce)
    (different : session.policy ≠ session.normalized request.policy) :
    ∃ failure, replayCreate manager request = .error failure := by
  have known : manager.creatorNonceToSession.lookup request.clientNonce = some id :=
    (indexed.creatorNonces _ id).mpr ⟨session, stored, nonce, keyed⟩
  unfold Session.normalized at different
  unfold replayCreate
  rw [if_neg keyed]
  by_cases valid : isValidUuidV4 request.clientNonce = true
  · simp only [valid, not_true, if_false, known, Option.bind_some, stored]
    rw [if_pos different]
    exact ⟨_, rfl⟩
  · rw [if_pos valid]
    exact ⟨_, rfl⟩

theorem replayCreate_valid {answered : Option CreateSessionResponse}
    (keyed : request.clientNonce ≠ "") (replayed : replayCreate manager request = .ok answered) :
    isValidUuidV4 request.clientNonce = true := by
  by_contra invalid
  simp [replayCreate, keyed, invalid, refuse] at replayed

theorem replayCreate_answered (sound : Sound env manager) {response : CreateSessionResponse}
    (keyed : request.clientNonce ≠ "")
    (replayed : replayCreate manager request = .ok (some response)) :
    ∃ id session, manager.sessions.lookup id = some session ∧
      session.Answers request response.invitationToken response.participantToken := by
  obtain ⟨id, session, indexed, stored, rfl⟩ := replayCreate_some replayed
  obtain ⟨held, kept, nonce, -⟩ := (sound.creatorNonces _ id).mp indexed
  cases stored.symm.trans kept
  have ready := sound.ready id session stored
  have creator : session.participantTokens.head? = some (session.participantTokens.headD "") := by
    have long := ready.length_tokens
    have seats := ready.sizeBounds.1
    cases tokens : session.participantTokens with
    | nil =>
      rw [tokens, List.length_nil] at long
      omega
    | cons first rest => rfl
  refine ⟨id, session, stored, keyed, replayCreate_valid keyed replayed, nonce, ?_, rfl, creator⟩
  by_contra different
  obtain ⟨failure, refused⟩ := replayCreate_different sound.toIndexed stored keyed nonce different
  rw [refused] at replayed
  cases replayed

-- The checks before the replay look at the request, the registry and the number of sessions.
theorem admitSession_replays {other : SessionManager} {granted : CreateSessionResponse ⊕ PolicyDefinition}
    {response : CreateSessionResponse} (admitted : manager.admitSession env request = .ok granted)
    (room : (FlatHashMap.size other.sessions : Int) < env.options.maxSessions)
    (replayed : replayCreate other request = .ok (some response)) :
    other.admitSession env request = .ok (.inl response) := by
  unfold admitSession at admitted ⊢
  simp only [refuse] at admitted ⊢
  rw [if_neg (not_le.mpr room)]
  split at admitted
  next => cases admitted
  next =>
    split at admitted
    next => cases admitted
    next definition found =>
      split_ifs at admitted with few many long
      split at admitted
      next => cases admitted
      next =>
        split at admitted
        next => cases admitted
        next => simp only [few, many, long, if_false, replayed]

end SessionManager

namespace Session

variable {session after : Session} {request : CreateSessionRequest} {invitation token : String}

theorem Continues.answers (continues : session.Continues after)
    (answers : session.Answers request invitation token) :
    after.Answers request invitation token where
  keyed := answers.keyed
  valid := answers.valid
  nonce := continues.creatorNonce.trans answers.nonce
  policy := by
    unfold normalized
    rw [continues.policy]
    exact answers.policy
  invitation := continues.invitationToken.trans answers.invitation
  creator := by
    obtain ⟨rest, same⟩ := continues.participantTokens
    rw [← same, List.head?_append, answers.creator]
    rfl

theorem swept_step {env : Environment} {now : Int} (kept : session.swept env now = some after) :
    session.Step env .rpc after := by
  obtain rfl := swept_some kept
  exact session.checkAndEnforceTimeout_step env now

end Session

namespace System

variable {env : Environment} {system : System} {now : Int} {request : CreateSessionRequest}

theorem createSession_succeeded {response : CreateSessionResponse}
    (answered : (system.step env (.createSession now request)).2 = .createSession (.ok response)) :
    system.alive = true ∧ (system.manager.createSession env now request).2 = .ok response := by
  by_cases running : system.alive = true
  · refine ⟨running, ?_⟩
    simp only [step, running, if_true, perform, createSession] at answered
    cases result : (system.manager.createSession env now request).2 with
    | ok other => simpa [result] using answered
    | error failure => simp [result] at answered
  · simp [step, running] at answered

theorem createSession_reply (running : system.alive = true) :
    (system.step env (.createSession now request)).2 =
      .createSession (system.manager.createSession env now request).2 := by
  simp only [step, running, if_true, perform, createSession]
  split <;> rfl

-- A creation that succeeds under a nonce leaves a session that stands for it.
theorem createSession_answers (fresh : env.NeverRepeats) (reachable : (machine env).Reachable system)
    {response : CreateSessionResponse}
    (answered : (system.step env (.createSession now request)).2 = .createSession (.ok response))
    (keyed : request.clientNonce ≠ "") :
    ∃ id session,
      (system.step env (.createSession now request)).1.manager.sessions.lookup id = some session ∧
      session.Answers request response.invitationToken response.participantToken := by
  obtain ⟨running, outcome⟩ := createSession_succeeded answered
  have sound := (sound_of_reachable fresh reachable).sweep now
  rw [step_createSession running]
  obtain ⟨failure, result⟩ | ⟨other, replayed, result⟩ | ⟨policyDef, admitted, result⟩ :=
    system.manager.createSession_cases env now request
  · rw [result] at outcome
    cases outcome
  · rw [result] at outcome ⊢
    cases outcome
    exact SessionManager.replayCreate_answered sound keyed replayed
  · rw [result] at outcome ⊢
    cases outcome
    refine ⟨_, _, AList.lookup_insert _, ?_⟩
    exact ⟨keyed, SessionManager.replayCreate_valid keyed admitted.unanswered, rfl, rfl, rfl, rfl⟩

end System

/-- The call gives the answer of the first one, and adds nothing to what its sweep leaves. -/
def CreateReplayed (env : Environment) (system : System) (now : Int) (request : CreateSessionRequest)
    (response : CreateSessionResponse) : Prop :=
  (∃ state, (system.step env (.createSession now request)).2 =
      .createSession (.ok ⟨response.invitationToken, state, response.participantToken⟩)) ∧
    (system.step env (.createSession now request)).1.manager =
      system.manager.sweepTerminalSessions env now

def CreateRefused (env : Environment) (system : System) (now : Int)
    (request : CreateSessionRequest) : Prop :=
  (∃ failure, (system.step env (.createSession now request)).2 = .createSession (.error failure)) ∧
    (system.step env (.createSession now request)).1.manager =
      system.manager.sweepTerminalSessions env now

namespace System

variable {env : Environment} {system : System} {now : Int} {request : CreateSessionRequest}

theorem createSession_full (running : system.alive = true)
    (full : ¬ (FlatHashMap.size (system.manager.sweepTerminalSessions env now).sessions : Int) <
      env.options.maxSessions) : CreateRefused env system now request := by
  have result : ∃ failure, system.manager.createSession env now request =
      (system.manager.sweepTerminalSessions env now, .error failure) := by
    unfold SessionManager.createSession SessionManager.admitSession
    simp only
    rw [if_pos (not_lt.mp full)]
    exact ⟨_, rfl⟩
  obtain ⟨failure, result⟩ := result
  refine ⟨⟨failure, ?_⟩, ?_⟩
  · rw [createSession_reply running, result]
  · rw [step_createSession running, result]

theorem createSession_replays (sound : SessionManager.Sound env system.manager)
    (running : system.alive = true) {earlier : SessionManager}
    {granted : CreateSessionResponse ⊕ PolicyDefinition}
    (admitted : earlier.admitSession env request = .ok granted) {id : String} {kept : Session}
    (stored : (system.manager.sweepTerminalSessions env now).sessions.lookup id = some kept)
    {response : CreateSessionResponse}
    (answers : kept.Answers request response.invitationToken response.participantToken)
    (room : (FlatHashMap.size (system.manager.sweepTerminalSessions env now).sessions : Int) <
      env.options.maxSessions) : CreateReplayed env system now request response := by
  have replayed := SessionManager.admitSession_replays admitted room
    (SessionManager.replayCreate_answers (sound.sweep now).toIndexed stored answers)
  have result : system.manager.createSession env now request =
      (system.manager.sweepTerminalSessions env now,
        .ok ⟨response.invitationToken, kept.state, response.participantToken⟩) := by
    simp [SessionManager.createSession, replayed]
  refine ⟨⟨kept.state, ?_⟩, ?_⟩
  · rw [createSession_reply running, result]
  · rw [step_createSession running, result]

theorem createSession_refuses (sound : SessionManager.Sound env system.manager)
    (running : system.alive = true) {id : String} {kept : Session}
    (stored : (system.manager.sweepTerminalSessions env now).sessions.lookup id = some kept)
    (keyed : request.clientNonce ≠ "") (nonce : kept.creatorNonce = request.clientNonce)
    (different : kept.policy ≠ kept.normalized request.policy) :
    CreateRefused env system now request := by
  obtain ⟨unequal, refused⟩ := SessionManager.replayCreate_different (sound.sweep now).toIndexed
    stored keyed nonce different
  obtain ⟨failure, result⟩ | ⟨response, replayed, -⟩ | ⟨policyDef, admitted, -⟩ :=
    system.manager.createSession_cases env now request
  · refine ⟨⟨failure, ?_⟩, ?_⟩
    · rw [createSession_reply running, result]
    · rw [step_createSession running, result]
  · rw [refused] at replayed
    cases replayed
  · have unanswered := admitted.unanswered
    rw [refused] at unanswered
    cases unanswered

theorem createSession_admitted {response : CreateSessionResponse}
    (answered : (system.step env (.createSession now request)).2 = .createSession (.ok response)) :
    ∃ granted, (system.manager.sweepTerminalSessions env now).admitSession env request =
      .ok granted := by
  obtain ⟨-, outcome⟩ := createSession_succeeded answered
  cases admitted : (system.manager.sweepTerminalSessions env now).admitSession env request with
  | ok granted => exact ⟨granted, rfl⟩
  | error failure => simp [SessionManager.createSession, admitted] at outcome

end System

/-- What a later state owes the request that was answered for session `id`. -/
structure CreateIdempotent (env : Environment) (later : System) (id : String)
    (request : CreateSessionRequest) (response : CreateSessionResponse) : Prop where
  replayed : ∀ again record kept, later.manager.sessions.lookup id = some record →
    record.swept env again = some kept →
      (CreateReplayed env later again request response ↔
        (FlatHashMap.size (later.manager.sweepTerminalSessions env again).sessions : Int) <
          env.options.maxSessions)
  refused : ∀ again record kept, later.manager.sessions.lookup id = some record →
    record.swept env again = some kept →
      ∀ other, other.clientNonce = request.clientNonce →
        kept.normalized other.policy ≠ kept.normalized request.policy →
          CreateRefused env later again other

/-- A repeated CreateSession is answered from the session it created while the store has room. -/
theorem create_idempotent_iff_room (env : Environment) (fresh : env.NeverRepeats) (system : System)
    (reachable : (machine env).Reachable system) (now : Int) (request : CreateSessionRequest)
    (response : CreateSessionResponse)
    (answered : (system.step env (.createSession now request)).2 = .createSession (.ok response))
    (keyed : request.clientNonce ≠ "") :
    ∃ id session,
      (system.step env (.createSession now request)).1.manager.sessions.lookup id = some session ∧
      session.invitationToken = response.invitationToken ∧
      ∀ rest later, later = (machine env).after (system.step env (.createSession now request)).1 rest →
        later.alive = true → CreateIdempotent env later id request response := by
  obtain ⟨id, session, stored, answers⟩ :=
    System.createSession_answers fresh reachable answered keyed
  obtain ⟨granted, admitted⟩ := System.createSession_admitted answered
  have stepped := reachable.step (.createSession now request)
  refine ⟨id, session, stored, answers.invitation, ?_⟩
  rintro rest later rfl alive
  have sound := sound_of_reachable fresh (stepped.after rest)
  -- The record the sweep keeps still stands for the request.
  have survives (again : Int) (record kept : Session)
      (found : ((machine env).after (system.step env (.createSession now request)).1
        rest).manager.sessions.lookup id = some record)
      (survived : record.swept env again = some kept) :
      (((machine env).after (system.step env (.createSession now request)).1
          rest).manager.sweepTerminalSessions env again).sessions.lookup id = some kept ∧
        kept.Answers request response.invitationToken response.participantToken := by
    refine ⟨by simp [SessionManager.lookup_sweep, found, survived], ?_⟩
    obtain ⟨held, there, changes⟩ := changes_after fresh stepped
      ((sound_of_reachable fresh stepped).idsDrawn id session stored) rest found
    cases stored.symm.trans there
    exact (Session.Change.stepped (Session.swept_step survived)).continues.answers
      ((Session.changes_continue changes).answers answers)
  constructor
  · intro again record kept found survived
    obtain ⟨keptStored, keptAnswers⟩ := survives again record kept found survived
    constructor
    · rintro ⟨⟨state, reply⟩, -⟩
      by_contra full
      obtain ⟨⟨failure, refused⟩, -⟩ := System.createSession_full alive full
      rw [refused] at reply
      cases reply
    · exact System.createSession_replays sound alive admitted keptStored keptAnswers
  · intro again record kept found survived other sameNonce different
    obtain ⟨keptStored, keptAnswers⟩ := survives again record kept found survived
    refine System.createSession_refuses sound alive keptStored (sameNonce ▸ keyed)
      (keptAnswers.nonce.trans sameNonce.symm) ?_
    exact fun same => different (same.symm.trans keptAnswers.policy)

theorem SessionManager.kept_of_isSome {env : Environment} {manager : SessionManager} {now : Int}
    {id : String}
    (survives : ((manager.sessions.lookup id).bind (Session.swept env now)).isSome = true) :
    ∃ record kept, manager.sessions.lookup id = some record ∧ record.swept env now = some kept := by
  obtain ⟨kept, found⟩ := Option.isSome_iff_exists.mp survives
  obtain ⟨record, stored, swept⟩ := Option.bind_eq_some_iff.mp found
  exact ⟨record, kept, stored, swept⟩

def Reply.createdTokens : Reply → Option (String × String)
  | .createSession (.ok response) => some (response.invitationToken, response.participantToken)
  | _ => none

theorem Reply.of_createdTokens {reply : Reply} {invitation token : String}
    (tokens : reply.createdTokens = some (invitation, token)) :
    ∃ response, reply = .createSession (.ok response) ∧ response.invitationToken = invitation ∧
      response.participantToken = token := by
  unfold createdTokens at tokens
  split at tokens
  next response =>
    cases tokens
    exact ⟨response, rfl, rfl, rfl⟩
  next => cases tokens

def calendarRequest : CreateSessionRequest where
  policy := { policyClass := "calendar", expectedParticipants := 2 }
  clientNonce := "a0eebc99-9c0b-4ef8-bb6d-6bb9bd380a11"

theorem calendar_create_replayed :
    ∃ response, CreateReplayed calendarEnv
      ((machine calendarEnv).initial.step calendarEnv (.createSession 0 calendarRequest)).1 0
      calendarRequest response := by
  have tokens : ((machine calendarEnv).initial.step calendarEnv
      (.createSession 0 calendarRequest)).2.createdTokens = some ("aaa", "aa") := by decide +kernel
  obtain ⟨response, answered, invitation, -⟩ := Reply.of_createdTokens tokens
  obtain ⟨id, session, stored, invited, later⟩ := create_idempotent_iff_room calendarEnv
    (countingEnv_neverRepeats _) _ ⟨[], rfl⟩ 0 calendarRequest response answered (by decide)
  have idempotent := later [] _ rfl (by decide +kernel)
  have only : ((machine calendarEnv).initial.step calendarEnv
      (.createSession 0 calendarRequest)).1.manager.sessions.keys = ["a"] := by decide +kernel
  have named : id = "a" := by
    have listed : id ∈ ((machine calendarEnv).initial.step calendarEnv
        (.createSession 0 calendarRequest)).1.manager.sessions.keys :=
      AList.mem_keys.mp ((FlatHashMap.mem_iff_lookup _ _).mpr ⟨session, stored⟩)
    rw [only] at listed
    exact List.mem_singleton.mp listed
  subst named
  have survives : ((((machine calendarEnv).initial.step calendarEnv
      (.createSession 0 calendarRequest)).1.manager.sessions.lookup "a").bind
        (Session.swept calendarEnv 0)).isSome = true := by decide +kernel
  obtain ⟨record, kept, held, swept⟩ := SessionManager.kept_of_isSome survives
  exact ⟨response, (idempotent.replayed 0 record kept held swept).mpr (by decide +kernel)⟩

-- A store of one session: the session is there, and the call that asks for it is refused.
def fullEnv : Environment := { calendarEnv with options := { maxSessions := 1 } }

theorem full_store_refuses_replay :
    ∃ later response record kept,
      later = ((machine fullEnv).initial.step fullEnv (.createSession 0 calendarRequest)).1 ∧
      ((machine fullEnv).initial.step fullEnv (.createSession 0 calendarRequest)).2 =
        .createSession (.ok response) ∧
      later.alive = true ∧ later.manager.sessions.lookup "a" = some record ∧
      record.swept fullEnv 0 = some kept ∧
      ¬ CreateReplayed fullEnv later 0 calendarRequest response := by
  have tokens : ((machine fullEnv).initial.step fullEnv
      (.createSession 0 calendarRequest)).2.createdTokens = some ("aaa", "aa") := by decide +kernel
  obtain ⟨response, answered, invitation, token⟩ := Reply.of_createdTokens tokens
  have survives : ((((machine fullEnv).initial.step fullEnv
      (.createSession 0 calendarRequest)).1.manager.sessions.lookup "a").bind
        (Session.swept fullEnv 0)).isSome = true := by decide +kernel
  obtain ⟨record, kept, stored, swept⟩ := SessionManager.kept_of_isSome survives
  refine ⟨_, response, record, kept, rfl, answered, by decide +kernel, stored, swept, ?_⟩
  rintro ⟨⟨state, reply⟩, -⟩
  have refused : ((((machine fullEnv).initial.step fullEnv (.createSession 0 calendarRequest)).1.step
      fullEnv (.createSession 0 calendarRequest)).2.createdTokens) = none := by decide +kernel
  rw [reply] at refused
  cases refused

end Ztab
