import Ztab.Session.Indexes

set_option autoImplicit false

/-!
# Issued tokens

A participant token opens the session it was issued for, and no other, until the
sweep erases that session.
-/

namespace Ztab

structure Issued (env : Environment) (issued : List (String × String)) (invitations : List String)
    (manager : SessionManager) : Prop where
  drawn : ∀ token id, (token, id) ∈ issued →
    env.Drawn manager.draws token ∧ env.Drawn manager.draws id
  functional : ∀ token id other, (token, id) ∈ issued → (token, other) ∈ issued → id = other
  seated : ∀ id session, manager.sessions.lookup id = some session →
    ∀ token ∈ session.participants, (token, id) ∈ issued
  current : ∀ id session, manager.sessions.lookup id = some session →
    ∀ token, (token, id) ∈ issued → token ∈ session.participants
  invited : ∀ id session, manager.sessions.lookup id = some session →
    session.invitationToken ∈ invitations
  invitationsDrawn : ∀ invitation ∈ invitations, env.Drawn manager.draws invitation
  separate : ∀ token id, (token, id) ∈ issued → token ∉ invitations

-- What a step that admits nobody leaves in the store was there before.
structure Shrinks (before after : SessionManager) : Prop where
  later : before.draws ≤ after.draws
  kept : ∀ id session, after.sessions.lookup id = some session →
    ∃ held, before.sessions.lookup id = some held ∧ held.SameIdentity session

theorem LocalStep.shrinks {env : Environment} {actor : Actor} {before after : SessionManager}
    (step : LocalStep env actor before after) : Shrinks before after := by
  cases step with
  | keep count draws later =>
    exact ⟨later, fun id session stored => ⟨session, stored, .refl session⟩⟩
  | update id session after count stored step =>
    refine ⟨le_rfl, SessionManager.forall_put ⟨session, stored, step.identity⟩ ?_⟩
    exact fun other held found => ⟨held, found, .refl held⟩

theorem Shrinks.sweep (env : Environment) (now : Int) (manager : SessionManager) :
    Shrinks manager (manager.sweepTerminalSessions env now) := by
  refine ⟨(draws_sweep env now manager).ge, fun id session stored => ?_⟩
  obtain ⟨held, found, step⟩ := swept_step stored
  exact ⟨held, found, step.identity⟩

namespace Issued

variable {env : Environment} {issued : List (String × String)} {invitations : List String}
  {manager after : SessionManager}

theorem shrink (tokens : Issued env issued invitations manager) (shrinks : Shrinks manager after) :
    Issued env issued invitations after where
  drawn token id listed :=
    ⟨(tokens.drawn token id listed).1.mono shrinks.later,
      (tokens.drawn token id listed).2.mono shrinks.later⟩
  functional := tokens.functional
  seated id session stored token member := by
    obtain ⟨held, found, same⟩ := shrinks.kept id session stored
    exact tokens.seated id held found token ((same.members token).mp member)
  current id session stored token listed := by
    obtain ⟨held, found, same⟩ := shrinks.kept id session stored
    exact (same.members token).mpr (tokens.current id held found token listed)
  invited id session stored := by
    obtain ⟨held, found, same⟩ := shrinks.kept id session stored
    rw [same.invitationToken]
    exact tokens.invited id held found
  invitationsDrawn invitation listed :=
    (tokens.invitationsDrawn invitation listed).mono shrinks.later
  separate := tokens.separate

theorem congr (tokens : Issued env issued invitations manager) {issued' : List (String × String)}
    {invitations' : List String} (sameIssued : ∀ entry, entry ∈ issued' ↔ entry ∈ issued)
    (sameInvitations : ∀ invitation, invitation ∈ invitations' ↔ invitation ∈ invitations) :
    Issued env issued' invitations' manager := by
  constructor
  all_goals simp only [sameIssued, sameInvitations]
  · exact tokens.drawn
  · exact tokens.functional
  · exact tokens.seated
  · exact tokens.current
  · exact tokens.invited
  · exact tokens.invitationsDrawn
  · exact tokens.separate

-- One new token, for a session whose other members all have theirs.
theorem seat (tokens : Issued env issued invitations manager) {session : Session}
    {token id : String} {invitations' : List String}
    (stored : after.sessions = manager.sessions.insert id session)
    (later : manager.draws ≤ after.draws) (unknown : ∀ other, (token, other) ∉ issued)
    (members : ∀ other, other ∈ session.participants ↔ other = token ∨ (other, id) ∈ issued)
    (tokenDrawn : env.Drawn after.draws token) (idDrawn : env.Drawn after.draws id)
    (grown : ∀ invitation ∈ invitations, invitation ∈ invitations')
    (invited : session.invitationToken ∈ invitations')
    (invitationsDrawn : ∀ invitation ∈ invitations', env.Drawn after.draws invitation)
    (separate : ∀ other owner, (other, owner) ∈ issued ∨ other = token → other ∉ invitations') :
    Issued env (issued ++ [(token, id)]) invitations' after := by
  have listed (other owner : String) : (other, owner) ∈ issued ++ [(token, id)] ↔
      (other, owner) ∈ issued ∨ other = token ∧ owner = id := by simp
  have found (owner : String) : after.sessions.lookup owner =
      if owner = id then some session else manager.sessions.lookup owner := by
    rw [stored, FlatHashMap.lookup_insert_ite]
  constructor
  · intro other owner known
    rcases (listed other owner).mp known with known | ⟨rfl, rfl⟩
    · exact ⟨(tokens.drawn other owner known).1.mono later,
        (tokens.drawn other owner known).2.mono later⟩
    · exact ⟨tokenDrawn, idDrawn⟩
  · intro other one two known known'
    rcases (listed other one).mp known with old | ⟨first, here⟩ <;>
      rcases (listed other two).mp known' with old' | ⟨second, here'⟩
    · exact tokens.functional other one two old old'
    · exact absurd (second ▸ old) (unknown one)
    · exact absurd (first ▸ old') (unknown two)
    · exact here.trans here'.symm
  · intro owner held kept other member
    rw [found] at kept
    split_ifs at kept with here
    · cases kept
      rcases (members other).mp member with rfl | known
      · exact (listed _ _).mpr (.inr ⟨rfl, here⟩)
      · exact (listed _ _).mpr (.inl (here ▸ known))
    · exact (listed _ _).mpr (.inl (tokens.seated owner held kept other member))
  · intro owner held kept other known
    rw [found] at kept
    split_ifs at kept with here
    · cases kept
      rcases (listed other owner).mp known with known | ⟨rfl, -⟩
      · exact (members other).mpr (.inr (here ▸ known))
      · exact (members _).mpr (.inl rfl)
    · rcases (listed other owner).mp known with known | ⟨-, rfl⟩
      · exact tokens.current owner held kept other known
      · exact absurd rfl here
  · intro owner held kept
    rw [found] at kept
    split_ifs at kept
    · cases kept
      exact invited
    · exact grown _ (tokens.invited owner held kept)
  · exact invitationsDrawn
  · intro other owner known
    exact separate other owner (((listed other owner).mp known).imp_right And.left)

theorem join (fresh : env.NeverRepeats) (tokens : Issued env issued invitations manager)
    {id : String} {session : Session} (clientNonce : String)
    (stored : manager.sessions.lookup id = some session) (idDrawn : env.Drawn manager.draws id) :
    Issued env (issued ++ [(env.randomHex manager.draws kParticipantTokenBytes, id)]) invitations
      (manager.admitParticipant env id session clientNonce).1 := by
  have later : manager.draws ≤ manager.draws + 1 := Nat.le_succ _
  refine tokens.seat rfl later ?_ ?_ ⟨_, _, Nat.lt_succ_self _, rfl⟩ (idDrawn.mono later)
    (fun _ known => known) (tokens.invited id session stored) ?_ ?_
  · intro other listed
    exact (tokens.drawn _ other listed).1.ne_next fresh le_rfl _ rfl
  · intro other
    rw [SessionManager.Sound.members_addParticipant]
    refine or_congr Iff.rfl ⟨?_, ?_⟩
    · exact tokens.seated id session stored other
    · exact tokens.current id session stored other
  · intro invitation known
    exact (tokens.invitationsDrawn invitation known).mono later
  · rintro other owner (known | rfl)
    · exact tokens.separate other owner known
    · exact fun invited => (tokens.invitationsDrawn _ invited).ne_next fresh le_rfl _ rfl

theorem create (fresh : env.NeverRepeats) (tokens : Issued env issued invitations manager)
    (now : Int) (request : CreateSessionRequest) (policyDef : PolicyDefinition) :
    Issued env
      (issued ++ [(env.randomHex (manager.draws + 1) kParticipantTokenBytes,
        env.randomHex manager.draws kSessionIdBytes)])
      (invitations ++ [env.randomHex (manager.draws + 2) kParticipantTokenBytes])
      (manager.openSession env now request policyDef).1 := by
  have drawn (call bytes : Nat) (recent : call < manager.draws + 3) :
      env.Drawn (manager.draws + 3) (env.randomHex call bytes) := ⟨call, bytes, recent, rfl⟩
  have later : manager.draws ≤ manager.draws + 3 := by omega
  refine tokens.seat rfl later ?_ ?_ (drawn (manager.draws + 1) _ (by omega))
    (drawn manager.draws _ (by omega)) ?_ ?_ ?_ ?_
  · intro other listed
    exact (tokens.drawn _ other listed).1.ne_next fresh (by omega) _ rfl
  · intro other
    have unowned : (other, env.randomHex manager.draws kSessionIdBytes) ∉ issued := fun listed =>
      (tokens.drawn other _ listed).2.ne_next fresh le_rfl _ rfl
    simp only [SessionManager.newSession, AList.mem_insert,
      AList.notMem_empty, unowned]
  · intro invitation known
    exact List.mem_append_left _ known
  · exact List.mem_append_right _ (List.mem_singleton_self _)
  · intro invitation known
    rcases List.mem_append.mp known with known | known
    · exact (tokens.invitationsDrawn invitation known).mono later
    · rw [List.mem_singleton.mp known]
      exact drawn (manager.draws + 2) _ (by omega)
  · intro other owner known invited
    rcases List.mem_append.mp invited with invited | invited
    · rcases known with known | rfl
      · exact tokens.separate other owner known invited
      · exact (tokens.invitationsDrawn _ invited).ne_next fresh (by omega) _ rfl
    · rw [List.mem_singleton.mp invited] at known
      rcases known with known | same
      · exact (tokens.drawn _ owner known).1.ne_next fresh (by omega) _ rfl
      · have := fresh _ _ _ _ same
        omega

end Issued

theorem Session.Roster.creator_mem {session : Session} (roster : session.Roster) :
    session.participantTokens.headD "" ∈ session.participants := by
  have long : 0 < session.participantTokens.length := by
    rw [roster.length_tokens]
    exact roster.sizeBounds.1
  rw [← roster.mem_tokens]
  cases tokens : session.participantTokens with
  | nil => simp [tokens] at long
  | cons first rest => exact List.mem_cons_self ..

def TokensIssued (env : Environment) (system : System) : Prop :=
  Issued env system.history.issued system.history.invitations system.manager

namespace System

theorem issue_eq (system : System) {invitation id : String} (token : String)
    (indexed : system.manager.invitationToSession.lookup invitation = some id) :
    system.issue invitation token =
      { system with
        history := { system.history with issued := system.history.issued ++ [(token, id)] } } := by
  simp [issue, indexed]

theorem tokensIssued_quiet {env : Environment} {actor : Actor} {before after : System}
    (tokens : TokensIssued env before) (quiet : Quiet env actor before after) :
    TokensIssued env after := by
  unfold TokensIssued
  rw [quiet.issued, quiet.invitations]
  exact Issued.shrink tokens quiet.manager.shrinks

theorem mem_append_of_mem {α : Type} {entries : List α} {known : α} (listed : known ∈ entries)
    (entry : α) : entry ∈ entries ++ [known] ↔ entry ∈ entries := by
  rw [List.mem_append, List.mem_singleton]
  exact ⟨fun either => either.elim id (fun same => same ▸ listed), .inl⟩

theorem createSession_tokensIssued {env : Environment} (fresh : env.NeverRepeats) (now : Int)
    {system : System} (sound : SessionManager.Sound env system.manager)
    (tokens : TokensIssued env system) (request : CreateSessionRequest) :
    TokensIssued env (system.createSession env now request).1 := by
  have swept := Issued.shrink tokens (.sweep env now system.manager)
  have sweptSound := sound.sweep now
  unfold createSession
  obtain ⟨failure, result⟩ | ⟨response, replayed, result⟩ | ⟨policyDef, admitted, result⟩ :=
    system.manager.createSession_cases env now request
  · rw [result]
    exact swept
  · obtain ⟨id, session, -, stored, rfl⟩ := SessionManager.replayCreate_some replayed
    have indexed := (sweptSound.invitations session.invitationToken id).mpr ⟨session, stored, rfl⟩
    have known := swept.seated id session stored _ (sweptSound.ready id session stored).creator_mem
    rw [result]
    simp only
    rw [issue_eq _ _ indexed]
    exact swept.congr (mem_append_of_mem known) (mem_append_of_mem (swept.invited id session stored))
  · rw [result]
    simp only
    rw [issue_eq _ _ (AList.lookup_insert _)]
    exact swept.create fresh now request policyDef

theorem joinSession_tokensIssued {env : Environment} (fresh : env.NeverRepeats) (now : Int)
    {system : System} (sound : SessionManager.Sound env system.manager)
    (tokens : TokensIssued env system) (request : JoinSessionRequest) :
    TokensIssued env (system.joinSession env now request).1 := by
  unfold joinSession
  obtain result | ⟨id, found, indexed, stored, outcome⟩ :=
    system.manager.joinSession_cases env now request
  · rw [result]
    exact tokens
  · have checked := Issued.shrink tokens
      (LocalStep.put stored (found.checkAndEnforceTimeout_step env now)).shrinks
    obtain ⟨failure, result⟩ | ⟨token, replayed, result⟩ | ⟨waiting, room, result⟩ := outcome
    · rw [result]
      exact checked
    · have known := Issued.seated tokens id found stored token
        (sound.joinNonces id found stored _ token replayed)
      rw [result]
      simp only
      rw [issue_eq _ _ (by exact indexed)]
      exact checked.congr (mem_append_of_mem known) (fun _ => Iff.rfl)
    · rw [result]
      simp only
      rw [issue_eq _ _ (by exact indexed)]
      exact Issued.join fresh tokens request.clientNonce stored (sound.idsDrawn id found stored)

theorem step_tokensIssued {env : Environment} (fresh : env.NeverRepeats) {system : System}
    (sound : SessionManager.Sound env system.manager) (tokens : TokensIssued env system)
    (action : Action) : TokensIssued env (system.step env action).1 := by
  unfold step
  split
  next =>
    by_cases silent : action.HandsOutToken
    · cases action with
      | createSession now request => exact createSession_tokensIssued fresh now sound tokens request
      | joinSession now request => exact joinSession_tokensIssued fresh now sound tokens request
      | _ => exact absurd silent id
    · exact tokensIssued_quiet tokens (system.perform_quiet env action silent)
  next => exact tokens

end System

theorem tokensIssued_of_reachable {env : Environment} (fresh : env.NeverRepeats) {system : System}
    (reachable : (machine env).Reachable system) : TokensIssued env system := by
  have both := (machine env).reachable_invariant
    (fun system => SessionManager.Sound env system.manager ∧ TokensIssued env system)
    ⟨SessionManager.sound_initial env, by constructor <;> simp [machine]⟩
    (fun system action holds => ⟨(system.step_manager env action).sound fresh holds.1,
      System.step_tokensIssued fresh holds.1 holds.2 action⟩) system reachable
  exact both.2

namespace SessionManager

variable {manager : SessionManager}

-- With exact indexes a known token always leads to its participant record.
theorem authenticate_eq (indexed : Indexed manager) (token : String) :
    manager.authenticate token = .error .unknownToken ∧
        manager.participantToSession.lookup token = none ∨
      ∃ id session participant, manager.authenticate token = .ok (id, session, participant) ∧
        manager.participantToSession.lookup token = some id := by
  cases known : manager.participantToSession.lookup token with
  | none => exact .inl ⟨by simp [authenticate, known], rfl⟩
  | some id =>
    obtain ⟨session, stored, member⟩ := (indexed.participants token id).mp known
    obtain ⟨participant, listed⟩ := (FlatHashMap.mem_iff_lookup _ _).mp member
    exact .inr ⟨id, session, participant, by simp [authenticate, known, stored, listed], rfl⟩

theorem authenticate_ok_iff (indexed : Indexed manager) (token id : String) :
    (∃ session participant, manager.authenticate token = .ok (id, session, participant)) ↔
      ∃ session, manager.sessions.lookup id = some session ∧ token ∈ session.participants := by
  rw [← indexed.participants]
  constructor
  · rintro ⟨session, participant, known⟩
    exact (authenticate_ok known).1
  · intro known
    obtain ⟨-, missing⟩ | ⟨owner, session, participant, found, owned⟩ := authenticate_eq indexed token
    · simp [missing] at known
    · cases owned.symm.trans known
      exact ⟨session, participant, found⟩

end SessionManager

structure ExactCapabilities (system : System) : Prop where
  indexed : system.manager.Indexed
  tokensUnshared : ∀ id session other held, system.manager.sessions.lookup id = some session →
    system.manager.sessions.lookup other = some held →
    (∃ token, token ∈ session.participants ∧ token ∈ held.participants) ∨
      session.invitationToken = held.invitationToken ∨
      (session.creatorNonce = held.creatorNonce ∧ session.creatorNonce ≠ "") → id = other
  kindsUnshared : ∀ id session other held, system.manager.sessions.lookup id = some session →
    system.manager.sessions.lookup other = some held → session.invitationToken ∉ held.participants
  authenticates : ∀ token id,
    (∃ session participant, system.manager.authenticate token = .ok (id, session, participant)) ↔
      (token, id) ∈ system.history.issued ∧ id ∈ system.manager.sessions
  sameSession : ∀ token id other, (token, id) ∈ system.history.issued →
    (token, other) ∈ system.history.issued → id = other
  notInvitations : ∀ token ∈ system.history.invitations,
    system.manager.authenticate token = .error .unknownToken
  neverMissing : ∀ token, system.manager.authenticate token ≠ .error .sessionMissing ∧
    system.manager.authenticate token ≠ .error .participantMissing

theorem exact_capabilities_of_reachable (env : Environment) (fresh : env.NeverRepeats)
    (system : System) (reachable : (machine env).Reachable system) : ExactCapabilities system := by
  have sound := sound_of_reachable fresh reachable
  have tokens := tokensIssued_of_reachable fresh reachable
  have authenticates : ∀ token id,
      (∃ session participant, system.manager.authenticate token = .ok (id, session, participant)) ↔
        (token, id) ∈ system.history.issued ∧ id ∈ system.manager.sessions := by
    intro token id
    rw [SessionManager.authenticate_ok_iff sound.toIndexed, FlatHashMap.mem_iff_lookup]
    constructor
    · rintro ⟨session, stored, member⟩
      exact ⟨Issued.seated tokens id session stored token member, session, stored⟩
    · rintro ⟨listed, session, stored⟩
      exact ⟨session, stored, Issued.current tokens id session stored token listed⟩
  refine
    { indexed := sound.toIndexed, tokensUnshared := ?_, kindsUnshared := ?_
      authenticates := authenticates, sameSession := tokens.functional, notInvitations := ?_
      neverMissing := ?_ }
  · rintro id session other held stored stored' (⟨token, member, member'⟩ | same | ⟨same, keyed⟩)
    · exact Issued.functional tokens token id other
        (Issued.seated tokens id session stored token member)
        (Issued.seated tokens other held stored' token member')
    · have one := (sound.invitations session.invitationToken id).mpr ⟨session, stored, rfl⟩
      have two := (sound.invitations session.invitationToken other).mpr ⟨held, stored', same.symm⟩
      exact Option.some.inj (one.symm.trans two)
    · have one := (sound.creatorNonces session.creatorNonce id).mpr ⟨session, stored, rfl, keyed⟩
      have two := (sound.creatorNonces session.creatorNonce other).mpr
        ⟨held, stored', same.symm, keyed⟩
      exact Option.some.inj (one.symm.trans two)
  · exact fun id session other held stored => sound.apart id session stored other held
  · intro token invited
    obtain ⟨refused, -⟩ | ⟨id, session, participant, known, -⟩ :=
      SessionManager.authenticate_eq sound.toIndexed token
    · exact refused
    · have issued := ((authenticates token id).mp ⟨session, participant, known⟩).1
      exact absurd invited (Issued.separate tokens token id issued)
  · intro token
    obtain ⟨refused, -⟩ | ⟨id, session, participant, known, -⟩ :=
      SessionManager.authenticate_eq sound.toIndexed token
    · simp [refused]
    · simp [known]

theorem calendar_capabilities :
    ExactCapabilities
        ((machine calendarEnv).after (machine calendarEnv).initial calendarSubmissions) ∧
      ((machine calendarEnv).after (machine calendarEnv).initial calendarSubmissions).history.issued =
        [("aa", "a"), ("aaaa", "a")] :=
  ⟨exact_capabilities_of_reachable calendarEnv (countingEnv_neverRepeats _) _ ⟨_, rfl⟩,
    by decide +kernel⟩

end Ztab
