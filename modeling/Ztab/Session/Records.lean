import Mathlib.Logic.Relation
import Ztab.Session.Isolation

set_option autoImplicit false

/-!
# The life of a record

Where the record found under an identifier comes from, one step and many steps back.
-/

namespace Ztab

namespace Session

variable {env : Environment} {fresh : Nat → String} {session after : Session}

theorem join_refused {token clientNonce : String} {failure : Failure}
    (refused : (session.join token clientNonce).2 = .error failure) :
    (session.join token clientNonce).1 = session := by
  unfold join at refused ⊢
  split at refused
  next => rfl
  next => cases refused
  next =>
    split_ifs at refused ⊢
    rfl

theorem join_cases {token clientNonce : String} {response : JoinSessionResponse}
    (joined : (session.join token clientNonce).2 = .ok response) :
    (∃ held, SessionManager.replayJoin session clientNonce = .ok (some held) ∧
        (session.join token clientNonce).1 = session ∧ response.participantToken = held) ∨
      (SessionManager.replayJoin session clientNonce = .ok none ∧ session.state = .OPEN ∧
        (session.join token clientNonce).1 = session.addParticipant token clientNonce ∧
        response.participantToken = token) := by
  unfold join at joined ⊢
  split at joined
  next => cases joined
  next held replayed =>
    cases joined
    exact .inl ⟨held, replayed, rfl, rfl⟩
  next unanswered =>
    split_ifs at joined ⊢ with vacant
    · cases joined
      exact .inr ⟨unanswered, vacant.1, rfl, rfl⟩
    · cases joined

theorem withParticipant_step {α : Type} {now : Int} {token : String}
    {body : Session → Participant → Session × Outcome α}
    (step : ∀ participant, session.participants.lookup token = some participant →
      session.Step env .rpc (body (session.checkAndEnforceTimeout env now) participant).1) :
    session.Step env .rpc (session.withParticipant env now token body).1 := by
  obtain same | ⟨participant, listed, same⟩ := session.withParticipant_cases env now token body
  · rw [same]
    exact .same
  · rw [same]
    exact step participant listed

theorem call_step {action : Action} (kind : ∀ now request, action ≠ .joinSession now request)
    (record : (session.call env fresh action).record = some after) : session.Step env .rpc after := by
  cases action with
  | joinSession now request => exact absurd rfl (kind now request)
  | acceptPolicy now request =>
    cases record
    exact withParticipant_step fun participant listed =>
      session.acceptPolicy_step env now _ participant listed
  | submitInput now request =>
    simp only [call, submitted_record, Option.some.injEq] at record
    rw [← record]
    exact withParticipant_step fun participant listed =>
      session.submitInput_step env now _ _ participant listed
  | getResult now request =>
    cases record
    exact withParticipant_step fun _ _ => session.checkAndEnforceTimeout_step env now
  | getSessionStatus now request =>
    cases record
    exact withParticipant_step fun _ _ => session.checkAndEnforceTimeout_step env now
  | _ =>
    cases record
    exact .same

end Session

inductive RecordOrigin (env : Environment) (system : System) (action : Action) (id : String) :
    Session → Prop
  | stepped {held session : Session} {actor : Actor}
      (stored : system.manager.sessions.lookup id = some held) (step : held.Step env actor session) :
      RecordOrigin env system action id session
  | joined {held : Session} {now : Int} {request : JoinSessionRequest}
      {response : JoinSessionResponse} {token : String}
      (same : action = .joinSession now request)
      (answered : (system.step env action).2 = .joinSession (.ok response))
      (stored : system.manager.sessions.lookup id = some held) (waiting : held.state = .OPEN)
      (unanswered : SessionManager.replayJoin held request.clientNonce = .ok none)
      (newcomer : token ∉ held.participants) :
      RecordOrigin env system action id (held.addParticipant token request.clientNonce)
  | created {now : Int} {request : CreateSessionRequest} {policyDef : PolicyDefinition}
      (same : action = .createSession now request)
      (named : id = env.randomHex system.manager.draws kSessionIdBytes) :
      RecordOrigin env system action id (system.manager.opened env now request policyDef)

section Origin

variable {env : Environment} {system : System} {action : Action} {id : String} {session : Session}

theorem RecordOrigin.unchanged (stored : system.manager.sessions.lookup id = some session) :
    RecordOrigin env system action id session := by
  have same : session.Step env .rpc session := .same
  exact .stepped stored same

theorem record_origin (fresh : env.NeverRepeats) (reachable : (machine env).Reachable system)
    (found : (system.step env action).1.manager.sessions.lookup id = some session) :
    RecordOrigin env system action id session := by
  have sound := sound_of_reachable fresh reachable
  cases owner_of_reachable fresh reachable action with
  | call owner held resolved stored isolated =>
    by_cases here : id = owner
    · subst here
      rw [isolated.record] at found
      by_cases kind : ∃ now request, action = .joinSession now request
      · obtain ⟨now, request, rfl⟩ := kind
        have checked := held.checkAndEnforceTimeout_step env now
        cases found
        cases outcome : ((held.checkAndEnforceTimeout env now).join
            (env.randomHex system.manager.draws kParticipantTokenBytes) request.clientNonce).2 with
        | error failure =>
          rw [Session.join_refused outcome]
          exact .stepped stored checked
        | ok response =>
          obtain ⟨token, -, same, -⟩ | ⟨unanswered, waiting, same, -⟩ := Session.join_cases outcome
          · rw [same]
            exact .stepped stored checked
          · rw [same]
            have unchanged := held.checkAndEnforceTimeout_of_not_aborted env now (by simp [waiting])
            rw [unchanged] at unanswered waiting ⊢
            refine .joined rfl (isolated.reply.trans (congrArg _ outcome)) stored waiting unanswered ?_
            intro member
            exact (sound.tokensDrawn id held stored _ member).ne_next fresh le_rfl _ rfl
      · exact .stepped stored (Session.call_step (fun now request same => kind ⟨now, request, same⟩) found)
    · rw [isolated.records id here] at found
      exact .unchanged found
  | worker index thread own here isolated =>
    by_cases same : id = thread.session
    · subst same
      rw [isolated.record] at found
      obtain ⟨held, actor, stored, step⟩ := Phase.work_step found
      exact .stepped stored step
    · rw [isolated.records id same] at found
      exact .unchanged found
  | create now request same manager =>
    rw [manager] at found
    obtain ⟨held, stored, swept⟩ | ⟨policyDef, -, named, rfl⟩ :=
      SessionManager.createSession_origin found
    · obtain rfl := Session.swept_some swept
      exact .stepped stored (held.checkAndEnforceTimeout_step env now)
    · exact .created same named
  | nobody same =>
    rw [same] at found
    exact .unchanged found

end Origin

structure JoinedAt (env : Environment) (system : System) (now : Int) (request : JoinSessionRequest)
    (response : JoinSessionResponse) (id : String) (session : Session) : Prop where
  running : system.alive = true
  indexed : system.manager.invitationToSession.lookup request.invitationToken = some id
  stored : system.manager.sessions.lookup id = some session
  invited : session.invitationToken = request.invitationToken
  joined : ((session.checkAndEnforceTimeout env now).join
    (env.randomHex system.manager.draws kParticipantTokenBytes) request.clientNonce).2 = .ok response
  isolated : Isolated env system (.joinSession now request) id
    (session.call env (env.randomHex system.manager.draws) (.joinSession now request))

theorem joinedAt_of_answered {env : Environment} (fresh : env.NeverRepeats) {system : System}
    (reachable : (machine env).Reachable system) {now : Int} {request : JoinSessionRequest}
    {response : JoinSessionResponse}
    (answered : (system.step env (.joinSession now request)).2 = .joinSession (.ok response)) :
    ∃ id session, JoinedAt env system now request response id session := by
  have sound := sound_of_reachable fresh reachable
  obtain ⟨running, id, session, indexed, stored, joined⟩ := System.joinSession_succeeded answered
  obtain ⟨held, kept, isolated⟩ :=
    (isolated_of_running fresh reachable running).calls (.joinSession now request) id indexed
  cases stored.symm.trans kept
  obtain ⟨owner, found, invited⟩ := (sound.invitations _ id).mp indexed
  cases stored.symm.trans found
  exact ⟨id, session, running, indexed, stored, invited, joined, isolated⟩

-- Everything that ever happens to a stored record.
inductive Session.Change (env : Environment) (before : Session) : Session → Prop
  | stepped {actor : Actor} {after : Session} (step : before.Step env actor after) :
      Change env before after
  | joined (token clientNonce : String) (waiting : before.state = .OPEN)
      (unanswered : SessionManager.replayJoin before clientNonce = .ok none)
      (newcomer : token ∉ before.participants) :
      Change env before (before.addParticipant token clientNonce)

theorem changes_after {env : Environment} (fresh : env.NeverRepeats) {system : System}
    (reachable : (machine env).Reachable system) {id : String}
    (drawn : env.Drawn system.manager.draws id) (actions : List Action) {later : Session}
    (found : ((machine env).after system actions).manager.sessions.lookup id = some later) :
    ∃ session, system.manager.sessions.lookup id = some session ∧
      Relation.ReflTransGen (Session.Change env) session later := by
  induction actions generalizing system with
  | nil => exact ⟨later, found, .refl⟩
  | cons action rest ih =>
    have grown := (system.step_manager env action).draws_le
    obtain ⟨middle, between, changes⟩ := ih (reachable.step action) (drawn.mono grown) found
    cases record_origin fresh reachable between with
    | stepped stored step => exact ⟨_, stored, .head (.stepped step) changes⟩
    | joined same answered stored waiting unanswered newcomer =>
      exact ⟨_, stored, .head (.joined _ _ waiting unanswered newcomer) changes⟩
    | created same named => exact absurd named (drawn.ne_next fresh le_rfl _)

namespace Session

-- What is settled when a session is created.
structure Continues (before after : Session) : Prop where
  id : after.id = before.id
  invitationToken : after.invitationToken = before.invitationToken
  creatorNonce : after.creatorNonce = before.creatorNonce
  policy : after.policy = before.policy
  policyDef : after.policyDef = before.policyDef
  participantTokens : before.participantTokens <+: after.participantTokens

variable {env : Environment} {before after : Session}

theorem Change.continues (change : before.Change env after) : before.Continues after := by
  cases change with
  | stepped step =>
    have same := step.identity
    exact ⟨same.id, same.invitationToken, same.creatorNonce, same.policy, same.policyDef,
      same.participantTokens ▸ List.prefix_refl _⟩
  | joined token clientNonce waiting unanswered newcomer =>
    exact ⟨rfl, rfl, rfl, rfl, rfl, List.prefix_append _ _⟩

theorem changes_continue (changes : Relation.ReflTransGen (Change env) before after) :
    before.Continues after := by
  induction changes with
  | refl => exact ⟨rfl, rfl, rfl, rfl, rfl, List.prefix_refl _⟩
  | tail earlier change ih =>
    have next := change.continues
    exact ⟨next.id.trans ih.id, next.invitationToken.trans ih.invitationToken,
      next.creatorNonce.trans ih.creatorNonce, next.policy.trans ih.policy,
      next.policyDef.trans ih.policyDef, ih.participantTokens.trans next.participantTokens⟩

end Session

end Ztab
