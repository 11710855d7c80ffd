import Ztab.Session.OutputGate
import Ztab.Session.Records

set_option autoImplicit false

/-!
# Policy enforcement

The policy a session was created with is the one its members are shown, and the
definition it names is the one its inputs, its prompt and its answer are held to.
-/

namespace Ztab

namespace Session

-- The policy of a session is backed by the registered definition of its class.
structure Registered (env : Environment) (session : Session) : Prop where
  definition : env.registry.lookup session.policy.policyClass = some session.policyDef
  inputSchema : session.policy.inputSchemaJson = session.policyDef.defaultInputSchemaJson
  outputSchema : session.policy.outputSchemaJson = session.policyDef.defaultOutputSchemaJson

theorem SameIdentity.registered {env : Environment} {before after : Session}
    (same : before.SameIdentity after) (registered : before.Registered env) :
    after.Registered env := by
  constructor
  all_goals rw [same.policy, same.policyDef]
  · exact registered.definition
  · exact registered.inputSchema
  · exact registered.outputSchema

theorem inputSchema_registered {env : Environment} {session : Session}
    (registered : session.Registered env) :
    session.inputSchema = session.policyDef.defaultInputSchemaJson := by
  unfold inputSchema
  split_ifs
  · rfl
  · exact registered.inputSchema

end Session

theorem ManagerStep.registered {env : Environment} {actor : Actor} {before after : SessionManager}
    (step : ManagerStep env before actor after)
    (registered : ∀ id session, before.sessions.lookup id = some session → session.Registered env)
    (id : String) (session : Session) (found : after.sessions.lookup id = some session) :
    session.Registered env := by
  cases step.origin found with
  | @stepped _ held _ stored step => exact step.identity.registered (registered id held stored)
  | @joined held token clientNonce stored waiting =>
    have kept := registered id held stored
    exact ⟨kept.definition, kept.inputSchema, kept.outputSchema⟩
  | created now creator invitation recent named admitted => exact ⟨admitted.registered, rfl, rfl⟩

theorem registered_of_reachable {env : Environment} {system : System}
    (reachable : (machine env).Reachable system) (id : String) (session : Session)
    (stored : system.manager.sessions.lookup id = some session) : session.Registered env :=
  (machine env).reachable_invariant
    (fun system => ∀ id session, system.manager.sessions.lookup id = some session →
      session.Registered env)
    (fun id session stored => by simp [machine] at stored)
    (fun system action registered => (system.step_manager env action).registered registered)
    system reachable id session stored

theorem Session.join_policy {token clientNonce : String} {session : Session}
    {response : JoinSessionResponse}
    (joined : (session.join token clientNonce).2 = .ok response) :
    response.policy = session.policy := by
  unfold join at joined
  split at joined
  next => cases joined
  next =>
    cases joined
    rfl
  next =>
    split_ifs at joined
    · cases joined
      rfl
    · cases joined

/-- A payload and its canonical text pass every check of a first submission under this schema. -/
structure Conforms (env : Environment) (schema inputJson canonical : String) : Prop where
  size : inputJson.utf8ByteSize ≤ kMaxInputBytes
  parsed : ∃ value, parseJsonSafely env.json (utf8 inputJson) = .ok value ∧
    canonical = env.json.dump value
  valid : schema ≠ "" →
    validateJsonSchema env.json env.partialMatch (utf8 canonical) schema = .ok ()

namespace Session

variable {env : Environment} {session : Session}

theorem validateInput_ok_iff (canonical : String) :
    session.validateInput env canonical = .ok () ↔
      (session.inputSchema ≠ "" → validateJsonSchema env.json env.partialMatch (utf8 canonical)
        session.inputSchema = .ok ()) := by
  unfold validateInput
  split_ifs with absent
  · simp [absent]
  · rw [Outcome.within_ok_iff]
    simp [absent]

theorem admitInput_ok_iff (inputJson canonical : String) :
    session.admitInput env inputJson = .ok canonical ↔
      Conforms env session.inputSchema inputJson canonical := by
  unfold admitInput
  constructor
  · intro admitted
    split_ifs at admitted with large
    · cases admitted
    · split at admitted
      next => cases admitted
      next value parsed =>
        split at admitted
        next => cases admitted
        next checked =>
          cases admitted
          exact ⟨not_lt.mp large, ⟨value, parsed, rfl⟩, (validateInput_ok_iff _).mp checked⟩
  · rintro ⟨small, ⟨value, parsed, rfl⟩, valid⟩
    rw [if_neg (not_lt.mpr small)]
    simp [parsed, (validateInput_ok_iff _).mpr valid]

theorem checkAndEnforceTimeout_sealed {now : Int} :
    (session.checkAndEnforceTimeout env now).state = .SEALED ↔
      session.state = .SEALED ∧ ¬ session.TimedOut env now := by
  unfold checkAndEnforceTimeout
  split
  next due => simp [abortOnTimeout, due]
  next due => simp [due]

-- A first submission is stored exactly when it conforms and comes in time.
theorem submitInput_first (now : Int) (token inputJson : String) {participant : Participant}
    (listed : session.participants.lookup token = some participant)
    (first : participant.inputSubmitted = false) :
    ∃ later, ((session.checkAndEnforceTimeout env now).submitInput env now token inputJson
        participant).1.participants.lookup token = some later ∧
      (later.inputSubmitted = true ↔ session.state = .SEALED ∧ ¬ session.TimedOut env now ∧
        ∃ canonical, Conforms env session.inputSchema inputJson canonical) ∧
      (later.inputSubmitted = true → Conforms env session.inputSchema inputJson later.inputJson) := by
  rw [← and_assoc, ← checkAndEnforceTimeout_sealed]
  by_cases waiting : (session.checkAndEnforceTimeout env now).state = .SEALED
  · have same := session.checkAndEnforceTimeout_of_not_aborted env now (by simp [waiting])
    rw [same] at waiting ⊢
    simp only [submitInput, waiting, first, ne_eq, not_true, Bool.false_eq_true, if_false]
    cases admitted : session.admitInput env inputJson with
    | error failure =>
      have refused (canonical : String) : ¬ Conforms env session.inputSchema inputJson canonical := by
        rw [← admitInput_ok_iff, admitted]
        simp
      exact ⟨participant, listed, by simp [first, refused], by simp [first]⟩
    | ok canonical =>
      have conforms := (admitInput_ok_iff inputJson canonical).mp admitted
      refine ⟨{ participant with inputJson := canonical, inputSubmitted := true }, ?_,
        by simpa using ⟨canonical, conforms⟩, fun _ => conforms⟩
      simp only
      split_ifs <;> exact AList.lookup_insert _
  · refine ⟨participant, ?_, by simp [first, waiting], by simp [first]⟩
    simp [submitInput, waiting, first, listed]

end Session

structure PolicyEnforced (env : Environment) (system : System) : Prop where
  registered : ∀ id session, system.manager.sessions.lookup id = some session →
    session.Registered env
  fixed : ∀ id session, system.manager.sessions.lookup id = some session →
    ∀ actions later,
      ((machine env).after system actions).manager.sessions.lookup id = some later →
        later.policy = session.policy ∧ later.policyDef = session.policyDef
  -- First or replayed, the answer to a join shows the policy.
  announced : ∀ now request response,
    (system.step env (.joinSession now request)).2 = .joinSession (.ok response) →
      ∃ id session, system.manager.invitationToSession.lookup request.invitationToken = some id ∧
        system.manager.sessions.lookup id = some session ∧ response.policy = session.policy
  submitted : system.alive = true → ∀ now request id session participant,
    system.manager.authenticate request.participantToken = .ok (id, session, participant) →
    participant.inputSubmitted = false →
      ∃ held later,
        (system.step env (.submitInput now request)).1.manager.sessions.lookup id = some held ∧
        held.participants.lookup request.participantToken = some later ∧
        (later.inputSubmitted = true ↔ session.state = .SEALED ∧ ¬ session.TimedOut env now ∧
          ∃ canonical, Conforms env session.policy.inputSchemaJson request.inputJson canonical) ∧
        (later.inputSubmitted = true →
          Conforms env session.policy.inputSchemaJson request.inputJson later.inputJson)
  prompted : ∀ thread ∈ system.threads, ∀ prompt outputSchema,
    thread.phase = .prompted prompt outputSchema →
      ∀ session, system.manager.sessions.lookup thread.session = some session →
        (∃ suffix, prompt = session.buildPrompt suffix) ∧
          outputSchema = session.policy.outputSchemaJson

namespace System

variable {env : Environment} {system : System}

theorem joinSession_announces {now : Int} {request : JoinSessionRequest}
    {response : JoinSessionResponse}
    (answered : (system.step env (.joinSession now request)).2 = .joinSession (.ok response)) :
    ∃ id session, system.manager.invitationToSession.lookup request.invitationToken = some id ∧
      system.manager.sessions.lookup id = some session ∧ response.policy = session.policy := by
  obtain ⟨-, id, session, indexed, stored, joined⟩ := joinSession_succeeded answered
  refine ⟨id, session, indexed, stored, ?_⟩
  rw [Session.join_policy joined, Session.checkAndEnforceTimeout_policy]

theorem submitInput_first (fresh : env.NeverRepeats) (reachable : (machine env).Reachable system)
    (running : system.alive = true) (now : Int) {request : SubmitInputRequest} {id : String}
    {session : Session} {participant : Participant}
    (known : system.manager.authenticate request.participantToken = .ok (id, session, participant))
    (first : participant.inputSubmitted = false) :
    ∃ held later,
      (system.step env (.submitInput now request)).1.manager.sessions.lookup id = some held ∧
      held.participants.lookup request.participantToken = some later ∧
      (later.inputSubmitted = true ↔ session.state = .SEALED ∧ ¬ session.TimedOut env now ∧
        ∃ canonical, Conforms env session.inputSchema request.inputJson canonical) ∧
      (later.inputSubmitted = true →
        Conforms env session.inputSchema request.inputJson later.inputJson) := by
  obtain ⟨indexed, stored, listed⟩ := SessionManager.authenticate_ok known
  obtain ⟨held, kept, isolated⟩ :=
    (isolated_of_running fresh reachable running).calls (.submitInput now request) id indexed
  cases stored.symm.trans kept
  obtain ⟨later, found, accepted⟩ :=
    session.submitInput_first now request.participantToken request.inputJson listed first
  refine ⟨_, later, isolated.record.trans (Session.submitted_record _), ?_, accepted⟩
  rw [Session.withParticipant, listed]
  exact found

end System

/-- The policy everyone accepted is the policy that is enforced. -/
theorem policy_enforced_of_reachable (env : Environment) (fresh : env.NeverRepeats) (system : System)
    (reachable : (machine env).Reachable system) : PolicyEnforced env system := by
  have sound := sound_of_reachable fresh reachable
  have registered := registered_of_reachable reachable
  constructor
  · exact registered
  · intro id session stored actions later found
    obtain ⟨held, kept, changes⟩ :=
      changes_after fresh reachable (sound.idsDrawn id session stored) actions found
    cases stored.symm.trans kept
    have continues := Session.changes_continue changes
    exact ⟨continues.policy, continues.policyDef⟩
  · intro now request response answered
    exact System.joinSession_announces answered
  · intro running now request id session participant known first
    obtain ⟨-, stored, -⟩ := SessionManager.authenticate_ok known
    have schema : session.policy.inputSchemaJson = session.inputSchema :=
      (registered id session stored).inputSchema.trans
        (Session.inputSchema_registered (registered id session stored)).symm
    rw [schema]
    exact System.submitInput_first fresh reachable running now known first
  · intro thread listed prompt outputSchema phase session stored
    have fits := (workers_of_reachable fresh reachable).fits thread listed session stored
    rw [phase] at fits
    obtain ⟨-, prompted, schema⟩ := fits
    refine ⟨prompted, ?_⟩
    rw [schema, (registered _ session stored).outputSchema]
    exact Session.outputSchema_builtIn (registered _ session stored).outputSchema

-- The schemas in the creating request are ignored.
theorem calendar_policy_enforced :
    ∃ system, system = (machine calendarEnv).after (machine calendarEnv).initial
        [.createSession 0 { policy :=
          { policyClass := "calendar", expectedParticipants := 2, outputSchemaJson := "\x7b\x7d" } }] ∧
      (system.manager.sessions.lookup "a").map (fun session => session.policy.outputSchemaJson) =
        some "\x7b\"type\": \"object\"\x7d" ∧
      PolicyEnforced calendarEnv system :=
  ⟨_, rfl, by decide +kernel, policy_enforced_of_reachable calendarEnv (countingEnv_neverRepeats _) _
    ⟨_, rfl⟩⟩

end Ztab
