import Ztab.Session.Isolation
import Ztab.Session.Outcome
import Ztab.Session.StatusReports

set_option autoImplicit false

/-!
# Completion

No session that still waits for its participants is at a dead end. Whatever has been called so far,
by whomever, the calls that are missing take it to its result, and no other session notices.
-/

namespace Ztab

namespace Session

/-- The calls that are missing, weighed so that every one of them lowers the sum. -/
def owed (session : Session) : Nat :=
  4 * (session.policy.expectedParticipants.toNat - session.size) +
    2 * (session.size - session.acceptedCount) + (session.size - session.submittedCount)

structure Underway (env : Environment) (now : Int) (inputJson : String) (session : Session) : Prop where
  waiting : session.state = .OPEN ∨ session.state = .SEALED
  timely : ¬ session.TimedOut env now
  patient : 0 ≤ session.timeout
  admits : ∃ canonical, session.admitInput env inputJson = .ok canonical

variable {env : Environment} {now : Int} {inputJson : String} {session after : Session}

theorem Underway.checked (underway : session.Underway env now inputJson) :
    session.checkAndEnforceTimeout env now = session := by
  simp [checkAndEnforceTimeout, underway.timely]

theorem admitInput_congr (env : Environment) (policy : after.policy = session.policy)
    (policyDef : after.policyDef = session.policyDef) (inputJson : String) :
    after.admitInput env inputJson = session.admitInput env inputJson := by
  have schema : after.inputSchema = session.inputSchema := by
    rw [inputSchema, inputSchema, policy, policyDef]
  have validates : after.validateInput env = session.validateInput env := by
    funext canonical
    rw [validateInput, validateInput, schema]
  rw [admitInput, admitInput, validates]

theorem Underway.kept (underway : session.Underway env now inputJson)
    (state : after.state = session.state) (entered : after.stateEnteredAt = session.stateEnteredAt)
    (timeout : after.timeout = session.timeout) (policy : after.policy = session.policy)
    (policyDef : after.policyDef = session.policyDef) : after.Underway env now inputJson := by
  refine ⟨by rw [state]; exact underway.waiting, ?_, by rw [timeout]; exact underway.patient, ?_⟩
  · simpa only [TimedOut, effectiveTimeout, state, entered, timeout] using underway.timely
  · obtain ⟨canonical, admitted⟩ := underway.admits
    exact ⟨canonical, (admitInput_congr env policy policyDef inputJson).trans admitted⟩

theorem Underway.sealed (underway : session.Underway env now inputJson) :
    (session.sealed now).Underway env now inputJson := by
  refine ⟨.inr rfl, ?_, underway.patient, ?_⟩
  · have patient := underway.patient
    simp [TimedOut, Session.sealed, effectiveTimeout, seconds, kMaxSealedSeconds]
    omega
  · obtain ⟨canonical, admitted⟩ := underway.admits
    exact ⟨canonical, (admitInput_congr env rfl rfl inputJson).trans admitted⟩

theorem owed_lt (ready : session.Ready) (later : after.Ready)
    (changes : Relation.ReflTransGen (Change env) session after)
    (more : session.size < after.size ∨ session.acceptedCount < after.acceptedCount ∨
      session.submittedCount < after.submittedCount)
    (one : after.size ≤ session.size + 1) : after.owed < session.owed := by
  have counts := (changes_advance changes).counts
  have policy := (changes_continue changes).policy
  have bounds := ready.sizeBounds
  have laterBounds := later.sizeBounds
  have accepted := session.acceptedCount_le
  have submitted := session.submittedCount_le
  have laterAccepted := after.acceptedCount_le
  have laterSubmitted := after.submittedCount_le
  rw [policy] at laterBounds
  unfold owed
  rw [policy]
  omega

section Calls

variable (fresh : Nat → String) {token : String} {participant : Participant}

theorem call_join (underway : session.Underway env now inputJson) (waiting : session.state = .OPEN)
    (room : (session.size : Int) < session.policy.expectedParticipants) :
    session.call env fresh (.joinSession now { invitationToken := session.invitationToken }) =
      ⟨some (session.addParticipant (fresh kParticipantTokenBytes) ""), none,
        .joinSession (.ok ⟨.OPEN, session.policy, fresh kParticipantTokenBytes⟩)⟩ := by
  simp [call, underway.checked, join, SessionManager.replayJoin, waiting, room]

theorem call_accept (underway : session.Underway env now inputJson) (waiting : session.state = .OPEN)
    (listed : session.participants.lookup token = some participant)
    (unaccepted : participant.accepted = false) :
    ∃ later reply, session.call env fresh (.acceptPolicy now ⟨token⟩) = ⟨some later, none, reply⟩ ∧
      (later = session.markAccepted token participant ∨
        later = (session.markAccepted token participant).sealed now) := by
  simp only [call, withParticipant, listed, underway.checked]
  refine ⟨_, _, rfl, ?_⟩
  simp only [acceptPolicy, unaccepted, waiting]
  simp only [Bool.false_eq_true, if_false, ne_eq, not_true_eq_false]
  split
  · exact .inr rfl
  · exact .inl rfl

theorem call_submit (underway : session.Underway env now inputJson)
    (waiting : session.state = .SEALED)
    (listed : session.participants.lookup token = some participant)
    (unsubmitted : participant.inputSubmitted = false) :
    ∃ canonical, (∃ reply, session.call env fresh (.submitInput now ⟨token, inputJson⟩) =
        ⟨some (session.storeInput token participant canonical), none, reply⟩) ∨
      session.call env fresh (.submitInput now ⟨token, inputJson⟩) =
        ⟨some ((session.storeInput token participant canonical).calculating now), some .spawning,
          .silent⟩ := by
  obtain ⟨canonical, admitted⟩ := underway.admits
  refine ⟨canonical, ?_⟩
  simp only [call, withParticipant, listed, underway.checked]
  simp only [submitInput, waiting, unsubmitted, admitted]
  simp only [ne_eq, not_true_eq_false, if_false, Bool.false_eq_true]
  split
  · exact .inr rfl
  · exact .inl ⟨_, rfl⟩

end Calls

theorem acceptedCount_markAccepted {token : String} {participant : Participant}
    (listed : session.participants.lookup token = some participant)
    (unaccepted : participant.accepted = false) :
    session.acceptedCount < (session.markAccepted token participant).acceptedCount := by
  have advances : session.Advances (session.markAccepted token participant) :=
    advances_reseat listed (fun _ => rfl) (fun yes => yes)
  refine FlatHashMap.countP_values_lt ?_ listed unaccepted
    (session.lookup_reseat_self token { participant with accepted := true }) rfl
  intro other held found accepted
  obtain ⟨later, kept, still, -⟩ := advances other held found
  exact ⟨later, kept, still accepted⟩

theorem submittedCount_storeInput {token canonical : String} {participant : Participant}
    (listed : session.participants.lookup token = some participant)
    (unsubmitted : participant.inputSubmitted = false) :
    session.submittedCount < (session.storeInput token participant canonical).submittedCount := by
  have advances : session.Advances (session.storeInput token participant canonical) :=
    advances_reseat listed (fun yes => yes) (fun _ => rfl)
  refine FlatHashMap.countP_values_lt ?_ listed unsubmitted (session.lookup_reseat_self token
    { participant with inputJson := canonical, inputSubmitted := true }) rfl
  intro other held found submitted
  obtain ⟨later, kept, -, still⟩ := advances other held found
  exact ⟨later, kept, still submitted⟩

end Session

theorem System.alive_of_resolves {env : Environment} {system : System} {action : Action} {id : String}
    (running : system.alive = true) (resolved : action.resolves system.manager = some id) :
    (system.step env action).1.alive = true := by
  unfold step
  rw [if_pos running]
  cases action with
  | joinSession now request =>
    simp only [perform, joinSession]
    split
    · unfold issue
      split <;> exact running
    · exact running
  | submitInput now request =>
    simp only [perform, submitInput]
    split <;> exact running
  | acceptPolicy now request => exact running
  | getResult now request => exact running
  | getSessionStatus now request => exact running
  | _ => cases resolved

section Progress

variable {env : Environment} {now : Int} {inputJson : String} {system : System} {id : String}
  {session : Session}

structure Advanced (env : Environment) (now : Int) (inputJson : String) (system : System) (id : String)
    (session later : Session) (next : System) : Prop where
  running : next.alive = true
  stored : next.manager.sessions.lookup id = some later
  others : ∀ other, other ≠ id →
    next.manager.sessions.lookup other = system.manager.sessions.lookup other
  closer : (later.Underway env now inputJson ∧ later.owed < session.owed) ∨
    (later.state = .CALCULATING ∧ ⟨id, .spawning⟩ ∈ next.threads)

theorem advanced_of_call (fresh : env.NeverRepeats) (reachable : (machine env).Reachable system)
    (running : system.alive = true) (stored : system.manager.sessions.lookup id = some session)
    (action : Action) (resolved : action.resolves system.manager = some id) {later : Session}
    (record : (session.call env (env.randomHex system.manager.draws) action).record = some later)
    (closer : (later.Underway env now inputJson ∧ (session.size < later.size ∨
        session.acceptedCount < later.acceptedCount ∨ session.submittedCount < later.submittedCount) ∧
        later.size ≤ session.size + 1) ∨
      (later.state = .CALCULATING ∧
        (session.call env (env.randomHex system.manager.draws) action).phase = some .spawning)) :
    Advanced env now inputJson system id session later (system.step env action).1 := by
  obtain ⟨held, kept, isolated⟩ := (isolated_of_running fresh reachable running).calls action id resolved
  cases stored.symm.trans kept
  have found := isolated.record.trans record
  have sound := sound_of_reachable fresh reachable
  have readyAfter := (sound_of_reachable fresh (reachable.step action)).ready id later found
  refine ⟨System.alive_of_resolves running resolved, found, isolated.records, ?_⟩
  obtain ⟨underway, more, one⟩ | ⟨calculating, spawning⟩ := closer
  · obtain ⟨earlier, there, changes⟩ :=
      changes_after fresh reachable (sound.idsDrawn id session stored) [action] found
    cases stored.symm.trans there
    exact .inl ⟨underway, Session.owed_lt (sound.ready id session stored) readyAfter changes more one⟩
  · refine .inr ⟨calculating, ?_⟩
    rw [isolated.threads, System.filed, Action.thread_of_resolves resolved, spawning]
    simp

theorem next_call (fresh : env.NeverRepeats) (reachable : (machine env).Reachable system)
    (running : system.alive = true) (stored : system.manager.sessions.lookup id = some session)
    (underway : session.Underway env now inputJson) :
    ∃ action later, Advanced env now inputJson system id session later (system.step env action).1 := by
  have sound := sound_of_reachable fresh reachable
  have ready := sound.ready id session stored
  have participant (token : String) (record : Participant)
      (listed : session.participants.lookup token = some record) :
      system.manager.participantToSession.lookup token = some id :=
    (sound.participants token id).mpr
      ⟨session, stored, (FlatHashMap.mem_iff_lookup _ _).mpr ⟨record, listed⟩⟩
  obtain waiting | waiting := underway.waiting
  · by_cases room : (session.size : Int) < session.policy.expectedParticipants
    · -- Somebody joins.
      have resolved := (sound.invitations session.invitationToken id).mpr ⟨session, stored, rfl⟩
      have called := session.call_join (env.randomHex system.manager.draws) underway waiting room
      have newcomer : env.randomHex system.manager.draws kParticipantTokenBytes ∉
          session.participants := fun member =>
        (sound.tokensDrawn id session stored _ member).ne_next fresh le_rfl _ rfl
      have size : (session.addParticipant
          (env.randomHex system.manager.draws kParticipantTokenBytes) "").size = session.size + 1 :=
        FlatHashMap.size_insert_of_not_mem _ _ _ newcomer
      refine ⟨_, _, advanced_of_call fresh reachable running stored
        (.joinSession now { invitationToken := session.invitationToken }) resolved
        (congrArg Turn.record called) ?_⟩
      exact .inl ⟨underway.kept rfl rfl rfl rfl rfl, .inl (by omega), by omega⟩
    · -- All have joined: somebody has yet to accept.
      have full : (session.size : Int) = session.policy.expectedParticipants :=
        le_antisymm ready.sizeBounds.2 (not_lt.mp room)
      obtain ⟨token, record, listed, unaccepted⟩ : ∃ token record,
          session.participants.lookup token = some record ∧ record.accepted = false := by
        by_contra none
        push Not at none
        exact ready.openWaits waiting ⟨full, fun token record listed => by
          simpa using none token record listed⟩
      have more := session.acceptedCount_markAccepted listed unaccepted
      have size : (session.markAccepted token record).size = session.size :=
        session.size_reseat listed
      obtain ⟨later, reply, called, marked | sealed⟩ :=
        session.call_accept (env.randomHex system.manager.draws) underway waiting listed unaccepted
      · refine ⟨_, later, advanced_of_call fresh reachable running stored (.acceptPolicy now ⟨token⟩)
          (participant token record listed) (congrArg Turn.record called) ?_⟩
        subst marked
        exact .inl ⟨underway.kept rfl rfl rfl rfl rfl, .inr (.inl more), by omega⟩
      · refine ⟨_, later, advanced_of_call fresh reachable running stored (.acceptPolicy now ⟨token⟩)
          (participant token record listed) (congrArg Turn.record called) ?_⟩
        subst sealed
        have marked : (session.markAccepted token record).Underway env now inputJson :=
          underway.kept rfl rfl rfl rfl rfl
        exact .inl ⟨marked.sealed, .inr (.inl more), size.le.trans (Nat.le_succ _)⟩
  · -- Somebody has yet to submit.
    obtain ⟨token, record, listed, unsubmitted⟩ := ready.sealedWaits waiting
    obtain ⟨canonical, ⟨reply, called⟩ | called⟩ :=
      session.call_submit (env.randomHex system.manager.draws) underway waiting listed unsubmitted
    · refine ⟨_, _, advanced_of_call fresh reachable running stored
        (.submitInput now ⟨token, inputJson⟩) (participant token record listed)
        (congrArg Turn.record called) ?_⟩
      have size : (session.storeInput token record canonical).size = session.size :=
        session.size_reseat listed
      exact .inl ⟨underway.kept rfl rfl rfl rfl rfl,
        .inr (.inr (session.submittedCount_storeInput listed unsubmitted)), by omega⟩
    · refine ⟨_, _, advanced_of_call fresh reachable running stored
        (.submitInput now ⟨token, inputJson⟩) (participant token record listed)
        (congrArg Turn.record called) ?_⟩
      exact .inr ⟨rfl, congrArg Turn.phase called⟩

end Progress

theorem System.alive_of_thread {env : Environment} {system : System} {action : Action} {index : Nat}
    (running : system.alive = true) (own : action.thread = some index)
    (returned : (system.step env action).2 ≠ .terminated) : (system.step env action).1.alive = true := by
  unfold step at returned ⊢
  rw [if_pos running] at returned ⊢
  cases here : system.threads[index]? with
  | none =>
    have idle : system.perform env action = (system, .silent) := by
      cases action <;> cases own <;> simp [perform, onThread, here]
    rw [idle]
    exact running
  | some thread =>
    rw [perform_thread own here] at returned ⊢
    cases action with
    | infer position results =>
      simp only [threadStep] at returned ⊢
      split
      next prompt outputSchema phase =>
        simp only [phase, infer] at returned ⊢
        split
        next finished => exact running
        next exception raised => simp [raised] at returned
      next => exact running
    | spawnSucceeds position | spawnFails position what | preparePrompt position
    | writeResult position now | leave position =>
      simp only [threadStep]
      split
      · first
          | exact running
          | simp only [preparePrompt]; split <;> exact running
      · exact running
    | _ => cases own

structure Staffed (env : Environment) (system : System) (id : String) (session : Session)
    (index : Nat) (phase : Phase) : Prop where
  reachable : (machine env).Reachable system
  running : system.alive = true
  stored : system.manager.sessions.lookup id = some session
  here : system.threads[index]? = some ⟨id, phase⟩

section Worker

variable {env : Environment} {system : System} {id : String} {session later : Session} {index : Nat}
  {phase next : Phase}

theorem Staffed.step (staffed : Staffed env system id session index phase) (fresh : env.NeverRepeats)
    (action : Action) (own : action.thread = some index) {reply : Reply}
    (work : phase.work env (env.randomHex system.manager.draws) (some session) action =
      ⟨some later, some next, reply⟩) (quiet : reply ≠ .terminated) :
    Staffed env (system.step env action).1 id later index next ∧ ∀ other, other ≠ id →
      (system.step env action).1.manager.sessions.lookup other =
        system.manager.sessions.lookup other := by
  have isolated := (isolated_of_running fresh staffed.reachable staffed.running).workers action index
    ⟨id, phase⟩ own staffed.here
  simp only [staffed.stored, work] at isolated
  obtain ⟨inside, -⟩ := List.getElem?_eq_some_iff.mp staffed.here
  refine ⟨⟨staffed.reachable.step action, ?_, isolated.record, ?_⟩, isolated.records⟩
  · exact System.alive_of_thread staffed.running own (by rw [isolated.reply]; exact quiet)
  · rw [isolated.threads, System.filed, own]
    simp [inside]

/-- The engine's text passes the retry loop: it says something, and fits the schema if there is one. -/
structure Environment.Accepts (env : Environment) (outputSchema : String) (text : Bytes) : Prop where
  engine : env.hasEngine = true
  nonempty : stripMarkdownCodeFences text ≠ []
  conforms : outputSchema = "" ∨
    validateJsonSchema env.json env.partialMatch (stripMarkdownCodeFences text) outputSchema = .ok ()

theorem Environment.Accepts.attempts {outputSchema : String} {text : Bytes}
    (accepts : env.Accepts outputSchema text) :
    (llmAttempts env outputSchema fun _ => .ok text).result = .ok (stripMarkdownCodeFences text) := by
  simp only [llmAttempts, accepts.engine, if_true, kMaxLlmRetries, generateLoop]
  by_cases free : outputSchema = ""
  · simp [free]
  · simp [free, accepts.conforms.resolve_left free]

theorem Staffed.closes (staffed : Staffed env system id session index .spawning)
    (fresh : env.NeverRepeats) (waiting : session.state = .CALCULATING) (now : Int) {text : Bytes}
    (accepts : env.Accepts session.outputSchema text) :
    ∃ actions, Staffed env ((machine env).after system actions) id
        (session.writeOutcome now (.ok (stripMarkdownCodeFences text))) index .leaving ∧
      ∀ other, other ≠ id → ((machine env).after system actions).manager.sessions.lookup other =
        system.manager.sessions.lookup other := by
  obtain ⟨started, first⟩ := staffed.step fresh (.spawnSucceeds index) rfl rfl (by simp)
  have prepared : (Phase.started).work env
      (env.randomHex (system.step env (.spawnSucceeds index)).1.manager.draws) (some session)
      (.preparePrompt index) = ⟨some session, some (.prompted (session.buildPrompt
        (env.randomHex (system.step env (.spawnSucceeds index)).1.manager.draws 8))
        session.outputSchema), .silent⟩ := by
    simp [Phase.work, Session.prepared, waiting]
  obtain ⟨prompted, second⟩ := started.step fresh (.preparePrompt index) rfl prepared (by simp)
  have inferred (prompt : String) (draw : Nat → String) : (Phase.prompted prompt
      session.outputSchema).work env draw (some session) (.infer index fun _ => .ok text) =
        ⟨some session, some (.inferred (.ok (stripMarkdownCodeFences text))), .silent⟩ := by
    simp [Phase.work, accepts.attempts, processStatus, accepts.engine, accepts.nonempty]
  obtain ⟨answered, third⟩ := prompted.step fresh (.infer index fun _ => .ok text) rfl
    (inferred _ _) (by simp)
  have written (draw : Nat → String) : (Phase.inferred (.ok (stripMarkdownCodeFences text))).work env
      draw (some session) (.writeResult index now) = ⟨some (session.writeOutcome now
        (.ok (stripMarkdownCodeFences text))), some .leaving, .silent⟩ := by
    simp [Phase.work, Session.written, waiting]
  obtain ⟨closed, fourth⟩ := answered.step fresh (.writeResult index now) rfl (written _) (by simp)
  refine ⟨[.spawnSucceeds index, .preparePrompt index, .infer index fun _ => .ok text,
    .writeResult index now], closed, ?_⟩
  intro other apart
  exact (fourth other apart).trans ((third other apart).trans
    ((second other apart).trans (first other apart)))

end Worker

theorem Session.Step.timeout_eq {env : Environment} {actor : Actor} {before after : Session}
    (step : before.Step env actor after) : after.timeout = before.timeout := by
  cases step with
  | write now outcome waiting => cases outcome <;> rfl
  | _ => rfl

theorem timeout_nonneg_of_reachable {env : Environment} (fresh : env.NeverRepeats) {system : System}
    (reachable : (machine env).Reachable system) {id : String} {session : Session}
    (stored : system.manager.sessions.lookup id = some session) : 0 ≤ session.timeout := by
  obtain ⟨actions, rfl⟩ := reachable
  induction actions using List.reverseRecOn generalizing id session with
  | nil => cases stored
  | append_singleton earlier action ih =>
    have reachable : (machine env).Reachable ((machine env).after (machine env).initial earlier) :=
      ⟨earlier, rfl⟩
    rw [Machine.after_append] at stored
    cases record_origin fresh reachable stored with
    | stepped held step =>
      rw [step.timeout_eq]
      exact ih held
    | joined same answered held waiting unanswered newcomer =>
      have kept := ih held
      exact kept
    | @created now request policyDef same named =>
      have positive : 0 ≤ SessionManager.timeoutSecondsOf request.policy := by
        unfold SessionManager.timeoutSecondsOf kDefaultTimeoutSeconds
        split <;> omega
      exact Int.mul_nonneg positive (by decide)

structure OnItsWay (env : Environment) (now : Int) (inputJson : String) (origin : System) (id : String)
    (session : Session) (system : System) : Prop where
  reachable : (machine env).Reachable system
  running : system.alive = true
  others : ∀ other, other ≠ id →
    system.manager.sessions.lookup other = origin.manager.sessions.lookup other
  underway : ∃ later, system.manager.sessions.lookup id = some later ∧
    later.policy = session.policy ∧ later.policyDef = session.policyDef ∧
    later.Underway env now inputJson

structure Dispatched (env : Environment) (origin : System) (id : String) (session : Session)
    (system : System) : Prop where
  others : ∀ other, other ≠ id →
    system.manager.sessions.lookup other = origin.manager.sessions.lookup other
  staffed : ∃ later index, Staffed env system id later index .spawning ∧
    later.state = .CALCULATING ∧ later.policy = session.policy ∧ later.policyDef = session.policyDef

def System.owed (system : System) (id : String) : Nat :=
  ((system.manager.sessions.lookup id).map Session.owed).getD 0

theorem OnItsWay.progress {env : Environment} (fresh : env.NeverRepeats) {now : Int}
    {inputJson : String} {origin system : System} {id : String} {session : Session}
    (onItsWay : OnItsWay env now inputJson origin id session system) :
    ∃ action, Dispatched env origin id session (system.step env action).1 ∨
      OnItsWay env now inputJson origin id session (system.step env action).1 ∧
        (system.step env action).1.owed id < system.owed id := by
  obtain ⟨held, stored, policy, policyDef, underway⟩ := onItsWay.underway
  obtain ⟨action, later, advanced⟩ :=
    next_call fresh onItsWay.reachable onItsWay.running stored underway
  have sound := sound_of_reachable fresh onItsWay.reachable
  obtain ⟨earlier, there, changes⟩ :=
    changes_after fresh onItsWay.reachable (sound.idsDrawn id held stored) [action] advanced.stored
  cases stored.symm.trans there
  have continues := Session.changes_continue changes
  have others : ∀ other, other ≠ id → (system.step env action).1.manager.sessions.lookup other =
      origin.manager.sessions.lookup other := fun other apart =>
    (advanced.others other apart).trans (onItsWay.others other apart)
  refine ⟨action, ?_⟩
  obtain ⟨still, closer⟩ | ⟨calculating, spawning⟩ := advanced.closer
  · right
    refine ⟨⟨onItsWay.reachable.step action, advanced.running, others, later, advanced.stored,
      continues.policy.trans policy, continues.policyDef.trans policyDef, still⟩, ?_⟩
    simpa [System.owed, advanced.stored, stored] using closer
  · left
    obtain ⟨index, here⟩ := List.mem_iff_getElem?.mp spawning
    exact ⟨others, later, index,
      ⟨onItsWay.reachable.step action, advanced.running, advanced.stored, here⟩, calculating,
      continues.policy.trans policy, continues.policyDef.trans policyDef⟩

theorem OnItsWay.dispatched {env : Environment} (fresh : env.NeverRepeats) {now : Int}
    {inputJson : String} {origin system : System} {id : String} {session : Session}
    (onItsWay : OnItsWay env now inputJson origin id session system) :
    ∃ actions, Dispatched env origin id session ((machine env).after system actions) := by
  have goal := (machine env).reaches_of_progress
    (OnItsWay env now inputJson origin id session)
    (fun state => ∃ action, Dispatched env origin id session (state.step env action).1)
    (fun state => state.owed id) (fun state still => ?_) system onItsWay
  · obtain ⟨actions, action, dispatched⟩ := goal
    exact ⟨actions ++ [action], by rwa [Machine.after_append]⟩
  · obtain ⟨action, dispatched | ⟨next, closer⟩⟩ := still.progress fresh
    · exact .inl ⟨action, dispatched⟩
    · exact .inr ⟨[action], next, closer⟩

theorem Staffed.reports {env : Environment} {system : System} {id : String} {session : Session}
    {index : Nat} {phase : Phase} (staffed : Staffed env system id session index phase)
    (fresh : env.NeverRepeats) (closed : session.state = .CLOSED) (token : String)
    (member : token ∈ session.participants) (time : Int) :
    (system.step env (.getResult time ⟨token⟩)).2 =
      .getResult (.ok { state := .CLOSED, resultJson := session.resultJson }) := by
  have sound := sound_of_reachable fresh staffed.reachable
  obtain ⟨participant, listed⟩ := (FlatHashMap.mem_iff_lookup _ _).mp member
  have resolved := (sound.participants token id).mpr ⟨session, staffed.stored, member⟩
  obtain ⟨held, kept, isolated⟩ := (isolated_of_running fresh staffed.reachable staffed.running).calls
    (.getResult time ⟨token⟩) id resolved
  cases staffed.stored.symm.trans kept
  rw [isolated.reply]
  simp only [Session.call, Session.withParticipant, listed, Session.getResult,
    Session.checkAndEnforceTimeout_of_terminal env time (.inl closed), Session.report]
  simp only [closed]

/--
From every reachable state, a session that still waits for its participants, within its time, can be
completed: the missing calls and an acceptable answer of the engine close it with that answer,
everybody who takes part is given it, and every other session is left as it was.
-/
theorem waiting_session_can_complete (env : Environment) (fresh : env.NeverRepeats) (system : System)
    (reachable : (machine env).Reachable system) (running : system.alive = true) (id : String)
    (session : Session) (stored : system.manager.sessions.lookup id = some session)
    (waiting : session.state = .OPEN ∨ session.state = .SEALED) (now : Int)
    (timely : ¬ session.TimedOut env now) (inputJson canonical : String)
    (admitted : session.admitInput env inputJson = .ok canonical) (text : Bytes)
    (accepts : env.Accepts session.outputSchema text) :
    ∃ actions closed, let final := (machine env).after system actions
      final.manager.sessions.lookup id = some closed ∧ closed.state = .CLOSED ∧
      closed.resultJson = stripMarkdownCodeFences text ∧
      (closed.size : Int) = session.policy.expectedParticipants ∧
      (∀ token ∈ closed.participants, ∀ time, (final.step env (.getResult time ⟨token⟩)).2 =
        .getResult (.ok { state := .CLOSED, resultJson := stripMarkdownCodeFences text })) ∧
      ∀ other, other ≠ id →
        final.manager.sessions.lookup other = system.manager.sessions.lookup other := by
  have patient := timeout_nonneg_of_reachable fresh reachable stored
  have onItsWay : OnItsWay env now inputJson system id session system :=
    ⟨reachable, running, fun _ _ => rfl, session, stored, rfl, rfl, waiting, timely, patient,
      canonical, admitted⟩
  obtain ⟨calls, dispatched⟩ := onItsWay.dispatched fresh
  obtain ⟨later, index, staffed, calculating, policy, policyDef⟩ := dispatched.staffed
  have schema : later.outputSchema = session.outputSchema := by
    rw [Session.outputSchema, Session.outputSchema, policy, policyDef]
  rw [← schema] at accepts
  obtain ⟨work, closed, others⟩ := staffed.closes fresh calculating now accepts
  rw [← Machine.after_append] at closed others
  refine ⟨calls ++ work, _, closed.stored, rfl, rfl, ?_, ?_, ?_⟩
  · have ready := (sound_of_reachable fresh closed.reachable).ready id _ closed.stored
    have full := (ready.advanced (.inr (.inr rfl))).1
    rw [← policy]
    exact full
  · exact closed.reports fresh rfl
  · intro other apart
    exact (others other apart).trans (dispatched.others other apart)

-- One of two has joined and the other has not, nobody has submitted, and a second session is open.
def calendarUnderway : List Action :=
  calendarSubmissions.take 2 ++
    [.createSession 0 { policy := { policyClass := "calendar", expectedParticipants := 2 } }]

theorem calendar_can_complete :
    let system := (machine calendarEnv).after (machine calendarEnv).initial calendarUnderway
    ∃ actions closed, ((machine calendarEnv).after system actions).manager.sessions.lookup "a" =
        some closed ∧ closed.state = .CLOSED ∧ closed.resultJson = utf8 "\x7b\x7d" ∧
      ((machine calendarEnv).after system actions).manager.sessions.lookup "aaaaa" =
        system.manager.sessions.lookup "aaaaa" := by
  intro system
  have reachable : (machine calendarEnv).Reachable system := ⟨calendarUnderway, rfl⟩
  have running : system.alive = true := by decide +kernel
  have found : (system.manager.sessions.lookup "a").any (fun session =>
      decide (session.state = .OPEN ∧ ¬ session.TimedOut calendarEnv 0 ∧
        (session.admitInput calendarEnv "[1]").toOption = some "[1]" ∧
        session.outputSchema = calendarPolicy.defaultOutputSchemaJson)) = true := by
    decide +kernel
  obtain ⟨session, stored, checks⟩ := (Option.any_eq_true _ _).mp found
  obtain ⟨waiting, timely, admitted, schema⟩ := of_decide_eq_true checks
  have accepts : calendarEnv.Accepts session.outputSchema (utf8 "\x7b\x7d") := by
    rw [schema]
    exact ⟨rfl, by decide +kernel, .inr (by rfl)⟩
  have input : session.admitInput calendarEnv "[1]" = .ok "[1]" := by
    cases outcome : session.admitInput calendarEnv "[1]" with
    | error failure => simp [outcome, Except.toOption] at admitted
    | ok canonical =>
      simp only [outcome, Except.toOption, Option.some.injEq] at admitted
      rw [admitted]
  obtain ⟨actions, closed, final, state, result, -, -, others⟩ := waiting_session_can_complete
    calendarEnv (countingEnv_neverRepeats _) system reachable running "a" session stored
    (.inl waiting) 0 timely "[1]" "[1]" input (utf8 "\x7b\x7d") accepts
  have text : stripMarkdownCodeFences (utf8 "\x7b\x7d") = utf8 "\x7b\x7d" := by decide +kernel
  exact ⟨actions, closed, final, state, by rw [result, text], others "aaaaa" (by decide)⟩

end Ztab
