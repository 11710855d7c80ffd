import Ztab.Session.Indexes

set_option autoImplicit false

/-!
# Workers and their sessions

Each dispatched session has one worker. What the worker copied under the lock
still describes the session when it takes the lock again.
-/

namespace Ztab

namespace Session

def Settled (session : Session) : Prop :=
  session.state = .CALCULATING ∨ session.state.Terminal

structure Delivers (env : Environment) (generations : List Generation) (session : Session)
    (resultJson : Bytes) : Prop where
  nonempty : resultJson ≠ []
  generated : ∃ suffix text, ⟨session.id, session.buildPrompt suffix, text⟩ ∈ generations ∧
    resultJson = stripMarkdownCodeFences text
  valid : session.outputSchema ≠ "" →
    validateJsonSchema env.json env.partialMatch resultJson session.outputSchema = .ok ()

theorem Delivers.mono {env : Environment} {generations later : List Generation} {session : Session}
    {resultJson : Bytes} (delivers : session.Delivers env generations resultJson)
    (grown : ∀ generation ∈ generations, generation ∈ later) :
    session.Delivers env later resultJson where
  nonempty := delivers.nonempty
  generated := by
    obtain ⟨suffix, text, recorded, stripped⟩ := delivers.generated
    exact ⟨suffix, text, grown _ recorded, stripped⟩
  valid := delivers.valid

-- No handler touches a session past SEALED except to abort it on a timeout.
theorem Step.settled {env : Environment} {before after : Session} (step : before.Step env .rpc after)
    (settled : before.Settled) :
    after = before ∨ ∃ now, before.state = .CALCULATING ∧ after = before.abortOnTimeout env now := by
  cases step with
  | same => exact .inl rfl
  | timeout now due => exact .inr ⟨now, settled.resolve_right due.1, rfl⟩
  | accept token participant listed waiting missing =>
    simp [Settled, SessionState.Terminal, waiting] at settled
  | sealing now token participant listed waiting full accepted =>
    simp [Settled, SessionState.Terminal, waiting] at settled
  | submit token inputJson canonical participant listed unsubmitted waiting admitted missing =>
    simp [Settled, SessionState.Terminal, waiting] at settled
  | calculate now token inputJson canonical participant listed unsubmitted waiting =>
    simp [Settled, SessionState.Terminal, waiting] at settled

theorem Step.closed {env : Environment} {before after : Session} (step : before.Step env .rpc after)
    (closed : after.state = .CLOSED) : after = before := by
  cases step with
  | same => rfl
  | timeout now due => cases closed
  | accept token participant listed waiting missing => simp [markAccepted, waiting] at closed
  | sealing now token participant listed waiting full accepted => cases closed
  | submit token inputJson canonical participant listed unsubmitted waiting admitted missing =>
    simp [storeInput, waiting] at closed
  | calculate now token inputJson canonical participant listed unsubmitted waiting => cases closed

end Session

/-- What the stored session of a thread looks like at each point of the thread's program. -/
def Phase.Fits (env : Environment) (generations : List Generation) (session : Session) : Phase → Prop
  | .spawning | .started => session.state = .CALCULATING ∨ session.state = .ABORTED
  | .prompted prompt outputSchema =>
    (session.state = .CALCULATING ∨ session.state = .ABORTED) ∧
      (∃ suffix, prompt = session.buildPrompt suffix) ∧ outputSchema = session.outputSchema
  | .inferred outcome =>
    (session.state = .CALCULATING ∨ session.state = .ABORTED) ∧
      ∀ resultJson, outcome = .ok resultJson → session.Delivers env generations resultJson
  | .leaving | .finished => session.state.Terminal

namespace Phase.Fits

variable {env : Environment} {generations later : List Generation} {session : Session} {phase : Phase}

theorem settled (fits : phase.Fits env generations session) : session.Settled := by
  have pending (state : session.state = .CALCULATING ∨ session.state = .ABORTED) : session.Settled :=
    state.imp_right .inr
  cases phase with
  | spawning => exact pending fits
  | started => exact pending fits
  | prompted prompt outputSchema => exact pending fits.1
  | inferred outcome => exact pending fits.1
  | leaving => exact .inr fits
  | finished => exact .inr fits

theorem mono (fits : phase.Fits env generations session)
    (grown : ∀ generation ∈ generations, generation ∈ later) : phase.Fits env later session := by
  cases phase with
  | inferred outcome =>
    exact ⟨fits.1, fun resultJson same => (fits.2 resultJson same).mono grown⟩
  | _ => exact fits

theorem abort (fits : phase.Fits env generations session) (now : Int) :
    phase.Fits env generations (session.abortOnTimeout env now) := by
  cases phase with
  | spawning => exact .inr rfl
  | started => exact .inr rfl
  | prompted prompt outputSchema => exact ⟨.inr rfl, fits.2⟩
  | inferred outcome =>
    refine ⟨.inr rfl, fun resultJson same => ?_⟩
    have delivers := fits.2 resultJson same
    exact ⟨delivers.nonempty, delivers.generated, delivers.valid⟩
  | leaving => exact .inr rfl
  | finished => exact .inr rfl

end Phase.Fits

structure Workers (env : Environment) (system : System) : Prop where
  distinct : (system.threads.map (·.session)).Nodup
  drawn : ∀ thread ∈ system.threads, env.Drawn system.manager.draws thread.session
  fits : ∀ thread ∈ system.threads, ∀ session,
    system.manager.sessions.lookup thread.session = some session →
      thread.phase.Fits env system.history.generations session
  closed : ∀ id session, system.manager.sessions.lookup id = some session →
    session.state = .CLOSED → session.Delivers env system.history.generations session.resultJson

section Rpc

variable {env : Environment} {before after : SessionManager}

theorem ManagerStep.draws_le {actor : Actor} (step : ManagerStep env before actor after) :
    before.draws ≤ after.draws := by
  cases step with
  | within step =>
    cases step with
    | keep count draws later => exact later
    | update id session after count stored step => exact le_rfl
  | join id clientNonce session stored waiting room => exact Nat.le_succ _
  | sweep now => exact (draws_sweep env now before).ge
  | create now request policyDef admitted =>
    have kept := draws_sweep env now before
    simp only [SessionManager.openSession, SessionManager.generateRandomHex,
      SessionManager.insertSession]
    omega

-- Whatever holds of a session past SEALED, and survives an abort, survives every handler.
theorem ManagerStep.keeps_settled (fresh : env.NeverRepeats)
    (step : ManagerStep env before .rpc after) {id : String} (drawn : env.Drawn before.draws id)
    {holds : Session → Prop} (settled : ∀ session, holds session → session.Settled)
    (aborts : ∀ session now, holds session → holds (session.abortOnTimeout env now))
    (stored : ∀ session, before.sessions.lookup id = some session → holds session)
    (session : Session) (found : after.sessions.lookup id = some session) : holds session := by
  cases step.origin found with
  | @stepped _ held _ kept step =>
    obtain rfl | ⟨now, -, rfl⟩ := step.settled (settled held (stored held kept))
    · exact stored _ kept
    · exact aborts held now (stored held kept)
  | @joined held token clientNonce kept waiting =>
    have := settled held (stored held kept)
    simp [Session.Settled, SessionState.Terminal, waiting] at this
  | created now creator invitation recent named admitted =>
    exact absurd named (drawn.ne_next fresh recent _)

theorem ManagerStep.closed_before (step : ManagerStep env before .rpc after) {id : String}
    {session : Session} (found : after.sessions.lookup id = some session)
    (closed : session.state = .CLOSED) : before.sessions.lookup id = some session := by
  cases step.origin found with
  | stepped kept step =>
    rw [step.closed closed]
    exact kept
  | joined token clientNonce kept waiting => simp [Session.addParticipant, waiting] at closed
  | created now creator invitation recent named admitted => cases closed

end Rpc

namespace Workers

variable {env : Environment} {system after : System}

theorem rpc (fresh : env.NeverRepeats) (workers : Workers env system)
    (step : ManagerStep env system.manager .rpc after.manager)
    (threads : after.threads = system.threads)
    (history : after.history.generations = system.history.generations) : Workers env after where
  distinct := by
    rw [threads]
    exact workers.distinct
  drawn thread listed := by
    rw [threads] at listed
    exact (workers.drawn thread listed).mono step.draws_le
  fits thread listed := by
    rw [threads] at listed
    rw [history]
    exact step.keeps_settled fresh (workers.drawn thread listed) (fun _ fits => fits.settled)
      (fun _ now fits => fits.abort now) (workers.fits thread listed)
  closed id session found closed := by
    rw [history]
    exact workers.closed id session (step.closed_before found closed) closed

theorem mem_set {threads : List Thread} {index : Nat} {thread other : Thread} {phase : Phase}
    (distinct : (threads.map (·.session)).Nodup) (here : threads[index]? = some thread)
    (member : other ∈ threads.set index { thread with phase }) :
    other = { thread with phase } ∨ other ∈ threads ∧ other.session ≠ thread.session := by
  obtain ⟨position, found⟩ := List.mem_iff_getElem?.mp member
  rw [List.getElem?_set] at found
  split_ifs at found with same within
  · exact .inl (Option.some.inj found).symm
  · refine .inr ⟨List.mem_of_getElem? found, fun shared => same ?_⟩
    have one : (threads.map (·.session))[index]? = some thread.session := by simp [here]
    have two : (threads.map (·.session))[position]? = some thread.session := by simp [found, shared]
    have bound : index < (threads.map (·.session)).length := by
      obtain ⟨within, -⟩ := List.getElem?_eq_some_iff.mp one
      exact within
    exact (List.getElem?_inj bound distinct).mp (one.trans two.symm)

theorem map_set {threads : List Thread} {index : Nat} {thread : Thread} {phase : Phase}
    (here : threads[index]? = some thread) :
    (threads.set index { thread with phase }).map (·.session) = threads.map (·.session) := by
  rw [List.map_set]
  refine List.ext_getElem? fun position => ?_
  rw [List.getElem?_set]
  split_ifs with same within
  · subst same
    simp [here]
  · subst same
    simpa using within
  · rfl

theorem advance (workers : Workers env system) {index : Nat} {thread : Thread} {phase : Phase}
    (here : system.threads[index]? = some thread)
    (threads : after.threads = system.threads.set index { thread with phase })
    (others : ∀ id, id ≠ thread.session →
      after.manager.sessions.lookup id = system.manager.sessions.lookup id)
    (later : system.manager.draws ≤ after.manager.draws)
    (grown : ∀ generation ∈ system.history.generations, generation ∈ after.history.generations)
    (fits : ∀ session, after.manager.sessions.lookup thread.session = some session →
      phase.Fits env after.history.generations session)
    (closed : ∀ session, after.manager.sessions.lookup thread.session = some session →
      session.state = .CLOSED → session.Delivers env after.history.generations session.resultJson) :
    Workers env after := by
  have listed : thread ∈ system.threads := List.mem_of_getElem? here
  constructor
  · rw [threads, map_set here]
    exact workers.distinct
  · intro other member
    rw [threads] at member
    rcases mem_set workers.distinct here member with rfl | ⟨member, -⟩
    · exact (workers.drawn thread listed).mono later
    · exact (workers.drawn other member).mono later
  · intro other member session found
    rw [threads] at member
    rcases mem_set workers.distinct here member with rfl | ⟨member, apart⟩
    · exact fits session found
    · rw [others _ apart] at found
      exact (workers.fits other member session found).mono grown
  · intro id session found state
    by_cases same : id = thread.session
    · exact closed session (same ▸ found) state
    · rw [others id same] at found
      exact (workers.closed id session found state).mono grown

end Workers

section Inference

variable {env : Environment} {outputSchema : String} {results : Nat → GenerateResult}

-- The loop's text is the stripped answer of one of the calls it made.
theorem generateLoop_ok (remaining attempt : Nat) {resultJson : Bytes}
    (finished : (generateLoop env outputSchema results remaining attempt).result = .ok resultJson)
    (nonempty : resultJson ≠ []) :
    ∃ index text, index < (generateLoop env outputSchema results remaining attempt).calls ∧
      results (attempt + index) = .ok text ∧ resultJson = stripMarkdownCodeFences text ∧
      (outputSchema ≠ "" →
        validateJsonSchema env.json env.partialMatch resultJson outputSchema = .ok ()) := by
  induction remaining generalizing attempt with
  | zero =>
    cases finished
    exact absurd rfl nonempty
  | succ remaining ih =>
    -- A refused attempt passes its answer on to the rest of the loop.
    have retry (called : generateLoop env outputSchema results (remaining + 1) attempt =
        (generateLoop env outputSchema results remaining (attempt + 1)).afterCall) :
        ∃ index text, index < (generateLoop env outputSchema results (remaining + 1) attempt).calls ∧
          results (attempt + index) = .ok text ∧ resultJson = stripMarkdownCodeFences text ∧
          (outputSchema ≠ "" →
            validateJsonSchema env.json env.partialMatch resultJson outputSchema = .ok ()) := by
      rw [called] at finished ⊢
      obtain ⟨index, text, within, answered, rest⟩ := ih (attempt + 1) finished
      refine ⟨index + 1, text, Nat.succ_lt_succ within, ?_, rest⟩
      rw [← answered]
      congr 1
      omega
    cases answered : results attempt with
    | error status => exact retry (by simp [generateLoop, answered])
    | ok text =>
      by_cases unchecked : outputSchema = ""
      · simp only [generateLoop, answered, if_pos unchecked] at finished ⊢
        cases finished
        exact ⟨0, text, Nat.one_pos, answered, rfl, fun schema => absurd unchecked schema⟩
      · cases verdict : validateJsonSchema env.json env.partialMatch (stripMarkdownCodeFences text)
            outputSchema with
        | ok checked =>
          simp only [generateLoop, answered, if_neg unchecked, verdict] at finished ⊢
          cases finished
          exact ⟨0, text, Nat.one_pos, answered, rfl, fun _ => verdict⟩
        | error failure =>
          cases failure with
          | status status => exact retry (by simp [generateLoop, answered, unchecked, verdict])
          | raised exception =>
            simp [generateLoop, answered, unchecked, verdict] at finished

theorem processStatus_ok {resultJson delivered : Bytes}
    (status : processStatus env resultJson = .ok delivered) :
    env.hasEngine = true ∧ delivered = resultJson ∧ resultJson ≠ [] := by
  unfold processStatus at status
  split_ifs at status with missing empty
  cases status
  exact ⟨by simpa using missing, rfl, empty⟩

theorem mem_record {system : System} {session prompt : String} {calls index : Nat} {text : Bytes}
    (called : index < calls) (answered : results index = .ok text) :
    ⟨session, prompt, text⟩ ∈
      (system.record session prompt calls results).history.generations := by
  refine List.mem_append_right _ (List.mem_map.mpr ⟨text, ?_, rfl⟩)
  refine List.mem_filterMap.mpr ⟨index, List.mem_range.mpr called, ?_⟩
  rw [answered]
  rfl

end Inference

namespace Workers

variable {env : Environment} {system : System} {index : Nat} {thread : Thread}

theorem spawnSucceeds (workers : Workers env system) (here : system.threads[index]? = some thread)
    (phase : thread.phase = .spawning) : Workers env (system.spawnSucceeds index thread).1 := by
  have fits := workers.fits thread (List.mem_of_getElem? here)
  rw [phase] at fits
  exact workers.advance here rfl (fun _ _ => rfl) le_rfl (fun _ kept => kept) fits
    (workers.closed thread.session)

theorem spawnFails (workers : Workers env system) (here : system.threads[index]? = some thread)
    (what : String) : Workers env (system.spawnFails index thread what).1 := by
  have aborted (session : Session)
      (found : (system.manager.handleSpawnFailure thread.session what).sessions.lookup
        thread.session = some session) : session.state = .ABORTED := by
    unfold SessionManager.handleSpawnFailure at found
    split at found
    next absent => cases absent.symm.trans found
    next held stored =>
      rw [SessionManager.putSession, AList.lookup_insert] at found
      cases found
      rfl
  refine workers.advance here rfl ?_ ?_ (fun _ kept => kept)
    (fun session found => .inr (aborted session found)) ?_
  · intro id apart
    unfold System.spawnFails SessionManager.handleSpawnFailure
    simp only [System.setPhase]
    split
    next => rfl
    next => exact AList.lookup_insert_ne apart
  · unfold System.spawnFails SessionManager.handleSpawnFailure
    simp only [System.setPhase]
    split <;> exact le_rfl
  · intro session found closed
    rw [aborted session found] at closed
    cases closed

theorem preparePrompt (workers : Workers env system)
    (here : system.threads[index]? = some thread) (phase : thread.phase = .started) :
    Workers env (system.preparePrompt env index thread) := by
  have fits := workers.fits thread (List.mem_of_getElem? here)
  rw [phase] at fits
  unfold System.preparePrompt SessionManager.preparePrompt
  cases stored : system.manager.sessions.lookup thread.session with
  | none =>
    refine workers.advance here rfl (fun _ _ => rfl) le_rfl (fun _ kept => kept) ?_
      (workers.closed thread.session)
    intro session found
    cases stored.symm.trans found
  | some session =>
    by_cases moved : session.state ≠ .CALCULATING
    · simp only [if_pos moved]
      refine workers.advance here rfl (fun _ _ => rfl) le_rfl (fun _ kept => kept) ?_
        (workers.closed thread.session)
      intro held found
      cases stored.symm.trans found
      exact .inr ((fits session stored).resolve_left moved)
    · simp only [if_neg moved]
      refine workers.advance here rfl (fun _ _ => rfl) (Nat.le_succ _) (fun _ kept => kept) ?_
        (workers.closed thread.session)
      intro held found
      cases stored.symm.trans found
      exact ⟨fits session stored, ⟨_, rfl⟩, rfl⟩

theorem infer (workers : Workers env system) (sound : SessionManager.Sound env system.manager)
    (here : system.threads[index]? = some thread) {prompt outputSchema : String}
    (phase : thread.phase = .prompted prompt outputSchema) (results : Nat → GenerateResult) :
    Workers env (system.infer env index thread prompt outputSchema results).1 := by
  have fits := workers.fits thread (List.mem_of_getElem? here)
  rw [phase] at fits
  have grown : ∀ generation ∈ system.history.generations, generation ∈
      (system.record thread.session prompt (llmAttempts env outputSchema results).calls
        results).history.generations := fun generation kept => List.mem_append_left _ kept
  unfold System.infer
  cases finished : (llmAttempts env outputSchema results).result with
  | error exception =>
    simp only [finished]
    exact
      { distinct := workers.distinct
        drawn := workers.drawn
        fits := fun other member session found => (workers.fits other member session found).mono grown
        closed := fun id session found closed => (workers.closed id session found closed).mono grown }
  | ok resultJson =>
    simp only [finished]
    refine workers.advance here rfl (fun _ _ => rfl) le_rfl grown ?_ ?_
    · intro session found
      obtain ⟨pending, ⟨suffix, prompted⟩, schema⟩ := fits session found
      refine ⟨pending, fun delivered status => ?_⟩
      obtain ⟨engine, rfl, nonempty⟩ := processStatus_ok status
      have looped : llmAttempts env outputSchema results =
          generateLoop env outputSchema results kMaxLlmRetries 0 := by simp [llmAttempts, engine]
      rw [looped] at finished ⊢
      obtain ⟨position, text, called, answered, stripped, valid⟩ :=
        generateLoop_ok kMaxLlmRetries 0 finished nonempty
      refine ⟨nonempty, ⟨suffix, text, ?_, stripped⟩, schema ▸ valid⟩
      rw [sound.named _ session found, ← prompted]
      exact mem_record called (by simpa using answered)
    · exact fun session found closed =>
        (workers.closed thread.session session found closed).mono grown

theorem writeResult (workers : Workers env system)
    (here : system.threads[index]? = some thread) {outcome : Except Status Bytes}
    (phase : thread.phase = .inferred outcome) (now : Int) :
    Workers env ({ system with
      manager := system.manager.writeResult now thread.session outcome }.setPhase
        index thread .leaving) := by
  have fits := workers.fits thread (List.mem_of_getElem? here)
  rw [phase] at fits
  unfold SessionManager.writeResult
  split
  next absent =>
    refine workers.advance here rfl (fun _ _ => rfl) le_rfl (fun _ kept => kept) ?_
      (workers.closed thread.session)
    intro session found
    cases absent.symm.trans found
  next session stored =>
    split_ifs with moved
    · refine workers.advance here rfl (fun _ _ => rfl) le_rfl (fun _ kept => kept) ?_
        (workers.closed thread.session)
      intro held found
      cases stored.symm.trans found
      exact .inr ((fits session stored).1.resolve_left moved)
    · have written (held : Session)
          (found : (system.manager.putSession thread.session
            (session.writeOutcome now outcome)).sessions.lookup thread.session = some held) :
          held = session.writeOutcome now outcome := by
        rw [SessionManager.putSession, AList.lookup_insert] at found
        exact (Option.some.inj found).symm
      refine workers.advance here rfl (fun _ apart => AList.lookup_insert_ne apart) le_rfl
        (fun _ kept => kept) ?_ ?_
      · intro held found
        rw [written held found]
        cases outcome with
        | ok resultJson => exact .inl rfl
        | error status => exact .inr rfl
      · intro held found closed
        rw [written held found] at closed ⊢
        cases outcome with
        | ok resultJson =>
          have delivers := (fits session stored).2 resultJson rfl
          exact ⟨delivers.nonempty, delivers.generated, delivers.valid⟩
        | error status => cases closed

theorem leave (workers : Workers env system) (here : system.threads[index]? = some thread)
    (phase : thread.phase = .leaving) :
    Workers env ({ system with manager := system.manager.releaseThread }.setPhase
      index thread .finished) := by
  have fits := workers.fits thread (List.mem_of_getElem? here)
  rw [phase] at fits
  exact workers.advance here rfl (fun _ _ => rfl) le_rfl (fun _ kept => kept) fits
    (workers.closed thread.session)

theorem onThread (workers : Workers env system) (sound : SessionManager.Sound env system.manager)
    (index : Nat) (action : Action) : Workers env (system.onThread env index action).1 := by
  unfold System.onThread
  split
  next => exact workers
  next thread here =>
    unfold System.threadStep
    split <;> try split
    next phase => exact workers.spawnSucceeds here phase
    next => exact workers
    next what _ phase => exact workers.spawnFails here what
    next => exact workers
    next phase => exact workers.preparePrompt here phase
    next => exact workers
    next results _ prompt outputSchema phase => exact workers.infer sound here phase results
    next => exact workers
    next now _ outcome phase => exact workers.writeResult here phase now
    next => exact workers
    next phase => exact workers.leave here phase
    next => exact workers
    next => exact workers

end Workers

namespace Session

theorem retryInput_ne_dispatched (env : Environment) (inputJson sessionId : String) (session : Session)
    (participant : Participant) (remaining : Int) :
    (session.retryInput env inputJson participant remaining).2 ≠ .ok (.dispatched sessionId) := by
  unfold retryInput
  split
  next => exact fun same => by cases same
  next => exact fun same => by cases same

theorem submitInput_dispatched {env : Environment} {now : Int} {token inputJson sessionId : String}
    {session : Session} {participant : Participant}
    (dispatched : (session.submitInput env now token inputJson participant).2 =
      .ok (.dispatched sessionId)) :
    session.state = .SEALED ∧ sessionId = session.id ∧
      ∃ canonical, (session.submitInput env now token inputJson participant).1 =
        (session.storeInput token participant canonical).calculating now := by
  unfold submitInput at dispatched ⊢
  split_ifs at dispatched ⊢ with moved submitted retried
  · exact absurd dispatched (retryInput_ne_dispatched _ _ _ _ _ _)
  · cases dispatched
  · exact absurd dispatched (retryInput_ne_dispatched _ _ _ _ _ _)
  · cases admitted : session.admitInput env inputJson with
    | error failure => simp [admitted] at dispatched
    | ok canonical =>
      simp only [admitted] at dispatched ⊢
      split_ifs at dispatched ⊢ with complete
      · cases dispatched
        exact ⟨not_not.mp moved, rfl, canonical, rfl⟩
      · cases dispatched

end Session

-- A dispatched session was SEALED, so no worker can have it yet.
theorem SessionManager.submitInput_dispatched {env : Environment} {now : Int}
    {manager : SessionManager} {request : SubmitInputRequest} {sessionId : String}
    (dispatched : (manager.submitInput env now request).2 = .ok (.dispatched sessionId)) :
    ∃ id session participant canonical, manager.sessions.lookup id = some session ∧
      session.state = .SEALED ∧ sessionId = session.id ∧
      (manager.submitInput env now request).1.sessions = manager.sessions.insert id
        ((session.storeInput request.participantToken participant canonical).calculating now) := by
  have kept : (manager.submitInput env now request).2 =
      (manager.withSession env now request.participantToken
        (Session.submitInput env now request.participantToken request.inputJson)).2 := by
    unfold SessionManager.submitInput
    simp only
    split <;> rfl
  have stores : (manager.submitInput env now request).1.sessions =
      (manager.withSession env now request.participantToken
        (Session.submitInput env now request.participantToken request.inputJson)).1.sessions := by
    unfold SessionManager.submitInput
    simp only
    split <;> rfl
  rw [kept] at dispatched
  rw [stores]
  obtain refused | ⟨id, session, participant, known, answered⟩ :=
    manager.withSession_cases env now request.participantToken
      (Session.submitInput env now request.participantToken request.inputJson)
  · rw [refused] at dispatched
    cases dispatched
  · rw [answered] at dispatched ⊢
    obtain ⟨-, stored, -⟩ := authenticate_ok known
    obtain ⟨waiting, named, canonical, changed⟩ := Session.submitInput_dispatched dispatched
    have same := session.checkAndEnforceTimeout_of_not_aborted env now (by simp [waiting])
    rw [same] at waiting named changed
    rw [same, changed]
    exact ⟨id, session, participant, canonical, stored, waiting, named, rfl⟩

namespace Workers

variable {env : Environment} {system after : System}

theorem submitInput (fresh : env.NeverRepeats) (workers : Workers env system)
    (sound : SessionManager.Sound env system.manager) (now : Int) (request : SubmitInputRequest) :
    Workers env (system.submitInput env now request).1 := by
  have step : ManagerStep env system.manager .rpc (system.manager.submitInput env now request).1 :=
    .within (.submitInput now request)
  have handled : Workers env { system with
      manager := (system.manager.submitInput env now request).1 } := workers.rpc fresh step rfl rfl
  unfold System.submitInput
  simp only
  split
  next => exact handled
  next => exact handled
  next sessionId dispatched =>
    obtain ⟨id, session, participant, canonical, stored, waiting, named, changed⟩ :=
      SessionManager.submitInput_dispatched dispatched
    have same : sessionId = id := named.trans (sound.named id session stored)
    subst same
    have unowned : ∀ thread ∈ system.threads, thread.session ≠ sessionId := by
      intro thread listed owned
      have settled := (workers.fits thread listed session (owned ▸ stored)).settled
      simp [Session.Settled, SessionState.Terminal, waiting] at settled
    constructor
    · rw [List.map_append, List.map_singleton, List.nodup_append]
      refine ⟨workers.distinct, List.nodup_singleton _, ?_⟩
      intro owner listed other single shared
      obtain ⟨thread, member, rfl⟩ := List.mem_map.mp listed
      exact unowned thread member (shared.trans (List.mem_singleton.mp single))
    · intro thread member
      rcases List.mem_append.mp member with member | single
      · exact handled.drawn thread member
      · rw [List.mem_singleton.mp single]
        exact (sound.idsDrawn sessionId session stored).mono step.draws_le
    · intro thread member held found
      rcases List.mem_append.mp member with member | single
      · exact handled.fits thread member held found
      · rw [List.mem_singleton.mp single] at found ⊢
        simp only [changed, AList.lookup_insert] at found
        cases found
        exact .inl rfl
    · exact handled.closed

theorem createSession (fresh : env.NeverRepeats) (workers : Workers env system) (now : Int)
    (request : CreateSessionRequest) : Workers env (system.createSession env now request).1 := by
  have step : ManagerStep env system.manager .rpc _ := .createSession now request
  unfold System.createSession
  simp only
  split
  next =>
    exact workers.rpc fresh (by simpa using step) (System.issue_threads ..)
      (System.issue_generations ..)
  next => exact workers.rpc fresh step rfl rfl

theorem joinSession (fresh : env.NeverRepeats) (workers : Workers env system) (now : Int)
    (request : JoinSessionRequest) : Workers env (system.joinSession env now request).1 := by
  have step : ManagerStep env system.manager .rpc _ := .joinSession now request
  unfold System.joinSession
  simp only
  split
  next =>
    exact workers.rpc fresh (by simpa using step) (System.issue_threads ..)
      (System.issue_generations ..)
  next => exact workers.rpc fresh step rfl rfl

theorem step (fresh : env.NeverRepeats) (workers : Workers env system)
    (sound : SessionManager.Sound env system.manager) (action : Action) :
    Workers env (system.step env action).1 := by
  unfold System.step
  split
  next =>
    cases action with
    | createSession now request => exact workers.createSession fresh now request
    | joinSession now request => exact workers.joinSession fresh now request
    | acceptPolicy now request =>
      exact workers.rpc fresh (.within (.acceptPolicy now request)) rfl rfl
    | submitInput now request => exact workers.submitInput fresh sound now request
    | getResult now request => exact workers.rpc fresh (.within (.getResult now request)) rfl rfl
    | getSessionStatus now request =>
      exact workers.rpc fresh (.within (.getSessionStatus now request)) rfl rfl
    | spawnSucceeds index => exact workers.onThread sound index _
    | spawnFails index what => exact workers.onThread sound index _
    | preparePrompt index => exact workers.onThread sound index _
    | infer index results => exact workers.onThread sound index _
    | writeResult index now => exact workers.onThread sound index _
    | leave index => exact workers.onThread sound index _
  next => exact workers

end Workers

theorem workers_of_reachable {env : Environment} (fresh : env.NeverRepeats) {system : System}
    (reachable : (machine env).Reachable system) : Workers env system := by
  have both := (machine env).reachable_invariant
    (fun system => SessionManager.Sound env system.manager ∧ Workers env system)
    ⟨SessionManager.sound_initial env, by constructor <;> simp [machine]⟩
    (fun system action holds => ⟨(system.step_manager env action).sound fresh holds.1,
      holds.2.step fresh holds.1 action⟩) system reachable
  exact both.2

end Ztab
