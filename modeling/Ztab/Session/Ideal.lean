import Ztab.Session.Broker
import Ztab.Session.Outcome
import Ztab.Session.PromptAssembly
import Ztab.Shared.Escrow

set_option autoImplicit false

/-!
# Sessions as deals in escrow

What the broker is for, and that it does nothing else: whatever is called in whatever order, every
session goes the way of a deal in escrow, whose result is the answer of the model to the inputs of
the parties.
-/

namespace Ztab

open Relation (ReflTransGen)

namespace Session

def stage (session : Session) : Escrow.Stage Bytes :=
  match session.state with
  | .OPEN => .gathering
  | .SEALED => .sealed
  | .CALCULATING => .computing
  | .CLOSED => .delivered session.resultJson
  | .ABORTED => .failed

/-- The parties are known by their tokens; why a session failed is left out. -/
def deal (session : Session) : Escrow.Deal String String Bytes where
  seats := session.policy.expectedParticipants.toNat
  parties := session.participantTokens
  agreed := {token | ∃ participant, session.participants.lookup token = some participant ∧
    participant.accepted = true}
  inputs token := (session.participants.lookup token).bind fun participant =>
    if participant.inputSubmitted then some participant.inputJson else none
  stage := session.stage

section Steps

variable {env : Environment} {computes : List String → Bytes → Prop} {session after : Session}

theorem deal_markAccepted {token : String} {participant : Participant}
    (listed : session.participants.lookup token = some participant) :
    (session.markAccepted token participant).deal =
      { session.deal with agreed := insert token session.deal.agreed } := by
  have agreed : (session.markAccepted token participant).deal.agreed =
      insert token session.deal.agreed := by
    ext other
    simp only [deal, markAccepted, FlatHashMap.lookup_insert_ite, Set.mem_ofPred_eq,
      Set.mem_insert_iff]
    by_cases same : other = token <;> simp [same]
  have inputs : (session.markAccepted token participant).deal.inputs = session.deal.inputs := by
    funext other
    simp only [deal, markAccepted, FlatHashMap.lookup_insert_ite]
    by_cases same : other = token
    · subst same
      simp [listed]
    · simp [same]
  exact Escrow.Deal.ext rfl rfl agreed inputs rfl

theorem deal_storeInput {token canonical : String} {participant : Participant}
    (listed : session.participants.lookup token = some participant) :
    (session.storeInput token participant canonical).deal =
      { session.deal with
        inputs := Function.update session.deal.inputs token (some canonical) } := by
  have agreed : (session.storeInput token participant canonical).deal.agreed =
      session.deal.agreed := by
    ext other
    simp only [deal, storeInput, FlatHashMap.lookup_insert_ite, Set.mem_ofPred_eq]
    by_cases same : other = token
    · subst same
      simp [listed]
    · simp [same]
  have inputs : (session.storeInput token participant canonical).deal.inputs =
      Function.update session.deal.inputs token (some canonical) := by
    funext other
    simp only [deal, storeInput, FlatHashMap.lookup_insert_ite, Function.update_apply]
    by_cases same : other = token <;> simp [same]
  exact Escrow.Deal.ext rfl rfl agreed inputs rfl

theorem deal_newSession (now : Int) (request : CreateSessionRequest) (policyDef : PolicyDefinition)
    (id creatorToken invitationToken : String) :
    (SessionManager.newSession now request policyDef id creatorToken invitationToken).deal =
      Escrow.opened request.policy.expectedParticipants.toNat creatorToken := by
  refine Escrow.Deal.ext rfl rfl ?_ ?_ rfl
  · ext token
    simp only [deal, SessionManager.newSession, FlatHashMap.lookup_insert_ite, Set.mem_ofPred_eq,
      Escrow.opened, Set.mem_singleton_iff]
    by_cases same : token = creatorToken <;> simp [same]
  · funext token
    simp only [deal, SessionManager.newSession, FlatHashMap.lookup_insert_ite, Escrow.opened]
    by_cases same : token = creatorToken <;> simp [same]

theorem deal_addParticipant {token : String} (clientNonce : String)
    (newcomer : token ∉ session.participants) :
    (session.addParticipant token clientNonce).deal =
      { session.deal with parties := session.deal.parties ++ [token] } := by
  have absent : session.participants.lookup token = none := AList.lookup_eq_none.mpr newcomer
  have agreed : (session.addParticipant token clientNonce).deal.agreed = session.deal.agreed := by
    ext other
    simp only [deal, lookup_addParticipant, Set.mem_ofPred_eq]
    by_cases same : other = token
    · subst same
      simp [absent]
    · simp [same]
  have inputs : (session.addParticipant token clientNonce).deal.inputs = session.deal.inputs := by
    funext other
    simp only [deal, lookup_addParticipant]
    by_cases same : other = token
    · subst same
      simp [absent]
    · simp [same]
  exact Escrow.Deal.ext rfl rfl agreed inputs rfl

theorem Roster.seats_eq (roster : session.Roster) :
    session.deal.parties.length = session.deal.seats ↔
      (session.size : Int) = session.policy.expectedParticipants := by
  have bounds := roster.expectedBounds
  have length : session.deal.parties.length = session.size := roster.length_tokens
  have seats : session.deal.seats = session.policy.expectedParticipants.toNat := rfl
  omega

theorem Roster.mem_parties (roster : session.Roster) {token : String} {participant : Participant}
    (listed : session.participants.lookup token = some participant) :
    token ∈ session.deal.parties :=
  (roster.mem_tokens token).mpr ((FlatHashMap.mem_iff_lookup _ _).mpr ⟨participant, listed⟩)

theorem Roster.full (roster : session.Roster)
    (size : (session.size : Int) = session.policy.expectedParticipants)
    (accepted : ∀ token participant, session.participants.lookup token = some participant →
      participant.accepted = true) : session.deal.Full := by
  refine ⟨roster.seats_eq.mpr size, fun token seated => ?_⟩
  obtain ⟨participant, listed⟩ :=
    (FlatHashMap.mem_iff_lookup _ _).mp ((roster.mem_tokens token).mp seated)
  exact ⟨participant, listed, accepted token participant listed⟩

theorem Roster.complete (roster : session.Roster)
    (submitted : ∀ token participant, session.participants.lookup token = some participant →
      participant.inputSubmitted = true) : session.deal.Complete := by
  intro token seated
  obtain ⟨participant, listed⟩ :=
    (FlatHashMap.mem_iff_lookup _ _).mp ((roster.mem_tokens token).mp seated)
  exact ⟨participant.inputJson, by simp [deal, listed, submitted token participant listed]⟩

theorem stage_ne_delivered (alive : session.state ≠ .CLOSED) (result : Bytes) :
    session.deal.stage ≠ .delivered result := by
  cases state : session.state <;> simp_all [deal, stage]

-- Every way a step changes a stored session is a way of a deal; one call may take two steps of it.
theorem Step.deal {actor : Actor} (step : session.Step env actor after) (ready : session.Ready)
    (moves : after.state = session.state ∨ session.state.Moves after.state)
    (computed : after.state = .CLOSED → computes after.deal.collected after.resultJson) :
    ReflTransGen (Escrow.Step computes) session.deal after.deal := by
  have readyAfter := step.ready ready
  cases step with
  | same => exact .refl
  | timeout now due =>
    refine .single (.fail (stage_ne_delivered ?_))
    intro closed
    exact due.1 (.inl closed)
  | accept token participant listed waiting missing =>
    rw [deal_markAccepted listed]
    exact .single (.agree token (by simp [Session.deal, stage, waiting])
      (ready.mem_parties listed))
  | sealing now token participant listed waiting full accepted =>
    have marked : (session.markAccepted token participant).Roster :=
      ready.toRoster.reseat listed rfl
    have gathering : session.deal.stage = .gathering := by simp [Session.deal, stage, waiting]
    have agrees : Escrow.Step computes session.deal (session.markAccepted token participant).deal := by
      rw [deal_markAccepted listed]
      exact .agree token gathering (ready.mem_parties listed)
    refine .tail (.single agrees) (.close ?_ (marked.full full ((allAccepted_iff _).mp accepted)))
    rw [deal_markAccepted listed]
    exact gathering
  | submit token inputJson canonical participant listed unsubmitted waiting admitted missing =>
    rw [deal_storeInput listed]
    exact .single (.submit token canonical (by simp [Session.deal, stage, waiting])
      (ready.mem_parties listed) (by simp [Session.deal, listed, unsubmitted]))
  | calculate now token inputJson canonical participant listed unsubmitted waiting admitted complete =>
    have sealed : session.deal.stage = .sealed := by simp [Session.deal, stage, waiting]
    have submits : Escrow.Step computes session.deal
        (session.storeInput token participant canonical).deal := by
      rw [deal_storeInput listed]
      exact .submit token canonical sealed (ready.mem_parties listed)
        (by simp [Session.deal, listed, unsubmitted])
    have stored : (session.storeInput token participant canonical).Roster :=
      ready.toRoster.reseat listed rfl
    refine .tail (.single submits) (.compute ?_ (stored.complete (readyAfter.calculated (.inl rfl))))
    rw [deal_storeInput listed]
    exact sealed
  | write now outcome waiting =>
    have computing : session.deal.stage = .computing := by simp [Session.deal, stage, waiting]
    cases outcome with
    | ok resultJson => exact .single (.deliver resultJson computing (computed rfl))
    | error status => exact .single (.fail (by simp [computing]))
  | spawnFailure what =>
    refine .single (.fail (stage_ne_delivered ?_))
    intro closed
    rw [closed] at moves
    rcases moves with same | aborts
    · cases same
    · cases aborts with
      | aborts alive => exact alive (.inl rfl)

theorem addParticipant_deal {token : String} (clientNonce : String)
    (ready : session.Ready) (newcomer : token ∉ session.participants)
    (waiting : session.state = .OPEN)
    (seated : (session.addParticipant token clientNonce).Roster) :
    Escrow.Step computes session.deal (session.addParticipant token clientNonce).deal := by
  have room : session.deal.parties.length < session.deal.seats := by
    have size : (session.addParticipant token clientNonce).size = session.size + 1 :=
      FlatHashMap.size_insert_of_not_mem _ _ _ newcomer
    have bounds := seated.sizeBounds.2
    have length : session.deal.parties.length = session.size := ready.length_tokens
    have seats : session.deal.seats = session.policy.expectedParticipants.toNat := rfl
    have same : (session.addParticipant token clientNonce).policy = session.policy := rfl
    rw [same] at bounds
    omega
  rw [deal_addParticipant clientNonce newcomer]
  exact .join token (by simp [Session.deal, stage, waiting]) room
    (fun listed => newcomer ((ready.mem_tokens token).mp listed))

end Steps

end Session

def PolicyDefinition.prompt (policyDef : PolicyDefinition) (suffix : String) (inputs : List String) :
    String :=
  String.ofList (strReplaceAll
    (placeholders (toString inputs.length) (inputsBlock suffix 1 inputs)) 0
    policyDef.promptTemplate.toList)

section Broker

variable {Context : Type}

/-- The result is read off what an engine that never served anybody answers to the inputs alone. -/
structure BrokerConfig.Computes (config : BrokerConfig Context) (policyDef : PolicyDefinition)
    (outputSchema : String) (inputs : List String) (result : Bytes) : Prop where
  nonempty : result ≠ []
  valid : outputSchema ≠ "" →
    validateJsonSchema config.env.json config.env.partialMatch result outputSchema = .ok ()
  answered : ∃ suffix text, config.answer (policyDef.prompt suffix inputs) = .ok text ∧
    result = stripMarkdownCodeFences text

variable {config : BrokerConfig Context} {broker : Broker Context} {id : String} {session : Session}

theorem Session.Ready.collected_eq (ready : session.Ready) (closed : session.state = .CLOSED) :
    session.deal.collected = session.inputsOf session.participantTokens := by
  rw [Session.inputsOf, List.map_filterMap]
  refine List.filterMap_congr fun token _ => ?_
  cases listed : session.participants.lookup token with
  | none => simp [Session.deal, listed]
  | some participant =>
    simp [Session.deal, listed, ready.calculated (.inr closed) token participant listed]

theorem Session.Ready.buildPrompt_eq (ready : session.Ready) (closed : session.state = .CLOSED)
    (suffix : String) :
    session.buildPrompt suffix = session.policyDef.prompt suffix session.deal.collected := by
  have length : session.deal.collected.length = session.size := by
    rw [ready.collected_eq closed, ready.toRoster.inputsOf_tokens, List.length_map, List.length_range']
  rw [Session.buildPrompt, PolicyDefinition.prompt, length, ready.collected_eq closed,
    ready.toRoster.sortedInputs_eq]
  rfl

theorem Broker.Consistent.computed (consistent : broker.Consistent config)
    (fresh : config.env.NeverRepeats)
    (stored : broker.system.manager.sessions.lookup id = some session)
    (closed : session.state = .CLOSED) :
    config.Computes session.policyDef session.outputSchema session.deal.collected
      session.resultJson := by
  have ready := (sound_of_reachable fresh consistent.reachable).ready id session stored
  have delivers := (workers_of_reachable fresh consistent.reachable).closed id session stored closed
  obtain ⟨suffix, text, recorded, stripped⟩ := delivers.generated
  have answered := consistent.generated _ recorded
  rw [ready.buildPrompt_eq closed] at answered
  exact ⟨delivers.nonempty, delivers.valid, suffix, text, answered, stripped⟩

def Session.DealStep (config : BrokerConfig Context) (session : Session) :
    Escrow.Deal String String Bytes → Escrow.Deal String String Bytes → Prop :=
  Escrow.Step (config.Computes session.policyDef session.outputSchema)

structure Session.Proceeds (config : BrokerConfig Context) (before after : Session) : Prop where
  policyDef : after.policyDef = before.policyDef
  policy : after.policy = before.policy
  steps : ReflTransGen (before.DealStep config) before.deal after.deal

namespace Session.Proceeds

variable {before between after : Session}

theorem dealStep_eq (proceeds : before.Proceeds config after) :
    after.DealStep config = before.DealStep config := by
  unfold DealStep outputSchema
  rw [proceeds.policyDef, proceeds.policy]

theorem refl (session : Session) : session.Proceeds config session := ⟨rfl, rfl, .refl⟩

theorem trans (first : before.Proceeds config between) (second : between.Proceeds config after) :
    before.Proceeds config after where
  policyDef := second.policyDef.trans first.policyDef
  policy := second.policy.trans first.policy
  steps := first.steps.trans (first.dealStep_eq ▸ second.steps)

end Session.Proceeds

namespace Broker.Consistent

variable {held : Session}

-- A call of a participant or the sweep may be the one that finds the session timed out.
theorem timeout_proceeds (consistent : broker.Consistent config) (fresh : config.env.NeverRepeats)
    (stored : broker.system.manager.sessions.lookup id = some held) (now : Int) :
    held.Proceeds config (held.checkAndEnforceTimeout config.env now) := by
  have step := held.checkAndEnforceTimeout_step config.env now
  refine ⟨step.identity.policyDef, step.identity.policy, step.deal ?_ ?_ fun closed => ?_⟩
  · exact (sound_of_reachable fresh consistent.reachable).ready id held stored
  · exact step.moves (fun spawner => by cases spawner)
  · have same := held.checkAndEnforceTimeout_of_not_aborted config.env now (by simp [closed])
    rw [same] at closed ⊢
    exact consistent.computed fresh stored closed

theorem act_proceeds (consistent : broker.Consistent config) (fresh : config.env.NeverRepeats)
    {action : Action} {after : Broker Context} (later : after.Consistent config)
    (moved : after.system = (broker.system.step config.env action).1)
    (found : after.system.manager.sessions.lookup id = some session) :
    (∃ held, broker.system.manager.sessions.lookup id = some held ∧ held.Proceeds config session) ∨
      (∃ founder, session.deal = Escrow.opened session.deal.seats founder) ∧
        ¬ config.env.Drawn broker.system.manager.draws id := by
  have sound := sound_of_reachable fresh consistent.reachable
  have ready := (sound_of_reachable fresh later.reachable).ready id session found
  have computed := later.computed fresh found
  rw [moved] at found
  cases record_origin fresh consistent.reachable found with
  | stepped stored step =>
    have moves := System.step_moves fresh sound (workers_of_reachable fresh consistent.reachable)
      action stored found
    have terms := step.identity
    refine .inl ⟨_, stored, terms.policyDef, terms.policy,
      step.deal (sound.ready id _ stored) moves fun closed => ?_⟩
    have result := computed closed
    unfold Session.outputSchema at result ⊢
    rwa [terms.policyDef, terms.policy] at result
  | joined same answered stored waiting unanswered newcomer =>
    exact .inl ⟨_, stored, rfl, rfl, .single
      (Session.addParticipant_deal _ (sound.ready id _ stored) newcomer waiting ready.toRoster)⟩
  | created same named =>
    refine .inr ⟨⟨_, Session.deal_newSession _ _ _ _ _ _⟩, ?_⟩
    exact fun drawn => drawn.ne_next fresh le_rfl _ named

end Broker.Consistent

-- The sweep removes no session but those that came to an end.
theorem System.erased_due {env : Environment} {system : System} {action : Action} {held : Session}
    (stored : system.manager.sessions.lookup id = some held)
    (gone : (system.step env action).1.manager.sessions.lookup id = none) :
    ∃ now, (held.checkAndEnforceTimeout env now).ShouldErase env now := by
  have inserted {sessions : FlatHashMap String Session} {other : String} {new : Session}
      (missing : (sessions.insert other new).lookup id = none) : sessions.lookup id = none := by
    rw [FlatHashMap.lookup_insert_ite] at missing
    split_ifs at missing
    exact missing
  have swept {now : Int}
      (missing : (system.manager.sweepTerminalSessions env now).sessions.lookup id = none) :
      ∃ now, (held.checkAndEnforceTimeout env now).ShouldErase env now := by
    rw [SessionManager.lookup_sweep, stored, Option.bind_some, Session.swept] at missing
    split_ifs at missing with due
    exact ⟨now, due⟩
  have step := system.step_manager env action
  generalize (system.step env action).1.manager = after at gone step
  generalize action.actor = actor at step
  cases step with
  | within step =>
    cases step with
    | keep count draws later => exact absurd (stored.symm.trans gone) (by simp)
    | update other session after count found step =>
      exact absurd (stored.symm.trans (inserted gone)) (by simp)
  | join other clientNonce session found waiting room =>
    exact absurd (stored.symm.trans (inserted gone)) (by simp)
  | sweep now => exact swept gone
  | create now request policyDef admitted => exact swept (inserted gone)

theorem Session.over_of_terminal (terminal : session.state.Terminal) : session.deal.Over := by
  rcases terminal with closed | aborted
  · exact .inr ⟨session.resultJson, by simp [Session.deal, Session.stage, closed]⟩
  · exact .inl (by simp [Session.deal, Session.stage, aborted])

-- Whoever is told a result has a seat in a deal that delivered it.
theorem Broker.Consistent.told (consistent : broker.Consistent config)
    (fresh : config.env.NeverRepeats) {now : Int} {token : String} {response : GetResultResponse}
    (answered : (broker.step config (.serve (.getResult now ⟨token⟩) rfl)).2 =
      .session (.getResult (.ok response)))
    (closed : response.state = .CLOSED) :
    ∃ id session, broker.system.manager.sessions.lookup id = some session ∧
      token ∈ session.deal.parties ∧ session.deal.stage = .delivered response.resultJson := by
  have sound := sound_of_reachable fresh consistent.reachable
  obtain ⟨id, session, indexed, stored, rfl, -⟩ :=
    System.getResult_ok (BrokerReply.session.inj answered)
  rw [Session.report_state] at closed
  have same := session.checkAndEnforceTimeout_of_not_aborted config.env now (by simp [closed])
  rw [same] at closed ⊢
  refine ⟨id, session, stored, ?_, by simp [Session.deal, Session.stage, Session.report, closed]⟩
  obtain ⟨held, kept, seated⟩ := (sound.participants token id).mp indexed
  cases stored.symm.trans kept
  exact ((sound.ready id session stored).mem_tokens token).mpr seated

structure Broker.Pursues (config : BrokerConfig Context) (id : String) (origin : Session)
    (broker : Broker Context) : Prop where
  consistent : broker.Consistent config
  drawn : config.env.Drawn broker.system.manager.draws id
  kept : ∀ session, broker.system.manager.sessions.lookup id = some session →
    origin.Proceeds config session
  gone : broker.system.manager.sessions.lookup id = none →
    ∃ ending, ReflTransGen (origin.DealStep config) origin.deal ending ∧ ending.Over

def Session.Founded (config : BrokerConfig Context) (session : Session) : Prop :=
  ∃ founder, ReflTransGen (session.DealStep config) (Escrow.opened session.deal.seats founder)
    session.deal

theorem Session.Proceeds.founded {before after : Session} (proceeds : before.Proceeds config after)
    (founded : before.Founded config) : after.Founded config := by
  obtain ⟨founder, steps⟩ := founded
  refine ⟨founder, ?_⟩
  have seats : after.deal.seats = before.deal.seats := by simp [Session.deal, proceeds.policy]
  rw [proceeds.dealStep_eq, seats]
  exact steps.trans proceeds.steps

section Service

variable (fresh : config.env.NeverRepeats) (forgets : config.llama.Forgets config.nCtx)

include fresh forgets

theorem Broker.Pursues.step {origin : Session} (pursues : broker.Pursues config id origin)
    {action : BrokerAction} (fits : broker.Fits config action) :
    (broker.step config action).1.Pursues config id origin := by
  obtain ⟨consistent, drawn, kept, gone⟩ := pursues
  have later := consistent.step fresh forgets fits
  rcases broker.step_system config action with same | ⟨act, moved, -⟩
  · exact ⟨later, same ▸ drawn, same ▸ kept, same ▸ gone⟩
  · refine ⟨later, ?_, fun session found => ?_, fun missing => ?_⟩
    · rw [moved]
      exact drawn.mono (System.step_manager _ _ _).draws_le
    · rcases consistent.act_proceeds fresh later moved found with ⟨held, stored, onward⟩ | ⟨-, new⟩
      · exact (kept held stored).trans onward
      · exact absurd drawn new
    · cases stored : broker.system.manager.sessions.lookup id with
      | none => exact gone stored
      | some held =>
        rw [moved] at missing
        obtain ⟨now, due⟩ := System.erased_due stored missing
        have ended := (kept held stored).trans (consistent.timeout_proceeds fresh stored now)
        exact ⟨_, ended.steps, Session.over_of_terminal due.1⟩

theorem pursues_of_run {origin : Session} (consistent : broker.Consistent config)
    (stored : broker.system.manager.sessions.lookup id = some origin) {run : List BrokerAction}
    (fits : (brokerMachine config).Allowed (Broker.Fits config) broker run) :
    ((brokerMachine config).after broker run).Pursues config id origin := by
  refine (brokerMachine config).allowed_preserves (Broker.Fits config)
    (Broker.Pursues config id origin) (fun _ _ fits pursues => pursues.step fresh forgets fits)
    broker ?_ run fits
  refine ⟨consistent, (sound_of_reachable fresh consistent.reachable).idsDrawn id origin stored,
    fun session found => ?_, fun missing => ?_⟩
  · cases stored.symm.trans found
    exact .refl origin
  · exact absurd (stored.symm.trans missing) (by simp)

theorem founded_of_run {run : List BrokerAction}
    (fits : (brokerMachine config).Allowed (Broker.Fits config) (brokerMachine config).initial run) :
    let broker := (brokerMachine config).after (brokerMachine config).initial run
    broker.Consistent config ∧ ∀ id session,
      broker.system.manager.sessions.lookup id = some session → session.Founded config := by
  refine (brokerMachine config).allowed_preserves (Broker.Fits config)
    (fun broker => broker.Consistent config ∧ ∀ id session,
      broker.system.manager.sessions.lookup id = some session → session.Founded config)
    ?_ _ ⟨.initial config, fun id session stored => by cases stored⟩ run fits
  rintro broker action fits ⟨consistent, founded⟩
  have later := consistent.step fresh forgets fits
  refine ⟨later, fun id session found => ?_⟩
  rcases broker.step_system config action with same | ⟨act, moved, -⟩
  · exact founded id session (same ▸ found)
  · rcases consistent.act_proceeds fresh later moved found with
      ⟨held, stored, onward⟩ | ⟨⟨founder, opened⟩, -⟩
    · exact onward.founded (founded id held stored)
    · exact ⟨founder, by rw [← opened]⟩

end Service

/-- The broker does what a deal in escrow does, however the calls, the workers and the clock
interleave: every session is a deal that came from its opening by the steps of the deal; it goes on
by them as long as the session is stored, and was over when it is not. So a deal is honest, its
result is computed from the inputs of its parties alone and stays, and only they are told it. -/
theorem sessions_realize_deals (config : BrokerConfig Context) (fresh : config.env.NeverRepeats)
    (forgets : config.llama.Forgets config.nCtx) (earlier later : List BrokerAction)
    (fits : (brokerMachine config).Allowed (Broker.Fits config) (brokerMachine config).initial
      (earlier ++ later)) :
    let before := (brokerMachine config).after (brokerMachine config).initial earlier
    let after := (brokerMachine config).after before later
    (∀ id session, before.system.manager.sessions.lookup id = some session →
      let computes := config.Computes session.policyDef session.outputSchema
      (∃ founder, ReflTransGen (Escrow.Step computes)
          (Escrow.opened session.deal.seats founder) session.deal) ∧
        Escrow.Honest computes session.deal ∧
        (∀ kept, after.system.manager.sessions.lookup id = some kept →
          ReflTransGen (Escrow.Step computes) session.deal kept.deal ∧
            ∀ result, session.deal.stage = .delivered result → kept.deal = session.deal) ∧
        (after.system.manager.sessions.lookup id = none →
          ∃ ending, ReflTransGen (Escrow.Step computes) session.deal ending ∧ ending.Over)) ∧
      ∀ now token response,
        (before.step config (.serve (.getResult now ⟨token⟩) rfl)).2 =
          .session (.getResult (.ok response)) → response.state = .CLOSED →
        ∃ id session, before.system.manager.sessions.lookup id = some session ∧
          token ∈ session.deal.parties ∧ session.deal.stage = .delivered response.resultJson := by
  intro before after
  obtain ⟨fitsBefore, fitsAfter⟩ := ((brokerMachine config).allowed_append _ _ _).mp fits
  obtain ⟨consistent, founded⟩ := founded_of_run fresh forgets fitsBefore
  refine ⟨fun id session stored => ?_, fun now token response answered closed =>
    consistent.told fresh answered closed⟩
  obtain ⟨founder, steps⟩ := founded id session stored
  have pursues := pursues_of_run fresh forgets consistent stored fitsAfter
  have seats : 1 ≤ session.deal.seats := by
    have ready := (sound_of_reachable fresh consistent.reachable).ready id session stored
    have bounds := ready.expectedBounds.1
    have expected : session.deal.seats = session.policy.expectedParticipants.toNat := rfl
    omega
  refine ⟨⟨founder, steps⟩, ?_, fun kept found => ?_, pursues.gone⟩
  · exact Escrow.honest_of_steps (Escrow.honest_opened seats founder) steps
  · have onward := (pursues.kept kept found).steps
    exact ⟨onward, fun result delivered => Escrow.delivered_final delivered onward⟩

theorem calendar_realizes_deal :
    ∃ session result, ((brokerMachine calendarBroker).after (brokerMachine calendarBroker).initial
      calendarServed).system.manager.sessions.lookup "a" = some session ∧
        session.deal.stage = .delivered result ∧ session.deal.parties = ["aa", "aaaa"] ∧
        session.deal.collected = ["[1]", "[2]"] ∧
        calendarBroker.Computes session.policyDef session.outputSchema session.deal.collected result := by
  obtain ⟨session, stored, closed⟩ := calendarServed_closed
  have facts : ∀ session ∈ ((brokerMachine calendarBroker).after (brokerMachine calendarBroker).initial
      calendarServed).system.manager.sessions.lookup "a",
      session.deal.parties = ["aa", "aaaa"] ∧ session.deal.collected = ["[1]", "[2]"] := by
    decide +kernel
  obtain ⟨parties, collected⟩ := facts session stored
  obtain ⟨-, honest, -⟩ := (sessions_realize_deals calendarBroker (countingEnv_neverRepeats _)
    (fun _ _ _ _ => rfl) calendarServed [] (calendarBroker_fits _)).1 "a" session stored
  have delivered : session.deal.stage = .delivered session.resultJson := by
    simp [Session.deal, Session.stage, closed]
  exact ⟨session, session.resultJson, stored, delivered, parties, collected,
    honest.computed _ delivered⟩

end Broker

end Ztab
