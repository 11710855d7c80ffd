import Ztab.Session.Policies

set_option autoImplicit false

/-!
# Submitted inputs

An input is final once it is stored, and a retry is told from a second input by the
canonical text of its payload.
-/

namespace Ztab

-- What later submissions cannot touch.
structure Participant.SameInput (before after : Participant) : Prop where
  inputJson : after.inputJson = before.inputJson
  inputSubmitted : after.inputSubmitted = before.inputSubmitted

namespace Session

variable {env : Environment} {session after : Session} {token : String} {participant : Participant}

def HoldsInput (session : Session) (token : String) (participant : Participant) : Prop :=
  ∃ held, session.participants.lookup token = some held ∧ participant.SameInput held

theorem holdsInput_reseat {other : String} {replaced replacement : Participant}
    (listed : session.participants.lookup other = some replaced)
    (same : other = token → replaced.SameInput replacement)
    (holds : session.HoldsInput token participant) :
    (session.reseat other replacement).HoldsInput token participant := by
  obtain ⟨held, found, kept⟩ := holds
  by_cases here : other = token
  · subst here
    cases listed.symm.trans found
    exact ⟨replacement, session.lookup_reseat_self other replacement,
      ⟨(same rfl).inputJson.trans kept.inputJson,
        (same rfl).inputSubmitted.trans kept.inputSubmitted⟩⟩
  · exact ⟨held, (AList.lookup_insert_ne (Ne.symm here)).trans found, kept⟩

theorem Step.holdsInput {actor : Actor} (step : session.Step env actor after)
    (submitted : participant.inputSubmitted = true) (holds : session.HoldsInput token participant) :
    after.HoldsInput token participant := by
  -- Only an unsubmitted record is given an input.
  have stores {other canonical : String} {replaced : Participant}
      (listed : session.participants.lookup other = some replaced)
      (unsubmitted : replaced.inputSubmitted = false) :
      (session.storeInput other replaced canonical).HoldsInput token participant := by
    refine holdsInput_reseat listed (fun here => ?_) holds
    obtain ⟨held, found, kept⟩ := holds
    rw [← here, listed] at found
    cases found
    rw [kept.inputSubmitted, submitted] at unsubmitted
    cases unsubmitted
  cases step with
  | same => exact holds
  | timeout now due => exact holds
  | spawnFailure what => exact holds
  | accept other replaced listed waiting missing =>
    exact holdsInput_reseat listed (fun _ => ⟨rfl, rfl⟩) holds
  | sealing now other replaced listed waiting full accepted =>
    have marked : (session.markAccepted other replaced).HoldsInput token participant :=
      holdsInput_reseat listed (fun _ => ⟨rfl, rfl⟩) holds
    exact marked
  | submit other inputJson canonical replaced listed unsubmitted waiting admitted missing =>
    exact stores listed unsubmitted
  | calculate now other inputJson canonical replaced listed unsubmitted waiting admitted complete =>
    exact stores listed unsubmitted
  | write now outcome waiting => cases outcome <;> exact holds

theorem Change.holdsInput (change : session.Change env after)
    (submitted : participant.inputSubmitted = true) (holds : session.HoldsInput token participant) :
    after.HoldsInput token participant := by
  cases change with
  | stepped step => exact step.holdsInput submitted holds
  | joined other clientNonce waiting unanswered newcomer =>
    obtain ⟨held, found, kept⟩ := holds
    refine ⟨held, ?_, kept⟩
    rw [lookup_addParticipant, if_neg, found]
    rintro rfl
    exact newcomer ((FlatHashMap.mem_iff_lookup _ _).mpr ⟨held, found⟩)

theorem changes_holdInput (changes : Relation.ReflTransGen (Session.Change env) session after)
    (submitted : participant.inputSubmitted = true) (holds : session.HoldsInput token participant) :
    after.HoldsInput token participant := by
  induction changes with
  | refl => exact holds
  | tail earlier change ih => exact change.holdsInput submitted ih

end Session

def Repeats (env : Environment) (inputJson stored : String) : Prop :=
  inputJson.utf8ByteSize ≤ kMaxInputBytes ∧
    ∃ value, parseJsonSafely env.json (utf8 inputJson) = .ok value ∧ env.json.dump value = stored

section Retry

variable {env : Environment} {inputJson stored : String}

theorem validateRetryPayload_ok_iff :
    validateRetryPayload env inputJson stored = .ok () ↔ Repeats env inputJson stored := by
  unfold validateRetryPayload Repeats
  by_cases large : inputJson.utf8ByteSize > kMaxInputBytes
  · simp [large, payloadTooLarge, refuse]
  · rw [if_neg large]
    cases parsed : parseJsonSafely env.json (utf8 inputJson) with
    | error failure => cases failure <;> simp [refuse]
    | ok value =>
      by_cases same : env.json.dump value = stored
      · simpa [same] using large
      · simp [same, refuse]

theorem validateRetryPayload_differs (small : inputJson.utf8ByteSize ≤ kMaxInputBytes) {value : Json}
    (parsed : parseJsonSafely env.json (utf8 inputJson) = .ok value)
    (different : env.json.dump value ≠ stored) :
    ∃ message, validateRetryPayload env inputJson stored = refuse .failedPrecondition message := by
  unfold validateRetryPayload
  rw [if_neg (not_lt.mpr small), parsed]
  simp [different]

theorem validateRetryPayload_invalid (stored : String)
    (invalid : inputJson.utf8ByteSize > kMaxInputBytes ∨
      ∃ status, parseJsonSafely env.json (utf8 inputJson) = .error (.status status)) :
    ∃ message, validateRetryPayload env inputJson stored = refuse .invalidArgument message := by
  unfold validateRetryPayload
  by_cases large : inputJson.utf8ByteSize > kMaxInputBytes
  · rw [if_pos large]
    exact ⟨_, rfl⟩
  · obtain ⟨status, refused⟩ := invalid.resolve_left large
    rw [if_neg large, refused]
    exact ⟨_, rfl⟩

end Retry

def Session.acknowledged (session : Session) : SubmitInputResponse where
  state := session.state
  remainingInputs := if session.state = .SEALED then session.remainingInputs else 0

theorem Session.submitInput_retry {env : Environment} (now : Int) (token inputJson : String)
    (session : Session) {participant : Participant} (submitted : participant.inputSubmitted = true) :
    session.submitInput env now token inputJson participant =
      (session, (validateRetryPayload env inputJson participant.inputJson).map fun _ =>
        .answered session.acknowledged) := by
  unfold submitInput retryInput answer acknowledged
  cases verdict : validateRetryPayload env inputJson participant.inputJson with
  | error failure => simp [submitted, Except.map]
  | ok accepted => by_cases waiting : session.state = .SEALED <;> simp [submitted, waiting, Except.map]

structure Retried (env : Environment) (system : System) (now : Int) (request : SubmitInputRequest)
    (id : String) (session : Session) (stored : String) : Prop where
  unchanged : (system.step env (.submitInput now request)).1 =
    { system with
      manager := system.manager.putSession id (session.checkAndEnforceTimeout env now) }
  accepted : (∃ response, (system.step env (.submitInput now request)).2 =
      .submitInput (.ok response)) ↔ Repeats env request.inputJson stored
  different : request.inputJson.utf8ByteSize ≤ kMaxInputBytes →
    ∀ value, parseJsonSafely env.json (utf8 request.inputJson) = .ok value →
      env.json.dump value ≠ stored →
        ∃ message, (system.step env (.submitInput now request)).2 =
          .submitInput (refuse .failedPrecondition message)
  invalid : (request.inputJson.utf8ByteSize > kMaxInputBytes ∨
      ∃ status, parseJsonSafely env.json (utf8 request.inputJson) = .error (.status status)) →
    ∃ message, (system.step env (.submitInput now request)).2 =
      .submitInput (refuse .invalidArgument message)

theorem System.submitInput_retry (env : Environment) {system : System} (running : system.alive = true)
    (now : Int) {request : SubmitInputRequest} {id : String} {session : Session}
    {participant : Participant}
    (known : system.manager.authenticate request.participantToken = .ok (id, session, participant))
    (submitted : participant.inputSubmitted = true) :
    system.step env (.submitInput now request) =
      ({ system with
          manager := system.manager.putSession id (session.checkAndEnforceTimeout env now) },
        .submitInput ((validateRetryPayload env request.inputJson participant.inputJson).map fun _ =>
          (session.checkAndEnforceTimeout env now).acknowledged)) := by
  simp only [System.step, running, if_true, System.perform, System.submitInput,
    SessionManager.submitInput, SessionManager.withSession, known,
    Session.submitInput_retry now _ _ _ submitted]
  cases validateRetryPayload env request.inputJson participant.inputJson <;> rfl

theorem System.retried {env : Environment} {system : System} (running : system.alive = true)
    (now : Int) {request : SubmitInputRequest} {id : String} {session : Session}
    {participant : Participant}
    (known : system.manager.authenticate request.participantToken = .ok (id, session, participant))
    (submitted : participant.inputSubmitted = true) :
    Retried env system now request id session participant.inputJson := by
  have step := submitInput_retry env running now known submitted
  constructor
  · rw [step]
  · rw [step, ← validateRetryPayload_ok_iff]
    cases validateRetryPayload env request.inputJson participant.inputJson <;> simp [Except.map]
  · intro small value parsed different
    obtain ⟨message, verdict⟩ := validateRetryPayload_differs small parsed different
    exact ⟨message, by rw [step, verdict]; rfl⟩
  · intro invalid
    obtain ⟨message, verdict⟩ := validateRetryPayload_invalid participant.inputJson invalid
    exact ⟨message, by rw [step, verdict]; rfl⟩

structure InputsFinal (env : Environment) (system : System) : Prop where
  final : ∀ id session token participant, system.manager.sessions.lookup id = some session →
    session.participants.lookup token = some participant → participant.inputSubmitted = true →
      ∀ actions later,
        ((machine env).after system actions).manager.sessions.lookup id = some later →
          later.HoldsInput token participant
  retried : system.alive = true → ∀ now request id session participant,
    system.manager.authenticate request.participantToken = .ok (id, session, participant) →
    participant.inputSubmitted = true →
      Retried env system now request id session participant.inputJson
  -- The step to `accepted` is a first submission; the request is made again later.
  resent : ∀ now request id session participant,
    system.manager.authenticate request.participantToken = .ok (id, session, participant) →
    participant.inputSubmitted = false →
    ∀ held accepted,
      (system.step env (.submitInput now request)).1.manager.sessions.lookup id = some held →
      held.participants.lookup request.participantToken = some accepted →
      accepted.inputSubmitted = true →
        ∀ actions later, later = (machine env).after
            (system.step env (.submitInput now request)).1 actions → later.alive = true →
          id ∈ later.manager.sessions →
            ∀ again, ∃ response,
              (later.step env (.submitInput again request)).2 = .submitInput (.ok response)

theorem Conforms.repeats {env : Environment} {schema inputJson canonical : String}
    (conforms : Conforms env schema inputJson canonical) : Repeats env inputJson canonical := by
  obtain ⟨value, parsed, rfl⟩ := conforms.parsed
  exact ⟨conforms.size, value, parsed, rfl⟩

theorem System.submitInput_accepted {env : Environment} (fresh : env.NeverRepeats) {system : System}
    (reachable : (machine env).Reachable system) {now : Int} {request : SubmitInputRequest}
    {id : String} {session held : Session} {participant accepted : Participant}
    (known : system.manager.authenticate request.participantToken = .ok (id, session, participant))
    (first : participant.inputSubmitted = false)
    (found : (system.step env (.submitInput now request)).1.manager.sessions.lookup id = some held)
    (listed : held.participants.lookup request.participantToken = some accepted)
    (submitted : accepted.inputSubmitted = true) :
    Repeats env request.inputJson accepted.inputJson := by
  by_cases running : system.alive = true
  · obtain ⟨after, later, stored, seated, -, conforms⟩ :=
      submitInput_first fresh reachable running now known first
    cases found.symm.trans stored
    cases listed.symm.trans seated
    exact (conforms submitted).repeats
  · -- A dead process stores nothing.
    obtain ⟨-, stored, seated⟩ := SessionManager.authenticate_ok known
    simp only [System.step, running] at found
    cases stored.symm.trans found
    cases seated.symm.trans listed
    rw [first] at submitted
    cases submitted

/-- A submitted input is final, and retries are recognised by content. -/
theorem inputs_final_of_reachable (env : Environment) (fresh : env.NeverRepeats) (system : System)
    (reachable : (machine env).Reachable system) : InputsFinal env system := by
  have sound := sound_of_reachable fresh reachable
  constructor
  · intro id session token participant stored listed submitted actions later found
    obtain ⟨held, kept, changes⟩ :=
      changes_after fresh reachable (sound.idsDrawn id session stored) actions found
    cases stored.symm.trans kept
    exact Session.changes_holdInput changes submitted ⟨participant, listed, rfl, rfl⟩
  · intro running now request id session participant known submitted
    exact System.retried running now known submitted
  · rintro now request id session participant known first held accepted found listed submitted actions
      later rfl running present again
    have stepped := reachable.step (.submitInput now request)
    have laterSound := sound_of_reachable fresh (stepped.after actions)
    obtain ⟨record, stored⟩ := (FlatHashMap.mem_iff_lookup _ _).mp present
    obtain ⟨kept, there, changes⟩ := changes_after fresh stepped
      ((sound_of_reachable fresh stepped).idsDrawn id held found) actions stored
    cases found.symm.trans there
    obtain ⟨seat, seated, same⟩ :=
      Session.changes_holdInput changes submitted ⟨accepted, listed, rfl, rfl⟩
    have known' := SessionManager.authenticate_listed laterSound.toIndexed stored seated
    have repeated : Repeats env request.inputJson seat.inputJson := by
      rw [same.inputJson]
      exact System.submitInput_accepted fresh reachable known first found listed submitted
    exact (System.retried running again known'
      (same.inputSubmitted.trans submitted)).accepted.mpr repeated

theorem calendar_inputs_final :
    ∃ system, system = (machine calendarEnv).after (machine calendarEnv).initial calendarSubmissions ∧
      (system.manager.sessions.lookup "a").bind
          (fun session => (session.participants.lookup "aa").map Participant.inputJson) =
        some "[1]" ∧
      InputsFinal calendarEnv system :=
  ⟨_, rfl, by decide +kernel, inputs_final_of_reachable calendarEnv (countingEnv_neverRepeats _) _
    ⟨_, rfl⟩⟩

end Ztab
