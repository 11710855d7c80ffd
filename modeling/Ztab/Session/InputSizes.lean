import Ztab.Json.Consumption
import Ztab.Session.Submissions
import Ztab.Tee.Validation

set_option autoImplicit false

/-!
# The size of stored inputs

SubmitInput measures the payload as it was received and stores it as the library dumps it. The
dump can be longer only where the payload spells a number that is kept as a double.
-/

namespace Ztab

namespace Session

variable {env : Environment} {session : Session} {token : String} {participant : Participant}
  {expected : String → Prop}

def InputsAre (session : Session) (expected : String → Prop) : Prop :=
  ∀ token participant, session.participants.lookup token = some participant →
    expected participant.inputJson

theorem InputsAre.reseat (inputs : session.InputsAre expected) (kept : expected participant.inputJson) :
    (session.reseat token participant).InputsAre expected := by
  intro other held found
  simp only [Session.reseat, FlatHashMap.lookup_insert_ite] at found
  split_ifs at found
  · cases found
    exact kept
  · exact inputs other held found

theorem inputsAre_newSession (nothing : expected "") {now : Int} {request : CreateSessionRequest}
    {policyDef : PolicyDefinition} {id creatorToken invitationToken : String} :
    (SessionManager.newSession now request policyDef id creatorToken invitationToken).InputsAre
      expected := by
  intro token participant listed
  simp only [SessionManager.newSession, FlatHashMap.lookup_insert_ite] at listed
  split_ifs at listed
  · cases listed
    exact nothing
  · cases listed

theorem InputsAre.checked (inputs : session.InputsAre expected) (now : Int) :
    (session.checkAndEnforceTimeout env now).InputsAre expected := by
  unfold InputsAre
  rw [checkAndEnforceTimeout_participants]
  exact inputs

theorem InputsAre.joined (inputs : session.InputsAre expected) (nothing : expected "")
    (clientNonce : String) : (session.join token clientNonce).1.InputsAre expected := by
  unfold join
  split
  · exact inputs
  · exact inputs
  · split_ifs
    · intro other held found
      change (session.addParticipant token clientNonce).participants.lookup other = some held at found
      rw [lookup_addParticipant] at found
      split_ifs at found
      · cases found
        exact nothing
      · exact inputs other held found
    · exact inputs

theorem InputsAre.accepted (inputs : session.InputsAre expected)
    (listed : session.participants.lookup token = some participant) (now : Int) :
    (session.acceptPolicy now token participant).1.InputsAre expected := by
  have marked : (session.markAccepted token participant).InputsAre expected :=
    inputs.reseat (inputs token participant listed)
  unfold acceptPolicy
  split_ifs
  · exact inputs
  · exact inputs
  · dsimp only
    split_ifs
    · exact marked
    · exact marked

theorem InputsAre.submitted (inputs : session.InputsAre expected) (now : Int) (inputJson : String)
    (stored : participant.inputSubmitted = false → session.state = .SEALED →
      ∀ canonical, Conforms env session.inputSchema inputJson canonical → expected canonical) :
    (session.submitInput env now token inputJson participant).1.InputsAre expected := by
  unfold submitInput
  split_ifs with closed submitted
  · rwa [retryInput_fst]
  · exact inputs
  · rwa [retryInput_fst]
  · cases admitted : session.admitInput env inputJson with
    | error failure => exact inputs
    | ok canonical =>
      have conforms := (admitInput_ok_iff inputJson canonical).mp admitted
      have filled : (session.storeInput token participant canonical).InputsAre expected :=
        inputs.reseat (stored (by simpa using ‹¬ participant.inputSubmitted = true›)
          (not_not.mp closed) canonical conforms)
      dsimp only
      split_ifs
      · exact filled
      · exact filled

-- One call on its session. Only a first submission in time stores a new text.
theorem InputsAre.call (inputs : session.InputsAre expected) (nothing : expected "")
    {fresh : Nat → String} {action : Action} {after : Session}
    (stored : ∀ now request participant, action = .submitInput now request →
      session.participants.lookup request.participantToken = some participant →
      participant.inputSubmitted = false → session.state = .SEALED → ¬ session.TimedOut env now →
        ∀ canonical, Conforms env session.inputSchema request.inputJson canonical →
          expected canonical)
    (record : (session.call env fresh action).record = some after) : after.InputsAre expected := by
  have answered {α : Type} {now : Int} {token : String}
      {body : Session → Participant → Session × Outcome α}
      (each : ∀ participant, session.participants.lookup token = some participant →
        (body (session.checkAndEnforceTimeout env now) participant).1.InputsAre expected) :
      (session.withParticipant env now token body).1.InputsAre expected := by
    obtain same | ⟨participant, listed, same⟩ := session.withParticipant_cases env now token body
    · rw [same]
      exact inputs
    · rw [same]
      exact each participant listed
  cases action with
  | joinSession now request =>
    cases record
    exact (inputs.checked now).joined nothing request.clientNonce
  | acceptPolicy now request =>
    cases record
    refine answered fun participant listed => (inputs.checked now).accepted ?_ now
    rwa [checkAndEnforceTimeout_participants]
  | submitInput now request =>
    simp only [Session.call, submitted_record, Option.some.injEq] at record
    rw [← record]
    refine answered fun participant listed => (inputs.checked now).submitted now _ ?_
    intro first waiting canonical conforms
    have intact := checkAndEnforceTimeout_sealed.mp waiting
    rw [session.checkAndEnforceTimeout_of_not_aborted env now (by simp [waiting])] at conforms
    exact stored now request participant rfl listed first intact.1 intact.2 canonical conforms
  | getResult now request =>
    cases record
    exact answered fun _ _ => inputs.checked now
  | getSessionStatus now request =>
    cases record
    exact answered fun _ _ => inputs.checked now
  | _ =>
    cases record
    exact inputs

theorem InputsAre.work {fresh : Nat → String} {before : Option Session} {after : Session}
    {phase : Phase} {action : Action}
    (inputs : ∀ session, before = some session → session.InputsAre expected)
    (record : (phase.work env fresh before action).record = some after) : after.InputsAre expected := by
  revert record
  fun_cases Phase.work env fresh before phase action
  case case2 what =>
    intro record
    obtain ⟨session, held, rfl⟩ := Option.map_eq_some_iff.mp record
    exact inputs session held
  case case6 outcome position now =>
    intro record
    obtain ⟨session, held, rfl⟩ := Option.map_eq_some_iff.mp record
    unfold Session.written
    split_ifs
    · cases outcome <;> exact inputs session held
    · exact inputs session held
  all_goals exact fun record => inputs after record

end Session

/-- A first submission in time of a payload that passes every check. -/
structure Accepts (env : Environment) (system : System) (now : Int) (request : SubmitInputRequest)
    (canonical : String) : Prop where
  running : system.alive = true
  first : ∃ id session participant,
    system.manager.authenticate request.participantToken = .ok (id, session, participant) ∧
    participant.inputSubmitted = false ∧ session.state = .SEALED ∧ ¬ session.TimedOut env now ∧
    Conforms env session.inputSchema request.inputJson canonical

namespace System

variable {env : Environment} {system : System} {expected : String → Prop}

def InputsAre (system : System) (expected : String → Prop) : Prop :=
  ∀ id session, system.manager.sessions.lookup id = some session → session.InputsAre expected

theorem InputsAre.step (fresh : env.NeverRepeats) (reachable : (machine env).Reachable system)
    (inputs : system.InputsAre expected) (nothing : expected "") (action : Action)
    (stored : ∀ now request canonical, action = .submitInput now request →
      Accepts env system now request canonical → expected canonical) :
    (system.step env action).1.InputsAre expected := by
  have sound := sound_of_reachable fresh reachable
  by_cases running : system.alive = true
  · intro id session found
    cases owner_of_reachable fresh reachable action with
    | call owner held resolved kept isolated =>
      by_cases here : id = owner
      · subst here
        rw [isolated.record] at found
        refine (inputs id held kept).call nothing ?_ found
        intro now request participant same listed first waiting timely canonical conforms
        have known := SessionManager.authenticate_listed sound.toIndexed kept listed
        exact stored now request canonical same
          ⟨running, id, held, participant, known, first, waiting, timely, conforms⟩
      · rw [isolated.records id here] at found
        exact inputs id session found
    | worker index thread own here isolated =>
      by_cases same : id = thread.session
      · subst same
        rw [isolated.record] at found
        exact Session.InputsAre.work (fun held kept => inputs _ held kept) found
      · rw [isolated.records id same] at found
        exact inputs id session found
    | create now request same manager =>
      rw [manager] at found
      obtain ⟨held, kept, swept⟩ | ⟨policyDef, -, -, rfl⟩ := SessionManager.createSession_origin found
      · obtain rfl := Session.swept_some swept
        exact (inputs id held kept).checked now
      · exact Session.inputsAre_newSession nothing
    | nobody same =>
      rw [same] at found
      exact inputs id session found
  · simpa [System.step, running] using inputs

end System

/--
What the library is relied on for: a text it accepts is read as the grammar reads it, and it is
dumped in canonical form, a double as `formatFloat` writes it.
-/
structure Nlohmann.Canonical (json : Nlohmann) (formatFloat : Binary64 → String) : Prop where
  reads : ∀ text tree, json.read text = .complete tree → Reader.read text = .complete tree
  dumps : ∀ value, json.dump value = Reader.compact formatFloat value

theorem Reader.library_canonical (formatFloat : Binary64 → String) :
    (Reader.library formatFloat).Canonical formatFloat := ⟨fun _ _ => id, fun _ => rfl⟩

structure Inflated (json : Nlohmann) (formatFloat : Binary64 → String) (text : Bytes) : Prop where
  double : ∃ literal ∈ (json.read text).numbers, ¬ literal.Whole
  exceeds : ∃ value, parseJsonSafely json text = .ok value ∧
    kMaxInputBytes < value.canonicalSize formatFloat

def StoresInflated (env : Environment) (formatFloat : Binary64 → String) (system : System)
    (action : Action) : Prop :=
  ∃ now request canonical, action = .submitInput now request ∧
    Accepts env system now request canonical ∧
      Inflated env.json formatFloat (utf8 request.inputJson)

section Size

variable {env : Environment} {formatFloat : Binary64 → String}

theorem length_utf8 (text : String) : (utf8 text).length = text.utf8ByteSize := by
  rfl

theorem parsed_size_le {json : Nlohmann} (canonical : json.Canonical formatFloat) {text : Bytes}
    {value : Json} (parsed : parseJsonSafely json text = .ok value)
    (whole : ∀ literal ∈ (json.read text).numbers, literal.Whole) :
    value.canonicalSize formatFloat ≤ text.length := by
  obtain ⟨tree, read, rfl⟩ := parseJsonSafely_ok parsed
  rw [read] at whole
  have limited := tree.toJson_limited kMaxJsonParseDepth 0 (Nat.zero_le _)
  rw [Nat.sub_zero] at limited
  calc
    _ ≤ tree.spelledSize := by
      rw [← limited]
      exact tree.canonicalSize_toJson_le formatFloat _ 0 whole
    _ ≤ text.length := Reader.spelledSize_of_read (canonical.reads text tree read)

theorem Conforms.size_le_iff (library : env.json.Canonical formatFloat)
    {schema inputJson canonical : String} (conforms : Conforms env schema inputJson canonical) :
    canonical.utf8ByteSize ≤ kMaxInputBytes ↔ ¬ Inflated env.json formatFloat (utf8 inputJson) := by
  obtain ⟨small, ⟨value, parsed, rfl⟩, -⟩ := conforms
  rw [library.dumps, compact_size]
  constructor
  · rintro within ⟨-, other, again, exceeds⟩
    cases parsed.symm.trans again
    omega
  · intro fits
    by_contra exceeds
    have whole : ∀ literal ∈ (env.json.read (utf8 inputJson)).numbers, literal.Whole := by
      by_contra double
      push Not at double
      exact fits ⟨double, value, parsed, not_le.mp exceeds⟩
    have size := parsed_size_le library parsed whole
    rw [length_utf8] at size
    omega

end Size

structure InputsCapped (env : Environment) (system : System) : Prop where
  stored : ∀ id session token participant, system.manager.sessions.lookup id = some session →
    session.participants.lookup token = some participant →
      participant.inputJson.utf8ByteSize ≤ kMaxInputBytes
  resent : system.alive = true → ∀ id session token participant,
    system.manager.sessions.lookup id = some session →
    session.participants.lookup token = some participant → participant.inputSubmitted = true →
      ∀ now, (system.step env (.submitInput now ⟨token, participant.inputJson⟩)).2 ≠
        .submitInput (payloadTooLarge participant.inputJson)

section Runs

variable {env : Environment} {formatFloat : Binary64 → String} {system : System}

theorem parseJsonSafely_message {json : Nlohmann} {text : Bytes} {status : Status}
    (refused : parseJsonSafely json text = .error (.status status)) :
    status.message.toList.head? = some 'J' := by
  rw [parseJsonSafely_eq] at refused
  split_ifs at refused
  · cases refused
  · split at refused
    next what met _ =>
      cases refused
      simp [String.toList_append]
    next => cases refused

theorem validateRetryPayload_small {α : Type} {inputJson : String}
    (small : inputJson.utf8ByteSize ≤ kMaxInputBytes) (stored : String) (respond : Unit → α) :
    (validateRetryPayload env inputJson stored).map respond ≠ payloadTooLarge inputJson := by
  unfold validateRetryPayload
  rw [if_neg (not_lt.mpr small)]
  cases parsed : parseJsonSafely env.json (utf8 inputJson) with
  | error failure =>
    cases failure with
    | status status =>
      intro same
      simp only [Except.map, payloadTooLarge, refuse, Except.error.injEq, Failure.status.injEq,
        Status.mk.injEq, true_and] at same
      have begins := parseJsonSafely_message parsed
      simp [same, String.toList_append] at begins
    | raised exception => simp [Except.map, payloadTooLarge, refuse]
  | ok value =>
    dsimp only
    split_ifs <;> simp [Except.map, payloadTooLarge, refuse]

theorem inputsCapped_iff (fresh : env.NeverRepeats) (reachable : (machine env).Reachable system) :
    InputsCapped env system ↔ system.InputsAre (fun text => text.utf8ByteSize ≤ kMaxInputBytes) := by
  constructor
  · intro capped id session kept token participant listed
    exact capped.stored id session token participant kept listed
  · intro inputs
    refine ⟨fun id session token participant kept listed =>
      inputs id session kept token participant listed, ?_⟩
    intro running id session token participant kept listed submitted now same
    have known := SessionManager.authenticate_listed (sound_of_reachable fresh reachable).toIndexed
      kept listed
    rw [System.submitInput_retry env running now known submitted] at same
    exact validateRetryPayload_small (inputs id session kept token participant listed) _ _
      (Reply.submitInput.inj same)

theorem InputsCapped.step (library : env.json.Canonical formatFloat) (fresh : env.NeverRepeats)
    (reachable : (machine env).Reachable system) (capped : InputsCapped env system) {action : Action}
    (fits : ¬ StoresInflated env formatFloat system action) :
    InputsCapped env (system.step env action).1 := by
  refine (inputsCapped_iff fresh (reachable.step action)).mpr ?_
  refine ((inputsCapped_iff fresh reachable).mp capped).step fresh reachable (by decide) action ?_
  rintro now request canonical rfl accepted
  obtain ⟨id, session, participant, -, -, -, -, conforms⟩ := accepted.first
  refine (conforms.size_le_iff library).mpr fun inflated => ?_
  exact fits ⟨now, request, canonical, rfl, accepted, inflated⟩

theorem StoresInflated.not_capped (library : env.json.Canonical formatFloat)
    (fresh : env.NeverRepeats) (reachable : (machine env).Reachable system) {action : Action}
    (inflates : StoresInflated env formatFloat system action) :
    ¬ InputsCapped env (system.step env action).1 := by
  obtain ⟨now, request, canonical, rfl, accepted, inflated⟩ := inflates
  obtain ⟨running, id, session, participant, known, first, waiting, timely, conforms⟩ := accepted
  obtain ⟨held, later, kept, listed, submitted, stored⟩ :=
    System.submitInput_first fresh reachable running now known first
  have conforms' := stored (submitted.mpr ⟨waiting, timely, canonical, conforms⟩)
  intro capped
  exact (conforms'.size_le_iff library).mp
    (capped.stored id held request.participantToken later kept listed) inflated

end Runs

/--
The stored inputs stay within the limit in every state of a run exactly when no accepted payload
of the run is inflated.
-/
theorem inputs_capped_iff_not_inflated (env : Environment) (formatFloat : Binary64 → String)
    (library : env.json.Canonical formatFloat) (fresh : env.NeverRepeats) (actions : List Action) :
    (∀ earlier later, actions = earlier ++ later →
        InputsCapped env ((machine env).after (machine env).initial earlier)) ↔
      (machine env).Allowed (fun system action => ¬ StoresInflated env formatFloat system action)
        (machine env).initial actions := by
  apply Machine.allowed_iff_always (machine env)
    (fun system => (machine env).Reachable system ∧ InputsCapped env system) (InputsCapped env)
  · rintro system action fits ⟨reachable, capped⟩
    exact ⟨reachable.step action, capped.step library fresh reachable fits⟩
  · exact fun system holds => holds.2
  · rintro system action ⟨reachable, -⟩ inflates
    exact (not_not.mp inflates).not_capped library fresh reachable
  · refine ⟨⟨[], rfl⟩, ?_⟩
    refine (inputsCapped_iff fresh ⟨[], rfl⟩).mpr ?_
    intro id session stored
    simp [machine] at stored

-- How the library writes a double without a fraction, up to 15 digits.
def formatWhole (value : Binary64) : String := toString value.truncate ++ ".0"

def wholeEnv : Environment := { calendarEnv with json := Reader.library formatWhole }

theorem wholeEnv_neverRepeats : wholeEnv.NeverRepeats :=
  countingEnv_neverRepeats (AList.insert "calendar" calendarPolicy ∅)

-- Every number of these payloads is kept as an integer.
theorem calendar_inputs_capped :
    ∃ system, system = (machine wholeEnv).after (machine wholeEnv).initial calendarSubmissions ∧
      (system.manager.sessions.lookup "a").bind
          (fun session => (session.participants.lookup "aa").map Participant.inputJson) =
        some "[1]" ∧
      InputsCapped wholeEnv system := by
  refine ⟨_, rfl, by decide +kernel, ?_⟩
  refine (inputs_capped_iff_not_inflated wholeEnv formatWhole (Reader.library_canonical formatWhole)
    wholeEnv_neverRepeats calendarSubmissions).mpr ?_ calendarSubmissions [] (List.append_nil _).symm
  rw [Machine.allowed_iff_splits]
  rintro earlier action later split ⟨now, request, canonical, rfl, -, ⟨literal, listed, double⟩, -⟩
  have member : Action.submitInput now request ∈ calendarSubmissions := by
    rw [split]
    simp
  simp only [calendarSubmissions, List.mem_cons, reduceCtorEq, false_or, List.not_mem_nil, or_false,
    Action.submitInput.injEq] at member
  have first : ∀ literal ∈ (Reader.read (utf8 "[1]")).numbers, literal.Whole := by decide +kernel
  have second : ∀ literal ∈ (Reader.read (utf8 "[2]")).numbers, literal.Whole := by decide +kernel
  rcases member with ⟨rfl, rfl⟩ | ⟨rfl, rfl⟩
  · exact double (first literal listed)
  · exact double (second literal listed)

def billionsRest : Nat → String
  | 0 => "1e9]"
  | count + 1 => "1e9," ++ billionsRest count

def billions (count : Nat) : String := "[" ++ billionsRest count

def billion : NumberLiteral where
  negative := false
  digits := 1
  power := 9
  integral := false

theorem billions_size (count : Nat) : (billions count).utf8ByteSize = 5 + 4 * count := by
  have opening : "[".utf8ByteSize = 1 := by decide
  rw [billions, String.utf8ByteSize_append, opening]
  induction count with
  | zero => decide
  | succ count ih =>
    have spelled : "1e9,".utf8ByteSize = 4 := by decide
    rw [billionsRest, String.utf8ByteSize_append, spelled]
    omega

namespace Reader

theorem bind_ok {α β : Type} {first : Read α} {next : α → Read β} {input middle : Input} {value : α}
    (ran : first input = .ok value middle) : (first >>= next) input = next value middle := by
  change EStateM.bind first next input = _
  rw [EStateM.bind, ran]

theorem elements_next (fuel : Nat) (met : List NumberLiteral) (rest : Bytes) :
    elements (fuel + 2) ⟨met, 0x31 :: 0x65 :: 0x39 :: 0x2C :: rest⟩ =
      (do return JsonText.number billion :: (← elements (fuel + 1)) : Read _) ⟨met ++ [billion], rest⟩ :=
  rfl

theorem elements_billions (count fuel : Nat) (met : List NumberLiteral) :
    ∃ after, elements (fuel + count + 2) ⟨met, utf8 (billionsRest count)⟩ =
      .ok (List.replicate (count + 1) (.number billion)) ⟨after, []⟩ := by
  induction count generalizing met with
  | zero => exact ⟨met ++ [billion], rfl⟩
  | succ count ih =>
    obtain ⟨after, tail⟩ := ih (met ++ [billion])
    have spelled : utf8 "1e9," = [0x31, 0x65, 0x39, 0x2C] := by decide
    refine ⟨after, ?_⟩
    rw [billionsRest, utf8_append, spelled]
    refine (elements_next (fuel + count + 1) met _).trans ?_
    exact bind_ok tail

theorem utf8_billionsRest (count : Nat) : ∃ rest, utf8 (billionsRest count) = 0x31 :: rest := by
  cases count with
  | zero => exact ⟨[0x65, 0x39, 0x5D], by decide⟩
  | succ count =>
    have spelled : utf8 "1e9," = [0x31, 0x65, 0x39, 0x2C] := by decide
    rw [billionsRest, utf8_append, spelled]
    exact ⟨_, rfl⟩

theorem read_billions (count : Nat) :
    read (utf8 (billions count)) =
      .complete (.array (List.replicate (count + 1) (.number billion))) := by
  have opening : utf8 "[" = [0x5B] := by decide
  have fuel : 2 * (utf8 (billions count)).length + 2 = (7 * count + 9) + count + 2 + 1 := by
    rw [length_utf8, billions_size]
    omega
  obtain ⟨after, listed⟩ := elements_billions count (7 * count + 9) []
  rw [read, fuel, billions, utf8_append, opening]
  obtain ⟨rest, spelled⟩ := utf8_billionsRest count
  rw [spelled] at listed ⊢
  have array : value ((7 * count + 9) + count + 2 + 1) ⟨[], 0x5B :: 0x31 :: rest⟩ =
      .ok (.array (List.replicate (count + 1) (.number billion))) ⟨after, []⟩ := by
    change (elements _ >>= fun listed => pure (JsonText.array listed)) ⟨[], 0x31 :: rest⟩ = _
    exact bind_ok listed
  have document : document ((7 * count + 9) + count + 2 + 1) ⟨[], 0x5B :: 0x31 :: rest⟩ =
      .ok (.array (List.replicate (count + 1) (.number billion))) ⟨after, []⟩ := by
    change (value _ >>= fun tree => do
      blanks
      if ((← peek).getD 0) = 0 then return tree else fail) ⟨[], 0x5B :: 0x31 :: rest⟩ = _
    exact bind_ok array
  simp only [List.singleton_append, document]

end Reader

def billionValue : Json := .float ⟨false, 8388608000000000, -23⟩

theorem elementNumbers_billions (count : Nat) :
    JsonText.elementNumbers (List.replicate count (.number billion)) = List.replicate count billion := by
  induction count with
  | zero => simp [JsonText.elementNumbers]
  | succ count ih => simp [List.replicate_succ, JsonText.elementNumbers, JsonText.numbers, ih]

theorem parse_billions (count : Nat) : parseJsonSafely wholeEnv.json (utf8 (billions count)) =
    .ok (.array (List.replicate (count + 1) billionValue)) := by
  have rounded : Binary64.ofDecimal false 1 9 = some ⟨false, 8388608000000000, -23⟩ := by
    decide +kernel
  have converts : billion.toJson? = some billionValue := by
    simp [NumberLiteral.toJson?, billion, rounded, billionValue]
  rw [parseJsonSafely_eq]
  have read : wholeEnv.json.read (utf8 (billions count)) = _ := Reader.read_billions count
  have met : (wholeEnv.json.read (utf8 (billions count))).numbers =
      List.replicate (count + 1) billion := by
    rw [read]
    simp only [Reading.numbers, JsonText.numbers, elementNumbers_billions]
  rw [if_neg]
  · rw [read]
    simp [JsonText.readAs, JsonText.toJson, converts, Json.clip, kMaxJsonParseDepth, billionValue]
  · rw [met]
    simp [NumberLiteral.overflows, converts]

theorem billionValues_size (count : Nat) :
    (Json.array (List.replicate (count + 1) billionValue)).canonicalSize formatWhole =
      14 + 13 * count := by
  have each : billionValue.canonicalSize formatWhole = 12 := by decide +kernel
  have elements : Json.elementsSize formatWhole (List.replicate (count + 1) billionValue) =
      13 * (count + 1) := by
    induction count with
    | zero => simp [Json.elementsSize, each]
    | succ count ih =>
      rw [List.replicate_succ, Json.elementsSize, ih, each]
      omega
  rw [Json.canonicalSize, elements]
  omega

theorem billions_inflated {count : Nat} (many : 5041 ≤ count) :
    Inflated wholeEnv.json formatWhole (utf8 (billions count)) := by
  refine ⟨⟨billion, ?_, fun whole => Bool.false_ne_true whole.1⟩, _, parse_billions count, ?_⟩
  · have read : wholeEnv.json.read (utf8 (billions count)) = _ := Reader.read_billions count
    simp [read, Reading.numbers, JsonText.numbers, elementNumbers_billions]
  · rw [billionValues_size, kMaxInputBytes]
    omega

def billionsRun (count : Nat) : List Action :=
  calendarSubmissions.take 3 ++ [.submitInput 0 ⟨"aa", billions count⟩]

theorem calendar_sealed : ∃ id session participant,
    ((machine wholeEnv).after (machine wholeEnv).initial
      (calendarSubmissions.take 3)).manager.authenticate "aa" = .ok (id, session, participant) ∧ participant.inputSubmitted = false ∧
      session.state = .SEALED ∧ ¬ session.TimedOut wholeEnv 0 ∧ session.inputSchema = "" := by
  refine ⟨_, _, _, rfl, ?_, ?_, ?_, ?_⟩
  · rfl
  · decide +kernel
  · decide +kernel
  · decide +kernel

theorem billions_not_capped {count : Nat} (many : 5041 ≤ count) (few : 5 + 4 * count ≤ kMaxInputBytes) :
    ¬ InputsCapped wholeEnv
      ((machine wholeEnv).after (machine wholeEnv).initial (billionsRun count)) := by
  obtain ⟨id, session, participant, known, first, waiting, timely, unchecked⟩ := calendar_sealed
  have running : ((machine wholeEnv).after (machine wholeEnv).initial
      (calendarSubmissions.take 3)).alive = true := by decide +kernel
  have conforms : Conforms wholeEnv session.inputSchema (billions count) _ :=
    ⟨(billions_size count).trans_le few, ⟨_, parse_billions count, rfl⟩,
      fun checked => absurd unchecked checked⟩
  have accepts : Accepts wholeEnv ((machine wholeEnv).after (machine wholeEnv).initial
      (calendarSubmissions.take 3)) 0 ⟨"aa", billions count⟩ _ :=
    ⟨running, id, session, participant, known, first, waiting, timely, conforms⟩
  rw [billionsRun, Machine.after_append]
  exact StoresInflated.not_capped (Reader.library_canonical formatWhole) wholeEnv_neverRepeats
    ⟨_, rfl⟩ ⟨_, _, _, rfl, accepts, billions_inflated many⟩

/-- A payload of 20169 bytes is accepted, and stored as a text of 65547 bytes. -/
theorem billions_outgrow_limit :
    (billions 5041).utf8ByteSize = 20169 ∧
      ¬ InputsCapped wholeEnv
        ((machine wholeEnv).after (machine wholeEnv).initial (billionsRun 5041)) :=
  ⟨billions_size 5041, billions_not_capped (by decide) (by decide)⟩

end Ztab
