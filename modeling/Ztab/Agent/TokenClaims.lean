import Ztab.Agent.Attestation
import Ztab.Agent.Base64url

set_option autoImplicit false

/-!
# The claims of accepted tokens

A token that the ITA verifier accepts makes every claim the verifier asks for, whatever types
its other members have; and where the types are those of the token format, the claims decide.
-/

namespace Ztab

namespace PyValue

def follow (value : PyValue) : List String → Option PyValue
  | [] => some value
  | key :: rest =>
    match value with
    | .dict entries => (find (py key) entries).bind fun inner => inner.follow rest
    | _ => Option.none

def Objects (value : PyValue) : List String → Prop
  | [] => True
  | key :: rest => ∃ entries, value = .dict entries ∧
      ∀ inner, find (py key) entries = some inner → inner.Objects rest

theorem follow_append (value : PyValue) (first second : List String) :
    value.follow (first ++ second) = (value.follow first).bind fun inner => inner.follow second := by
  induction first generalizing value with
  | nil => rfl
  | cons key rest ih =>
    cases value with
    | dict entries =>
      simp only [List.cons_append, follow]
      cases find (py key) entries with
      | none => rfl
      | some inner => exact ih inner
    | _ => rfl

theorem Objects.append {value : PyValue} (first : List String) {second : List String}
    (objects : value.Objects (first ++ second)) :
    value.Objects first ∧ ∀ inner, value.follow first = some inner → inner.Objects second := by
  induction first generalizing value with
  | nil =>
    refine ⟨trivial, ?_⟩
    intro inner found
    cases found
    exact objects
  | cons key rest ih =>
    obtain ⟨entries, rfl, inside⟩ := objects
    refine ⟨⟨entries, rfl, fun inner found => (ih (inside inner found)).1⟩, ?_⟩
    intro inner found
    obtain ⟨next, held, later⟩ := Option.bind_eq_some_iff.mp found
    exact (ih (inside next held)).2 inner later

theorem objects_empty (path : List String) : (PyValue.dict []).Objects path := by
  cases path with
  | nil => trivial
  | cons key rest => exact ⟨[], rfl, by simp [find]⟩

theorem getPath_cons (value default : PyValue) (key : String) {rest : List String}
    (more : rest ≠ []) :
    value.getPath default (key :: rest) =
      value.get key (.dict []) >>= fun inner => inner.getPath default rest := by
  cases rest with
  | nil => exact absurd rfl more
  | cons next others => rfl

theorem getPath_ok {value default found : PyValue} {path : List String} (nonempty : path ≠ [])
    (ok : value.getPath default path = .ok found) : found = (value.follow path).getD default := by
  induction path generalizing value with
  | nil => exact absurd rfl nonempty
  | cons key rest ih =>
    cases value with
    | dict entries =>
      cases rest with
      | nil =>
        simp only [getPath, get, Except.ok.injEq] at ok
        rw [← ok]
        cases entry : find (py key) entries <;> simp [follow, entry]
      | cons next others =>
        obtain ⟨inner, step, ok⟩ := Effect.bind_eq_ok.mp ok
        simp only [get, Except.ok.injEq] at step
        have later := ih (by simp) ok
        cases entry : find (py key) entries with
        | none =>
          simp only [entry, Option.getD_none] at step
          subst step
          rw [later]
          simp [follow, entry, find]
        | some held =>
          simp only [entry, Option.getD_some] at step
          subst step
          rw [later]
          simp only [follow, entry, Option.bind_some]
    | _ =>
      cases rest with
      | nil => cases ok
      | cons next others => cases ok

theorem getPath_present {value default found : PyValue} {path : List String} (nonempty : path ≠ [])
    (ok : value.getPath default path = .ok found) (other : found ≠ default) :
    value.follow path = some found := by
  have same := getPath_ok nonempty ok
  cases held : value.follow path with
  | none =>
    rw [held] at same
    exact absurd same other
  | some inner =>
    rw [held] at same
    exact congrArg some same.symm

theorem getPath_objects {value : PyValue} (default : PyValue) {path : List String}
    (nonempty : path ≠ []) (objects : value.Objects path) :
    value.getPath default path = .ok ((value.follow path).getD default) := by
  induction path generalizing value with
  | nil => exact absurd rfl nonempty
  | cons key rest ih =>
    obtain ⟨entries, rfl, inside⟩ := objects
    cases rest with
    | nil => cases entry : find (py key) entries <;> simp [getPath, get, follow, entry]
    | cons next others =>
      rw [getPath_cons _ _ _ (by simp)]
      cases entry : find (py key) entries with
      | none =>
        simp only [get, entry, Option.getD_none, bind, Except.bind]
        rw [ih (by simp) (objects_empty _)]
        simp [follow, entry, find]
      | some inner =>
        simp only [get, entry, Option.getD_some, bind, Except.bind]
        rw [ih (by simp) (inside inner entry)]
        simp only [follow, entry, Option.bind_some]

theorem getPath_member {value default held : PyValue} {key : String}
    (found : value.follow [key] = some held) : value.getPath default [key] = .ok held := by
  cases value with
  | dict entries =>
    cases entry : find (py key) entries <;> simp_all [getPath, get, follow]
  | _ => cases found

theorem same_str_iff {value : PyValue} {text : PyStr} :
    value.same (.str text) = true ↔ value = .str text := by
  cases value <;> simp [same, sameNumber, ratio]

theorem eq_str_iff {value : PyValue} {text : PyStr} :
    value.eq (.str text) = true ↔ value = .str text := by
  cases value <;> simp [eq, isNan, same, sameNumber, ratio]

theorem memberOf_texts {value : PyValue} {elements : List PyValue}
    (texts : ∀ element ∈ elements, ∃ text, element = .str text) :
    value.memberOf elements = true ↔ value ∈ elements := by
  unfold memberOf
  rw [List.any_eq_true]
  constructor
  · rintro ⟨element, listed, same⟩
    obtain ⟨text, rfl⟩ := texts element listed
    rw [same_str_iff.mp same]
    exact listed
  · intro listed
    obtain ⟨text, rfl⟩ := texts value listed
    exact ⟨.str text, listed, same_str_iff.mpr rfl⟩

theorem inSet_texts {value : PyValue} {elements : List PyValue}
    (texts : ∀ element ∈ elements, ∃ text, element = .str text) :
    value.inSet elements = .ok true ↔ value ∈ elements := by
  unfold inSet hash
  constructor
  · intro member
    split at member
    · exact (memberOf_texts texts).mp (Except.ok.inj member)
    · cases member
  · intro listed
    obtain ⟨text, rfl⟩ := texts value listed
    simp [hashable, bind, Except.bind, pure, Except.pure, (memberOf_texts texts).mpr listed]

end PyValue

namespace Ita

structure Conforms (python : Python) (crypto : Cryptography) (policy : ItaPolicy)
    (claims : PyValue) (certPem : Bytes) : Prop where
  iss : claims.follow ["iss"] = some (.str (py itaIssuer))
  hwmodel : claims.follow ["hwmodel"] = some (.str (py expectedHwmodel))
  swname : claims.follow ["swname"] = some (.str (py expectedSwname))
  cvmCompliance : claims.follow ["tdx", "cvm_compliance_status"] =
    some (.str (py expectedCvmCompliance))
  secboot : claims.follow ["secboot"] = some (.bool true)
  dbgstat : ∃ state ∈ acceptedDbgStates policy, claims.follow ["dbgstat"] = some (.str (py state))
  -- An attribute is an element of the list, or what else `in` finds in a value of another type.
  supportAttributes : policy.allowDebug.truthy = false → ∀ attrs,
    claims.follow ["submods", "confidential_space", "support_attributes"] = some attrs →
      attrs.contains (py "DEBUG") ≠ .ok true
  monitoring : policy.allowMemoryMonitoring.truthy = false →
    claims.follow ["submods", "confidential_space", "monitoring_enabled", "memory"] ≠
      some (.bool true)
  swversion : ∃ held, claims.follow ["swversion"] = some held ∧
    ∃ version ∈ swversionEntries held, ∃ parsed,
      python.intOfText (python.str version) = .ok parsed ∧ policy.minCsVersion ≤ parsed
  keyBinding : ∃ hash, computePubkeyHashB64url crypto certPem = .ok hash ∧
    ∃ nonce, claims.follow ["eat_nonce"] = some nonce ∧
      (nonce = .str hash ∨ ∃ others, nonce = .list (.str hash :: others))
  imageDigest : ∃ digest ∈ policy.expectedImageDigests,
    claims.follow ["submods", "container", "image_digest"] = some digest

structure Identified (policy : ItaPolicy) (claims : PyValue) : Prop where
  projectId : policy.expectedProjectId.truthy = true → ∃ pid,
    claims.follow ["submods", "gce", "project_id"] = some pid ∧
      pid.eq policy.expectedProjectId = true
  serviceAccount : policy.expectedServiceAccount.truthy = true → ∃ accounts,
    claims.follow ["google_service_accounts"] = some (.list accounts) ∧
      policy.expectedServiceAccount.memberOf accounts = true

/-- Objects and lists where the token format has them; the other members may be anything. -/
structure TokenTyped (claims : PyValue) : Prop where
  object : ∃ entries, claims = .dict entries
  objects : ∀ path ∈ [["tdx", "cvm_compliance_status"],
      ["submods", "confidential_space", "support_attributes"],
      ["submods", "confidential_space", "monitoring_enabled", "memory"],
      ["submods", "container", "image_digest"], ["submods", "gce", "project_id"]],
    claims.Objects path
  lists : ∀ path ∈ [["submods", "confidential_space", "support_attributes"],
      ["google_service_accounts"]], ∀ held,
    claims.follow path = some held → ∃ elements, held = .list elements

theorem inTurn_true_iff (checks : List (Except PyException Bool)) :
    inTurn checks = .ok true ↔ ∀ check ∈ checks, check = .ok true := by
  induction checks with
  | nil => simp [inTurn]
  | cons check rest ih =>
    simp only [inTurn, List.forall_mem_cons, ← ih]
    split
    next => simp
    next other =>
      constructor
      · intro passed
        exact absurd passed other
      · rintro ⟨passed, -⟩
        exact absurd passed other

section Checks

variable {python : Python} {crypto : Cryptography} {policy : ItaPolicy} {claims : PyValue}
  {certPem : Bytes}

theorem TokenTyped.member (typed : TokenTyped claims) (key : String) : claims.Objects [key] := by
  obtain ⟨entries, rfl⟩ := typed.object
  exact ⟨entries, rfl, fun _ _ => trivial⟩

theorem expectText_sound {path : List String} {expected : String} (some_ : path ≠ [])
    (nonempty : py expected ≠ []) (passed : expectText claims path expected = .ok true) :
    claims.follow path = some (.str (py expected)) := by
  obtain ⟨actual, found, equal⟩ := Effect.bind_eq_ok.mp passed
  have same := PyValue.eq_str_iff.mp (Except.ok.inj equal)
  subst same
  exact PyValue.getPath_present some_ found (by simpa using nonempty)

theorem expectText_complete {path : List String} {expected : String} (some_ : path ≠ [])
    (objects : claims.Objects path) (held : claims.follow path = some (.str (py expected))) :
    expectText claims path expected = .ok true := by
  have found := PyValue.getPath_objects (.str []) some_ objects
  rw [held] at found
  simp [expectText, found, bind, Except.bind, pure, Except.pure, PyValue.eq_str_iff]

theorem verifySecboot_sound (passed : verifySecboot claims = .ok true) :
    claims.follow ["secboot"] = some (.bool true) := by
  obtain ⟨secboot, found, enabled⟩ := Effect.bind_eq_ok.mp passed
  have boolean : secboot = .bool true := by
    cases secboot <;> simp_all [PyValue.isTrue, pure, Except.pure]
  subst boolean
  exact PyValue.getPath_present (by simp) found (by simp)

theorem verifySecboot_complete (typed : TokenTyped claims)
    (enabled : claims.follow ["secboot"] = some (.bool true)) : verifySecboot claims = .ok true := by
  have found := PyValue.getPath_objects (.bool false) (by simp) (typed.member "secboot")
  rw [enabled] at found
  simp [verifySecboot, found, bind, Except.bind, pure, Except.pure, PyValue.isTrue]

theorem acceptedDbgStates_texts (policy : ItaPolicy) :
    ∀ element ∈ (acceptedDbgStates policy).map fun state => PyValue.str (py state),
      ∃ text, element = .str text := by
  intro element listed
  obtain ⟨state, -, rfl⟩ := List.mem_map.mp listed
  exact ⟨_, rfl⟩

theorem verifyDbgstat_sound (passed : verifyDbgstat claims policy = .ok true) :
    ∃ state ∈ acceptedDbgStates policy, claims.follow ["dbgstat"] = some (.str (py state)) := by
  obtain ⟨dbgstat, found, member⟩ := Effect.bind_eq_ok.mp passed
  have listed := (PyValue.inSet_texts (acceptedDbgStates_texts policy)).mp member
  obtain ⟨state, accepted, rfl⟩ := List.mem_map.mp listed
  refine ⟨state, accepted, PyValue.getPath_present (by simp) found ?_⟩
  rw [ne_eq, PyValue.str.injEq]
  unfold acceptedDbgStates validDbgStates at accepted
  split at accepted <;> simp only [List.mem_cons, List.not_mem_nil, or_false] at accepted
  · obtain rfl | rfl | rfl := accepted <;> decide
  · obtain rfl | rfl := accepted <;> decide

theorem verifyDbgstat_complete (typed : TokenTyped claims)
    (accepted : ∃ state ∈ acceptedDbgStates policy,
      claims.follow ["dbgstat"] = some (.str (py state))) :
    verifyDbgstat claims policy = .ok true := by
  obtain ⟨state, listed, held⟩ := accepted
  have found := PyValue.getPath_objects (.str []) (by simp) (typed.member "dbgstat")
  rw [held] at found
  have member := (PyValue.inSet_texts (acceptedDbgStates_texts policy)).mpr
    (List.mem_map.mpr ⟨state, listed, rfl⟩)
  unfold verifyDbgstat
  rw [found]
  exact member

theorem verifySupportAttributes_sound (passed : verifySupportAttributes claims policy = .ok true)
    (guarded : policy.allowDebug.truthy = false) (attrs : PyValue)
    (held : claims.follow ["submods", "confidential_space", "support_attributes"] = some attrs) :
    attrs.contains (py "DEBUG") ≠ .ok true := by
  simp only [verifySupportAttributes, guarded, Bool.false_eq_true, if_false] at passed
  obtain ⟨listed, found, absent⟩ := Effect.bind_eq_ok.mp passed
  obtain ⟨present, contained, absent⟩ := Effect.bind_eq_ok.mp absent
  have same := PyValue.getPath_ok (by simp) found
  rw [held, Option.getD_some] at same
  subst same
  rw [contained]
  intro debug
  cases Except.ok.inj debug
  cases absent

theorem verifySupportAttributes_complete (typed : TokenTyped claims)
    (absent : policy.allowDebug.truthy = false → ∀ attrs,
      claims.follow ["submods", "confidential_space", "support_attributes"] = some attrs →
        attrs.contains (py "DEBUG") ≠ .ok true) :
    verifySupportAttributes claims policy = .ok true := by
  unfold verifySupportAttributes
  split
  next => rfl
  next guarded =>
    have found := PyValue.getPath_objects (.list []) (by simp) (typed.objects _
      (by simp : ["submods", "confidential_space", "support_attributes"] ∈ _))
    rw [found]
    cases held : claims.follow ["submods", "confidential_space", "support_attributes"] with
    | none => rfl
    | some attrs =>
      obtain ⟨elements, rfl⟩ := typed.lists _
        (by simp : ["submods", "confidential_space", "support_attributes"] ∈ _) attrs held
      have missing := absent (Bool.eq_false_iff.mpr guarded) _ held
      cases contained : PyValue.memberOf (.str (py "DEBUG")) elements with
      | true => exact absurd (congrArg Except.ok contained) missing
      | false =>
        simp [PyValue.contains, contained, bind, Except.bind, pure, Except.pure]

theorem follow_memory (claims : PyValue) :
    claims.follow ["submods", "confidential_space", "monitoring_enabled", "memory"] =
      (claims.follow ["submods", "confidential_space"]).bind fun cs =>
        cs.follow ["monitoring_enabled", "memory"] :=
  claims.follow_append ["submods", "confidential_space"] ["monitoring_enabled", "memory"]

theorem verifyMonitoring_sound (passed : verifyMonitoring claims policy = .ok true)
    (guarded : policy.allowMemoryMonitoring.truthy = false) :
    claims.follow ["submods", "confidential_space", "monitoring_enabled", "memory"] ≠
      some (.bool true) := by
  obtain ⟨cs, found, passed⟩ := Effect.bind_eq_ok.mp passed
  simp only [guarded, Bool.false_eq_true, if_false] at passed
  obtain ⟨memory, looked, off⟩ := Effect.bind_eq_ok.mp passed
  have space := PyValue.getPath_ok (by simp) found
  have value := PyValue.getPath_ok (by simp) looked
  intro on
  rw [follow_memory] at on
  obtain ⟨inner, there, enabled⟩ := Option.bind_eq_some_iff.mp on
  rw [there, Option.getD_some] at space
  subst space
  rw [enabled, Option.getD_some] at value
  subst value
  cases off

theorem verifyMonitoring_complete (typed : TokenTyped claims)
    (off : policy.allowMemoryMonitoring.truthy = false →
      claims.follow ["submods", "confidential_space", "monitoring_enabled", "memory"] ≠
        some (.bool true)) :
    verifyMonitoring claims policy = .ok true := by
  obtain ⟨outer, inner⟩ := PyValue.Objects.append ["submods", "confidential_space"]
    (typed.objects ["submods", "confidential_space", "monitoring_enabled", "memory"] (by simp))
  have found := PyValue.getPath_objects (.dict []) (by simp) outer
  unfold verifyMonitoring
  rw [found]
  cases guarded : policy.allowMemoryMonitoring.truthy with
  | true => rfl
  | false =>
    have disabled := off guarded
    rw [follow_memory] at disabled
    cases held : claims.follow ["submods", "confidential_space"] with
    | none => rfl
    | some cs =>
      have looked := PyValue.getPath_objects .none (by simp) (inner cs held)
      rw [held, Option.bind_some] at disabled
      simp only [Option.getD_some, bind, Except.bind, looked, Bool.false_eq_true, if_false]
      cases memory : cs.follow ["monitoring_enabled", "memory"] with
      | none => rfl
      | some value =>
        rw [memory] at disabled
        have other : value.isTrue = false := by
          cases value with
          | bool on => cases on <;> simp_all [PyValue.isTrue]
          | _ => rfl
        simp [other, pure, Except.pure]

theorem verifySwversion_eq (required : 0 < policy.minCsVersion) :
    verifySwversion python claims policy =
      (claims.getPath (.list []) ["swversion"]).map fun held =>
        (swversionEntries held).any (meetsMinimum python policy.minCsVersion) := by
  have nonzero : policy.minCsVersion ≠ 0 := by omega
  simp only [verifySwversion, nonzero, ne_eq, not_false_eq_true, if_true]
  rfl

theorem meetsMinimum_iff {minimum : Int} {version : PyValue} :
    meetsMinimum python minimum version = true ↔
      ∃ parsed, python.intOfText (python.str version) = .ok parsed ∧ minimum ≤ parsed := by
  unfold meetsMinimum
  split <;> simp_all

theorem verifySwversion_sound (required : 0 < policy.minCsVersion)
    (passed : verifySwversion python claims policy = .ok true) :
    ∃ held, claims.follow ["swversion"] = some held ∧
      ∃ version ∈ swversionEntries held, ∃ parsed,
        python.intOfText (python.str version) = .ok parsed ∧ policy.minCsVersion ≤ parsed := by
  rw [verifySwversion_eq required] at passed
  cases found : claims.getPath (.list []) ["swversion"] with
  | error raised =>
    rw [found] at passed
    cases passed
  | ok held =>
    rw [found] at passed
    obtain ⟨version, listed, enough⟩ := List.any_eq_true.mp (Except.ok.inj passed)
    have given : held ≠ .list [] := by
      rintro rfl
      cases listed
    exact ⟨held, PyValue.getPath_present (by simp) found given, version, listed,
      meetsMinimum_iff.mp enough⟩

theorem verifySwversion_complete (typed : TokenTyped claims) (required : 0 < policy.minCsVersion)
    (meets : ∃ held, claims.follow ["swversion"] = some held ∧
      ∃ version ∈ swversionEntries held, ∃ parsed,
        python.intOfText (python.str version) = .ok parsed ∧ policy.minCsVersion ≤ parsed) :
    verifySwversion python claims policy = .ok true := by
  obtain ⟨held, there, version, listed, enough⟩ := meets
  have found := PyValue.getPath_objects (.list []) (by simp) (typed.member "swversion")
  have passed : (swversionEntries held).any (meetsMinimum python policy.minCsVersion) = true :=
    List.any_eq_true.mpr ⟨version, listed, meetsMinimum_iff.mpr enough⟩
  rw [verifySwversion_eq required, found, there]
  exact congrArg Except.ok passed

theorem verifyKeyBinding_sound (passed : verifyKeyBinding crypto claims certPem = .ok true) :
    ∃ hash, computePubkeyHashB64url crypto certPem = .ok hash ∧
      ∃ nonce, claims.follow ["eat_nonce"] = some nonce ∧
        (nonce = .str hash ∨ ∃ others, nonce = .list (.str hash :: others)) := by
  obtain ⟨nonce, found, passed⟩ := Effect.bind_eq_ok.mp passed
  split at passed
  next => cases passed
  next given =>
    obtain ⟨hash, computed, equal⟩ := Effect.bind_eq_ok.mp passed
    have bound := PyValue.eq_str_iff.mp (Except.ok.inj equal)
    have present : nonce ≠ .str [] := by
      rintro rfl
      exact given rfl
    refine ⟨hash, computed, nonce, PyValue.getPath_present (by simp) found present, ?_⟩
    cases nonce with
    | list elements =>
      cases elements with
      | nil => exact absurd rfl given
      | cons first others =>
        right
        exact ⟨others, congrArg (fun head => PyValue.list (head :: others)) bound⟩
    | _ => exact .inl bound

-- A nonce that is written is compared with the hash of the key, alone or first in a list.
theorem verifyKeyBinding_eq {held : PyValue} {text hash : PyStr}
    (present : claims.follow ["eat_nonce"] = some held)
    (shape : held = .str text ∨ ∃ others, held = .list (.str text :: others)) (written : text ≠ [])
    (computed : computePubkeyHashB64url crypto certPem = .ok hash) :
    verifyKeyBinding crypto claims certPem = .ok (decide (text = hash)) := by
  have found : claims.getPath (.str []) ["eat_nonce"] = .ok held := PyValue.getPath_member present
  have both : held.truthy = true ∧ nonceValue held = .str text := by
    obtain rfl | ⟨others, rfl⟩ := shape
    · simp [PyValue.truthy, nonceValue, written]
    · simp [PyValue.truthy, nonceValue]
  have compared : (PyValue.str text).eq (.str hash) = decide (text = hash) := by
    simp [PyValue.eq, PyValue.isNan, PyValue.same]
  unfold verifyKeyBinding
  simp [bind, Except.bind, found, both.1, both.2, computed, compared, pure, Except.pure]

theorem computePubkeyHashB64url_nonempty {hash : PyStr}
    (computed : computePubkeyHashB64url crypto certPem = .ok hash) : hash ≠ [] := by
  obtain ⟨der, -, made⟩ := Effect.bind_eq_ok.mp computed
  rw [← Except.ok.inj made]
  apply base64urlEncodeNopad_nonempty
  intro empty
  simpa [empty] using crypto.digestSize der

theorem verifyKeyBinding_complete
    (bound : ∃ hash, computePubkeyHashB64url crypto certPem = .ok hash ∧
      ∃ nonce, claims.follow ["eat_nonce"] = some nonce ∧
        (nonce = .str hash ∨ ∃ others, nonce = .list (.str hash :: others))) :
    verifyKeyBinding crypto claims certPem = .ok true := by
  obtain ⟨hash, computed, nonce, held, shape⟩ := bound
  rw [verifyKeyBinding_eq held shape (computePubkeyHashB64url_nonempty computed) computed]
  simp

theorem verifyImageDigest_sound
    (digests : ∀ digest ∈ policy.expectedImageDigests, ∃ text, digest = .str text)
    (passed : verifyImageDigest claims policy = .ok true) :
    ∃ digest ∈ policy.expectedImageDigests,
      claims.follow ["submods", "container", "image_digest"] = some digest := by
  obtain ⟨digest, found, passed⟩ := Effect.bind_eq_ok.mp passed
  split at passed
  next => cases passed
  next given =>
    have listed := (PyValue.inSet_texts digests).mp passed
    have present : digest ≠ .str [] := by
      rintro rfl
      exact given rfl
    exact ⟨digest, listed, PyValue.getPath_present (by simp) found present⟩

theorem verifyImageDigest_complete (typed : TokenTyped claims)
    (digests : ∀ digest ∈ policy.expectedImageDigests,
      ∃ text, digest = .str text ∧ ItaPolicy.digestPrefix <+: text)
    (listed : ∃ digest ∈ policy.expectedImageDigests,
      claims.follow ["submods", "container", "image_digest"] = some digest) :
    verifyImageDigest claims policy = .ok true := by
  obtain ⟨digest, member, held⟩ := listed
  obtain ⟨text, rfl, prefixed⟩ := digests digest member
  have found := PyValue.getPath_objects (.str []) (by simp)
    (typed.objects ["submods", "container", "image_digest"] (by simp))
  have given : (PyValue.str text).truthy = true := by
    cases text with
    | nil => exact absurd (List.prefix_nil.mp prefixed) (by decide)
    | cons point rest => rfl
  have passed := (PyValue.inSet_texts (fun other among =>
    (digests other among).imp fun _ both => both.1)).mpr member
  unfold verifyImageDigest
  rw [found, held]
  simp only [bind, Except.bind, Option.getD_some, given, Bool.true_eq_false, if_false]
  exact passed

theorem verifyProjectId_iff (typed : TokenTyped claims) :
    verifyProjectId claims policy = .ok true ↔
      (policy.expectedProjectId.truthy = true → ∃ pid,
        claims.follow ["submods", "gce", "project_id"] = some pid ∧
          pid.eq policy.expectedProjectId = true) := by
  have found := PyValue.getPath_objects (.str []) (by simp)
    (typed.objects ["submods", "gce", "project_id"] (by simp))
  unfold verifyProjectId
  cases asked : policy.expectedProjectId.truthy with
  | false => simp
  | true =>
    simp only [if_true, found, bind, Except.bind, pure, Except.pure, Except.ok.injEq, true_implies]
    cases held : claims.follow ["submods", "gce", "project_id"] with
    | some pid => simp
    | none =>
      have different : (PyValue.str []).eq policy.expectedProjectId = false := by
        cases expected : policy.expectedProjectId <;>
          simp_all [PyValue.eq, PyValue.same, PyValue.isNan, PyValue.sameNumber, PyValue.ratio,
            PyValue.truthy]
      simp [different]

theorem verifyServiceAccount_iff (typed : TokenTyped claims) :
    verifyServiceAccount claims policy = .ok true ↔
      (policy.expectedServiceAccount.truthy = true → ∃ accounts,
        claims.follow ["google_service_accounts"] = some (.list accounts) ∧
          policy.expectedServiceAccount.memberOf accounts = true) := by
  have found := PyValue.getPath_objects (.list []) (by simp) (typed.member "google_service_accounts")
  unfold verifyServiceAccount
  cases asked : policy.expectedServiceAccount.truthy with
  | false => simp
  | true =>
    simp only [if_true, found, bind, Except.bind, true_implies]
    cases held : claims.follow ["google_service_accounts"] with
    | none => simp [PyValue.containsValue, PyValue.memberOf]
    | some value =>
      obtain ⟨accounts, rfl⟩ := typed.lists ["google_service_accounts"] (by simp) value held
      simp [PyValue.containsValue]

theorem verifyClaims_true_iff :
    verifyClaims python crypto policy claims certPem = .ok true ↔
      expectText claims ["iss"] itaIssuer = .ok true ∧
      expectText claims ["hwmodel"] expectedHwmodel = .ok true ∧
      verifySecboot claims = .ok true ∧ verifyDbgstat claims policy = .ok true ∧
      verifySupportAttributes claims policy = .ok true ∧
      expectText claims ["swname"] expectedSwname = .ok true ∧
      expectText claims ["tdx", "cvm_compliance_status"] expectedCvmCompliance = .ok true ∧
      verifyMonitoring claims policy = .ok true ∧
      verifySwversion python claims policy = .ok true ∧
      verifyKeyBinding crypto claims certPem = .ok true ∧
      verifyImageDigest claims policy = .ok true ∧
      verifyProjectId claims policy = .ok true ∧ verifyServiceAccount claims policy = .ok true := by
  simp only [verifyClaims, verifyIssuer, verifyHwClaims, verifyPlatformIdentity,
    verifyContainerIdentity, inTurn_true_iff, List.forall_mem_cons, List.not_mem_nil,
    false_implies, implies_true, and_true, and_assoc]

theorem conforms_of_verified (required : 0 < policy.minCsVersion)
    (digests : ∀ digest ∈ policy.expectedImageDigests, ∃ text, digest = .str text)
    (passed : verifyClaims python crypto policy claims certPem = .ok true) :
    Conforms python crypto policy claims certPem := by
  obtain ⟨iss, hwmodel, secboot, dbgstat, attributes, swname, cvm, monitoring, swversion, binding,
    digest, -, -⟩ := verifyClaims_true_iff.mp passed
  exact
    { iss := expectText_sound (by simp) (by decide) iss
      hwmodel := expectText_sound (by simp) (by decide) hwmodel
      swname := expectText_sound (by simp) (by decide) swname
      cvmCompliance := expectText_sound (by simp) (by decide) cvm
      secboot := verifySecboot_sound secboot
      dbgstat := verifyDbgstat_sound dbgstat
      supportAttributes := verifySupportAttributes_sound attributes
      monitoring := verifyMonitoring_sound monitoring
      swversion := verifySwversion_sound required swversion
      keyBinding := verifyKeyBinding_sound binding
      imageDigest := verifyImageDigest_sound digests digest }

theorem verified_of_conforms (typed : TokenTyped claims) (required : 0 < policy.minCsVersion)
    (digests : ∀ digest ∈ policy.expectedImageDigests,
      ∃ text, digest = .str text ∧ ItaPolicy.digestPrefix <+: text)
    (conforms : Conforms python crypto policy claims certPem) (identified : Identified policy claims) :
    verifyClaims python crypto policy claims certPem = .ok true := by
  have text (key expected : String) (held : claims.follow [key] = some (.str (py expected))) :=
    expectText_complete (by simp) (typed.member key) held
  exact verifyClaims_true_iff.mpr ⟨text _ _ conforms.iss, text _ _ conforms.hwmodel,
    verifySecboot_complete typed conforms.secboot, verifyDbgstat_complete typed conforms.dbgstat,
    verifySupportAttributes_complete typed conforms.supportAttributes, text _ _ conforms.swname,
    expectText_complete (by simp) (typed.objects _ (by simp)) conforms.cvmCompliance,
    verifyMonitoring_complete typed conforms.monitoring,
    verifySwversion_complete typed required conforms.swversion,
    verifyKeyBinding_complete conforms.keyBinding,
    verifyImageDigest_complete typed digests conforms.imageDigest,
    (verifyProjectId_iff typed).mpr identified.projectId,
    (verifyServiceAccount_iff typed).mpr identified.serviceAccount⟩

end Checks

theorem itaVerifier_true {Key : Type} {python : Python} {crypto : Cryptography} {jwt : PyJwt Key}
    {policy : ItaPolicy} {token : PyStr} {certPem : Bytes}
    (accepted : itaVerifier python crypto jwt policy token certPem = .ok true) :
    ∃ claims, decodeToken jwt policy token = .ok (some claims) ∧
      verifyClaims python crypto policy claims certPem = .ok true := by
  unfold itaVerifier at accepted
  split at accepted
  next => cases accepted
  next => cases accepted
  next claims decoded => exact ⟨claims, decoded, accepted⟩

theorem accepted_tokens_conform {Key : Type} (env : AgentEnv) (crypto : Cryptography)
    (jwt : PyJwt Key) (policy : ItaPolicy) (valid : policy.validate env = .ok ()) (token : PyStr) (certPem : Bytes) :
    (itaVerifier env.python crypto jwt policy token certPem = .ok true →
      ∃ claims, decodeToken jwt policy token = .ok (some claims) ∧
        Conforms env.python crypto policy claims certPem) ∧
    ∀ claims, decodeToken jwt policy token = .ok (some claims) → TokenTyped claims →
      (itaVerifier env.python crypto jwt policy token certPem = .ok true ↔
        Conforms env.python crypto policy claims certPem ∧ Identified policy claims) := by
  obtain ⟨-, digests, required, -, -⟩ := ItaPolicy.validate_ok valid
  have texts := fun digest member => (digests digest member).imp fun _ both => both.1
  constructor
  · intro accepted
    obtain ⟨claims, decoded, passed⟩ := itaVerifier_true accepted
    exact ⟨claims, decoded, conforms_of_verified required texts passed⟩
  · intro claims decoded typed
    have verdict : itaVerifier env.python crypto jwt policy token certPem =
        verifyClaims env.python crypto policy claims certPem := by
      simp only [itaVerifier, decoded]
    rw [verdict]
    constructor
    · intro accepted
      have passed := verifyClaims_true_iff.mp accepted
      refine ⟨conforms_of_verified required texts accepted, ?_⟩
      exact ⟨(verifyProjectId_iff typed).mp (by tauto), (verifyServiceAccount_iff typed).mp (by tauto)⟩
    · rintro ⟨conforms, identified⟩
      exact verified_of_conforms typed required digests conforms identified

theorem verified_channel_conforms {Key : Type} {env : AgentEnv} (production : env.isTest = false)
    {network : Network} {crypto : Cryptography} {jwt : PyJwt Key}
    (verifies : network.itaVerifier = itaVerifier env.python crypto jwt) {policy : VerifierPolicy}
    {verifier : VerifierPolicy.Verifier} (granted : getVerifier env policy = .ok verifier)
    {token : PyStr} {certPem : Bytes}
    (accepted : runVerifier env network token certPem verifier = .ok true) :
    ∃ ita claims, policy = .ita ita ∧ ita.Sound ∧ decodeToken jwt ita token = .ok (some claims) ∧
      Conforms env.python crypto ita claims certPem := by
  obtain ⟨ita, rfl, rfl, sound⟩ := getVerifier_ok production granted
  have texts := fun digest member => (sound.digests digest member).imp fun _ both => both.1
  simp only [runVerifier, verifies] at accepted
  obtain ⟨claims, decoded, passed⟩ := itaVerifier_true accepted
  exact ⟨ita, claims, rfl, sound, decoded, conforms_of_verified sound.version texts passed⟩

def samplePolicy : ItaPolicy where
  expectedImageDigests := [pyText "sha256:00"]
  expectedProjectId := pyText "project"

-- The text of a string is the string.
def samplePython : Python :=
  { plainPython with
    str := fun value =>
      match value with
      | .str text => text
      | _ => [] }

-- The digest is that of the one byte this run hashes.
def sampleCryptography : Cryptography where
  extractPubkeyFromCert _ := .ok [1]
  sha256 _ :=
    [0x4b, 0xf5, 0x12, 0x2f, 0x34, 0x45, 0x54, 0xc5, 0x3b, 0xde, 0x2e, 0xbb, 0x8c, 0xd2, 0xb7, 0xe3,
      0xd1, 0x60, 0x0a, 0xd6, 0x31, 0xc3, 0x85, 0xa5, 0xd7, 0xcc, 0xe2, 0x3c, 0x77, 0x85, 0x45, 0x9a]
  digestSize _ := rfl

def sampleClaims : List (PyStr × PyValue) :=
  [(py "iss", pyText itaIssuer), (py "hwmodel", pyText expectedHwmodel), (py "secboot", .bool true),
    (py "dbgstat", pyText "disabled"), (py "swname", pyText expectedSwname),
    (py "tdx", pyDict [("cvm_compliance_status", pyText expectedCvmCompliance)]),
    (py "swversion", .list [pyText "260600"]),
    (py "eat_nonce", .list [pyText "S_USLzRFVMU73i67jNK349FgCtYxw4Wl18ziPHeFRZo"]),
    (py "submods", pyDict [("container", pyDict [("image_digest", pyText "sha256:00")]),
      ("gce", pyDict [("project_id", pyText "project")])])]

def sampleJwt : PyJwt Unit where
  getJwks _ := .ok (pyDict [])
  signingKeys _ := .ok [(pyText "key", ())]
  getUnverifiedHeader _ := .ok [(py "kid", pyText "key")]
  decode _ _ _ := .ok sampleClaims

theorem sample_token_conforms :
    ∃ claims, decodeToken sampleJwt samplePolicy (py "token") = .ok (some claims) ∧
      Conforms samplePython sampleCryptography samplePolicy claims [0] := by
  refine (accepted_tokens_conform ⟨samplePython, none⟩ sampleCryptography sampleJwt samplePolicy
    rfl (py "token") [0]).1 ?_
  rfl

end Ita

end Ztab
