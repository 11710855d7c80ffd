import Ztab.Agent.Python

set_option autoImplicit false

/-!
# Verifier policies

The fields of a policy come from a JSON file, so they hold whatever stood there.
`validate` is the gate between a policy and its verifier.
-/

namespace Ztab

structure AgentEnv where
  python : Python
  testEnvironment : Option PyStr := none

def AgentEnv.isTest (env : AgentEnv) : Bool := decide (env.testEnvironment = some (py "1"))

def kMinCsVersionDefault : Int := 260500

structure ItaPolicy where
  expectedImageDigests : List PyValue := []
  expectedProjectId : PyValue := .str []
  expectedServiceAccount : PyValue := .str []
  minCsVersion : Int := kMinCsVersionDefault
  allowDebug : PyValue := .bool false
  allowMemoryMonitoring : PyValue := .bool false
  clockSkewSeconds : Int := 300

inductive VerifierPolicy where
  | noop
  | ita (policy : ItaPolicy)

def NoopPolicy.validate (env : AgentEnv) : Except PyException Unit :=
  if ¬ env.isTest then
    .error (.runtimeError (py "noop verifier forbidden outside ZTAB_TEST_ENVIRONMENT=1."))
  else .ok ()

namespace ItaPolicy

def digestPrefix : PyStr := py "sha256:"

-- The order of a frozenset decides only which bad digest is named.
def validateDigests : List PyValue → Except PyException Unit
  | [] => .ok ()
  | .str digest :: rest =>
    if digestPrefix.isPrefixOf digest then validateDigests rest
    else .error (.valueError (py "Digest '" ++ digest ++ py "' does not start with 'sha256:'. " ++
      py "All digests must use the 'sha256:' prefix."))
  | _ :: _ => .error .attributeError

def validate (env : AgentEnv) (policy : ItaPolicy) : Except PyException Unit :=
  if policy.expectedImageDigests = [] then
    .error (.valueError (py
      "expected_image_digests must contain at least one digest (e.g. 'sha256:...')."))
  else
    match validateDigests policy.expectedImageDigests with
    | .error raised => .error raised
    | .ok () =>
      if policy.minCsVersion ≤ 0 then
        .error (.valueError (py ("min_cs_version must be a positive integer (e.g. 260500). Got: " ++
          toString policy.minCsVersion)))
      else if policy.allowDebug.truthy && !env.isTest then
        .error (.runtimeError (py "allow_debug=True forbidden outside ZTAB_TEST_ENVIRONMENT=1."))
      else if policy.allowMemoryMonitoring.truthy && !env.isTest then
        .error (.runtimeError (py
          "allow_memory_monitoring=True forbidden outside ZTAB_TEST_ENVIRONMENT=1."))
      else .ok ()

structure Sound (policy : ItaPolicy) : Prop where
  nonempty : policy.expectedImageDigests ≠ []
  digests : ∀ digest ∈ policy.expectedImageDigests,
    ∃ text, digest = .str text ∧ digestPrefix <+: text
  version : 0 < policy.minCsVersion
  debug : policy.allowDebug.truthy = false
  monitoring : policy.allowMemoryMonitoring.truthy = false

end ItaPolicy

namespace VerifierPolicy

def validate (env : AgentEnv) : VerifierPolicy → Except PyException Unit
  | .noop => NoopPolicy.validate env
  | .ita policy => policy.validate env

-- The callables that `create_verifier` returns.
inductive Verifier where
  | noopVerifier
  | itaVerifier (policy : ItaPolicy)

def createVerifier : VerifierPolicy → Verifier
  | .noop => .noopVerifier
  | .ita policy => .itaVerifier policy

end VerifierPolicy

def getVerifier (env : AgentEnv) (policy : VerifierPolicy) :
    Except PyException VerifierPolicy.Verifier := do
  policy.validate env
  return policy.createVerifier

namespace ItaPolicy

variable {env : AgentEnv}

theorem validateDigests_ok {digests : List PyValue} (valid : validateDigests digests = .ok ()) :
    ∀ digest ∈ digests, ∃ text, digest = .str text ∧ digestPrefix <+: text := by
  induction digests with
  | nil => simp
  | cons digest rest ih =>
    cases digest with
    | str text =>
      simp only [validateDigests] at valid
      split_ifs at valid with prefixed
      intro other listed
      rcases List.mem_cons.mp listed with rfl | later
      · exact ⟨text, rfl, List.isPrefixOf_iff_prefix.mp prefixed⟩
      · exact ih valid other later
    | _ => cases valid

-- What `validate` lets through; the two bypasses only in a test environment.
theorem validate_ok {policy : ItaPolicy} (valid : policy.validate env = .ok ()) :
    policy.expectedImageDigests ≠ [] ∧
      (∀ digest ∈ policy.expectedImageDigests, ∃ text, digest = .str text ∧ digestPrefix <+: text) ∧
      0 < policy.minCsVersion ∧
      (policy.allowDebug.truthy = true → env.isTest = true) ∧
      (policy.allowMemoryMonitoring.truthy = true → env.isTest = true) := by
  unfold validate at valid
  cases checked : validateDigests policy.expectedImageDigests with
  | error raised =>
    simp only [checked] at valid
    split_ifs at valid
  | ok _ =>
    simp only [checked] at valid
    split_ifs at valid with empty old debug monitoring
    refine ⟨empty, validateDigests_ok checked, Int.not_le.mp old, ?_, ?_⟩
    · simpa using debug
    · simpa using monitoring

theorem sound_of_validate (production : env.isTest = false) {policy : ItaPolicy}
    (valid : policy.validate env = .ok ()) : policy.Sound := by
  obtain ⟨nonempty, digests, version, debug, monitoring⟩ := validate_ok valid
  rw [production] at debug monitoring
  exact ⟨nonempty, digests, version, Bool.eq_false_iff.mpr (mt debug Bool.false_ne_true),
    Bool.eq_false_iff.mpr (mt monitoring Bool.false_ne_true)⟩

end ItaPolicy

-- Outside a test environment only a sound ITA policy gets a verifier.
theorem getVerifier_ok {env : AgentEnv} (production : env.isTest = false) {policy : VerifierPolicy}
    {verifier : VerifierPolicy.Verifier} (ok : getVerifier env policy = .ok verifier) :
    ∃ ita, policy = .ita ita ∧ verifier = .itaVerifier ita ∧ ita.Sound := by
  unfold getVerifier at ok
  cases valid : policy.validate env with
  | error raised =>
    rw [valid] at ok
    cases ok
  | ok _ =>
    rw [valid] at ok
    cases ok
    cases policy with
    | noop => simp [VerifierPolicy.validate, NoopPolicy.validate, production] at valid
    | ita ita => exact ⟨ita, rfl, rfl, ItaPolicy.sound_of_validate production valid⟩

end Ztab
