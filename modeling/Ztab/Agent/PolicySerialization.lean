import Mathlib.Data.List.Sort
import Ztab.Agent.Attestation
import Ztab.Agent.JsonRoundTrip

set_option autoImplicit false

/-!
# Writing policies out

`to_dict` leaves out the fields that have their default, and `from_dict` puts the defaults back. The
dict may go through a text in between.
-/

namespace Ztab

-- `sorted` compares strings by code points. The digests are annotated as strings; what the
-- comparison of other values does is not modelled.
def sortedTexts (elements : List PyValue) : Option (List PyStr) := do
  let texts ← elements.mapM fun element =>
    match element with
    | .str text => some text
    | _ => none
  return texts.insertionSort (· ≤ ·)

structure PolicyField where
  name : String
  value : PyValue
  default : PyValue

namespace ItaPolicy

-- The fields in their order, less the digests.
def fields (policy : ItaPolicy) : List PolicyField :=
  [⟨"expected_project_id", policy.expectedProjectId, .str []⟩,
    ⟨"expected_service_account", policy.expectedServiceAccount, .str []⟩,
    ⟨"min_cs_version", .int policy.minCsVersion, .int kMinCsVersionDefault⟩,
    ⟨"allow_debug", policy.allowDebug, .bool false⟩,
    ⟨"allow_memory_monitoring", policy.allowMemoryMonitoring, .bool false⟩,
    ⟨"clock_skew_seconds", .int policy.clockSkewSeconds, .int 300⟩]

def changedEntries (fields : List PolicyField) : List (PyStr × PyValue) :=
  (fields.filter fun field => !field.value.eq field.default).map fun field =>
    (py field.name, field.value)

def toDict (policy : ItaPolicy) : Option PyValue := do
  let digests ← sortedTexts policy.expectedImageDigests
  return .dict ((py "verifier_type", .str (py "ita")) ::
    (py "expected_image_digests", .list (digests.map .str)) :: changedEntries policy.fields)

def fieldOr (d : PyValue) (name : String) (default : PyValue) : Except PyException PyValue := do
  if ← d.contains (py name) then d.item name else return default

-- None and the empty string stand for the default.
def intFieldOr (python : Python) (d : PyValue) (name : String) (default : Int) :
    Except PyException Int := do
  if ← d.contains (py name) then
    let value ← d.item name
    if value.memberOf [.none, .str []] then return default else python.int value
  else return default

-- A single string stands for the list of it.
def listed : PyValue → PyValue
  | .str text => .list [.str text]
  | value => value

def fromDict (python : Python) (d : PyValue) : Except PyException ItaPolicy := do
  let digests ← d.get "expected_image_digests" (.list [])
  let elements ← (listed digests).iterate
  let expectedImageDigests ← PyValue.frozenset elements
  let expectedProjectId ← fieldOr d "expected_project_id" (.str [])
  let expectedServiceAccount ← fieldOr d "expected_service_account" (.str [])
  let minCsVersion ← intFieldOr python d "min_cs_version" kMinCsVersionDefault
  let allowDebug ← fieldOr d "allow_debug" (.bool false)
  let allowMemoryMonitoring ← fieldOr d "allow_memory_monitoring" (.bool false)
  let clockSkewSeconds ← intFieldOr python d "clock_skew_seconds" 300
  return { expectedImageDigests, expectedProjectId, expectedServiceAccount, minCsVersion, allowDebug,
           allowMemoryMonitoring, clockSkewSeconds }

end ItaPolicy

inductive PolicyClass where
  | noopPolicy
  | itaPolicy
  deriving DecidableEq

def PolicyClass.fromDict (python : Python) : PolicyClass → PyValue → Except PyException VerifierPolicy
  | .noopPolicy, _ => .ok .noop
  | .itaPolicy, d => (ItaPolicy.fromDict python d).map .ita

def policyRegistry : List (PyStr × PolicyClass) := [(py "noop", .noopPolicy), (py "ita", .itaPolicy)]

namespace VerifierPolicy

def policyClass : VerifierPolicy → PolicyClass
  | .noop => .noopPolicy
  | .ita _ => .itaPolicy

def verifierType : VerifierPolicy → PyStr
  | .noop => py "noop"
  | .ita _ => py "ita"

def toDict : VerifierPolicy → Option PyValue
  | .noop => some (.dict [(py "verifier_type", .str (py "noop"))])
  | .ita policy => policy.toDict

def fromDict (python : Python) (d : PyValue) : Except PyException VerifierPolicy := do
  let vtype ← d.get "verifier_type" (.str [])
  vtype.hash
  match policyRegistry.find? fun entry => (PyValue.str entry.1).same vtype with
  | none =>
    throw (.valueError (py "Unknown verifier_type '" ++ python.str vtype ++
      py "'. Known types: ['ita', 'noop']"))
  | some entry => entry.2.fromDict python d

end VerifierPolicy

namespace ItaPolicy

/-- The types of the annotations. The digests are a set, so each is listed once. -/
structure WellTyped (policy : ItaPolicy) : Prop where
  digests : ∃ texts : List PyStr, texts.Nodup ∧ policy.expectedImageDigests = texts.map .str
  project : ∃ text, policy.expectedProjectId = .str text
  account : ∃ text, policy.expectedServiceAccount = .str text
  debug : ∃ value, policy.allowDebug = .bool value
  monitoring : ∃ value, policy.allowMemoryMonitoring = .bool value

def SameAs (left right : ItaPolicy) : Prop :=
  left.expectedImageDigests.Perm right.expectedImageDigests ∧
    { left with expectedImageDigests := right.expectedImageDigests } = right

/-- What a text can carry: no string has a high surrogate directly in front of a low one, and the
integers have no more digits than may be printed. -/
structure Writable (policy : ItaPolicy) : Prop where
  digests : ∀ text, .str text ∈ policy.expectedImageDigests → PyJson.Unpaired text
  project : ∀ text, policy.expectedProjectId = .str text → PyJson.Unpaired text
  account : ∀ text, policy.expectedServiceAccount = .str text → PyJson.Unpaired text
  version : policy.minCsVersion.natAbs < 10 ^ kMaxStrDigits
  skew : policy.clockSkewSeconds.natAbs < 10 ^ kMaxStrDigits

theorem sortedTexts_texts (texts : List PyStr) :
    sortedTexts (texts.map .str) = some (texts.insertionSort (· ≤ ·)) := by
  have all : (texts.map PyValue.str).mapM (fun element =>
      match element with
      | .str text => some text
      | _ => none) = some texts := by
    induction texts with
    | nil => rfl
    | cons text rest ih =>
      rw [List.map_cons, List.mapM_cons, ih]
      rfl
  rw [sortedTexts, all]
  rfl

theorem frozenset_texts {texts : List PyStr} (distinct : texts.Nodup) :
    PyValue.frozenset (texts.map .str) = .ok (texts.map .str) := by
  induction texts with
  | nil => rfl
  | cons text rest ih =>
    obtain ⟨new, others⟩ := List.nodup_cons.mp distinct
    have kept : (rest.map PyValue.str).filter (fun other => !PyValue.same other (.str text)) =
        rest.map .str := by
      refine List.filter_eq_self.mpr ?_
      intro other listed
      obtain ⟨held, here, rfl⟩ := List.mem_map.mp listed
      have different : held ≠ text := fun same => new (same ▸ here)
      simp [PyValue.same, different]
    simp only [List.map_cons, PyValue.frozenset, ih others, PyValue.hash, PyValue.hashable]
    change Except.ok (PyValue.str text :: (rest.map PyValue.str).filter _) = _
    rw [kept]

theorem find_absent {key : PyStr} {entries : List (PyStr × PyValue)}
    (absent : key ∉ entries.map Prod.fst) : PyValue.find key entries = none := by
  induction entries with
  | nil => rfl
  | cons entry rest ih =>
    simp only [List.map_cons, List.mem_cons, not_or] at absent
    rw [PyValue.find, if_neg (Ne.symm absent.1), ih absent.2]

theorem keys_changedEntries (fields : List PolicyField) :
    ((changedEntries fields).map Prod.fst).Sublist (fields.map fun field => py field.name) := by
  rw [changedEntries, List.map_map]
  exact List.filter_sublist.map _

theorem changedEntries_cons (first : PolicyField) (rest : List PolicyField) :
    changedEntries (first :: rest) =
      if first.value.eq first.default then changedEntries rest
      else (py first.name, first.value) :: changedEntries rest := by
  cases kept : first.value.eq first.default <;> simp [changedEntries, kept]

-- A field is found exactly when it was written, that is when it differs from its default.
theorem find_changedEntries {fields : List PolicyField} {field : PolicyField}
    (distinct : (fields.map fun field => py field.name).Nodup) (listed : field ∈ fields) :
    PyValue.find (py field.name) (changedEntries fields) =
      if field.value.eq field.default then none else some field.value := by
  induction fields with
  | nil => simp at listed
  | cons first rest ih =>
    obtain ⟨new, others⟩ := List.nodup_cons.mp distinct
    rw [changedEntries_cons]
    rcases List.mem_cons.mp listed with rfl | later
    · have absent : PyValue.find (py field.name) (changedEntries rest) = none :=
        find_absent fun here => new ((keys_changedEntries rest).subset here)
      split
      · exact absent
      · simp [PyValue.find]
    · have different : py first.name ≠ py field.name := by
        intro same
        exact new (List.mem_map.mpr ⟨field, later, same.symm⟩)
      split
      · exact ih others later
      · rw [PyValue.find, if_neg different, ih others later]

section Reading

variable {python : Python} {entries : List (PyStr × PyValue)} {name : String}

theorem eq_int {left right : Int} : (PyValue.int left).eq (.int right) = decide (left = right) := by
  simp [PyValue.eq, PyValue.isNan, PyValue.same, PyValue.sameNumber, PyValue.ratio]

-- Among values of one type, equal values are the same value; 0 == False is not of this kind.
theorem eq_of_str_eq {value : PyValue} {text : PyStr} (typed : ∃ text, value = .str text)
    (same : value.eq (.str text) = true) : value = .str text := by
  obtain ⟨held, rfl⟩ := typed
  simpa [PyValue.eq, PyValue.isNan, PyValue.same] using same

theorem eq_of_bool_eq {value : PyValue} {flag : Bool} (typed : ∃ flag, value = .bool flag)
    (same : value.eq (.bool flag) = true) : value = .bool flag := by
  obtain ⟨held, rfl⟩ := typed
  cases held <;> cases flag <;> first | rfl | cases same

theorem fieldOr_dict {default : PyValue} :
    fieldOr (.dict entries) name default = .ok ((PyValue.find (py name) entries).getD default) := by
  cases found : PyValue.find (py name) entries with
  | none =>
    simp only [fieldOr, PyValue.contains, found]
    rfl
  | some value =>
    simp only [fieldOr, PyValue.contains, PyValue.item, found]
    rfl

theorem intFieldOr_absent {default : Int} (absent : PyValue.find (py name) entries = none) :
    intFieldOr python (.dict entries) name default = .ok default := by
  simp only [intFieldOr, PyValue.contains, absent]
  rfl

theorem intFieldOr_int {value default : Int}
    (found : PyValue.find (py name) entries = some (.int value)) :
    intFieldOr python (.dict entries) name default = .ok value := by
  simp only [intFieldOr, PyValue.contains, PyValue.item, found]
  rfl

theorem fieldOr_of_find {value default : PyValue}
    (found : PyValue.find (py name) entries = if value.eq default then none else some value)
    (canonical : value.eq default = true → value = default) :
    fieldOr (.dict entries) name default = .ok value := by
  rw [fieldOr_dict, found]
  split
  next same => rw [canonical same, Option.getD_none]
  next => rfl

theorem intFieldOr_of_find {value default : Int}
    (found : PyValue.find (py name) entries =
      if (PyValue.int value).eq (.int default) then none else some (.int value)) :
    intFieldOr python (.dict entries) name default = .ok value := by
  split at found
  next same =>
    rw [eq_int, decide_eq_true_eq] at same
    rw [intFieldOr_absent found, same]
  next => exact intFieldOr_int found

end Reading

theorem names_distinct (policy : ItaPolicy) :
    (py "verifier_type" :: py "expected_image_digests" ::
      policy.fields.map fun field => py field.name).Nodup := by
  change ([py "verifier_type", py "expected_image_digests", py "expected_project_id",
    py "expected_service_account", py "min_cs_version", py "allow_debug",
    py "allow_memory_monitoring", py "clock_skew_seconds"] : List PyStr).Nodup
  decide

theorem names_unpaired (policy : ItaPolicy) :
    ∀ name ∈ py "verifier_type" :: py "expected_image_digests" ::
      policy.fields.map fun field => py field.name, PyJson.Unpaired name := by
  change ∀ name ∈ ([py "verifier_type", py "expected_image_digests", py "expected_project_id",
    py "expected_service_account", py "min_cs_version", py "allow_debug",
    py "allow_memory_monitoring", py "clock_skew_seconds"] : List PyStr), PyJson.Unpaired name
  decide

-- The dict that is written for a policy with the given digests.
def written (policy : ItaPolicy) (texts : List PyStr) : List (PyStr × PyValue) :=
  (py "verifier_type", .str (py "ita")) ::
    (py "expected_image_digests", .list ((texts.insertionSort (· ≤ ·)).map .str)) ::
      changedEntries policy.fields

theorem toDict_texts {policy : ItaPolicy} {texts : List PyStr}
    (digests : policy.expectedImageDigests = texts.map .str) :
    policy.toDict = some (.dict (policy.written texts)) := by
  rw [toDict, digests, sortedTexts_texts]
  rfl

theorem find_written {policy : ItaPolicy} (texts : List PyStr) {field : PolicyField}
    (listed : field ∈ policy.fields) :
    PyValue.find (py field.name) (policy.written texts) =
      if field.value.eq field.default then none else some field.value := by
  obtain ⟨newType, rest⟩ := List.nodup_cons.mp (names_distinct policy)
  obtain ⟨newDigests, distinct⟩ := List.nodup_cons.mp rest
  have named : py field.name ∈ policy.fields.map fun field => py field.name :=
    List.mem_map.mpr ⟨field, listed, rfl⟩
  have notType : py "verifier_type" ≠ py field.name :=
    fun same => newType (List.mem_cons_of_mem _ (same ▸ named))
  have notDigests : py "expected_image_digests" ≠ py field.name := fun same => newDigests (same ▸ named)
  rw [written, PyValue.find, if_neg notType, PyValue.find, if_neg notDigests,
    find_changedEntries distinct listed]

theorem fieldOr_written {policy : ItaPolicy} (texts : List PyStr) {name : String}
    {value default : PyValue} (listed : ⟨name, value, default⟩ ∈ policy.fields)
    (canonical : value.eq default = true → value = default) :
    fieldOr (.dict (policy.written texts)) name default = .ok value :=
  fieldOr_of_find (find_written texts listed) canonical

theorem intFieldOr_written {python : Python} {policy : ItaPolicy} (texts : List PyStr)
    {name : String} {value default : Int} (listed : ⟨name, .int value, .int default⟩ ∈ policy.fields) :
    intFieldOr python (.dict (policy.written texts)) name default = .ok value :=
  intFieldOr_of_find (find_written texts listed)

theorem fromDict_written (python : Python) {policy : ItaPolicy} (typed : policy.WellTyped)
    {texts : List PyStr} (distinct : texts.Nodup) :
    ItaPolicy.fromDict python (.dict (policy.written texts)) =
      .ok { policy with expectedImageDigests := (texts.insertionSort (· ≤ ·)).map .str } := by
  have sorted : PyValue.frozenset ((texts.insertionSort (· ≤ ·)).map PyValue.str) =
      .ok ((texts.insertionSort (· ≤ ·)).map .str) :=
    frozenset_texts ((List.perm_insertionSort _ texts).nodup_iff.mpr distinct)
  have digests : (PyValue.dict (policy.written texts)).get "expected_image_digests" (.list []) =
      .ok (.list ((texts.insertionSort (· ≤ ·)).map .str)) := rfl
  have project : fieldOr (.dict (policy.written texts)) "expected_project_id" (.str []) =
      .ok policy.expectedProjectId :=
    fieldOr_written texts (by simp [fields]) (eq_of_str_eq typed.project)
  have account : fieldOr (.dict (policy.written texts)) "expected_service_account" (.str []) =
      .ok policy.expectedServiceAccount :=
    fieldOr_written texts (by simp [fields]) (eq_of_str_eq typed.account)
  have debug : fieldOr (.dict (policy.written texts)) "allow_debug" (.bool false) =
      .ok policy.allowDebug :=
    fieldOr_written texts (by simp [fields]) (eq_of_bool_eq typed.debug)
  have monitoring :
      fieldOr (.dict (policy.written texts)) "allow_memory_monitoring" (.bool false) =
        .ok policy.allowMemoryMonitoring :=
    fieldOr_written texts (by simp [fields]) (eq_of_bool_eq typed.monitoring)
  have version : intFieldOr python (.dict (policy.written texts)) "min_cs_version"
      kMinCsVersionDefault = .ok policy.minCsVersion := intFieldOr_written texts (by simp [fields])
  have skew : intFieldOr python (.dict (policy.written texts)) "clock_skew_seconds" 300 =
      .ok policy.clockSkewSeconds := intFieldOr_written texts (by simp [fields])
  simp only [ItaPolicy.fromDict, digests, project, account, debug, monitoring, version, skew]
  change (PyValue.frozenset _ >>= _) = _
  rw [sorted]
  rfl

theorem fields_portable {policy : ItaPolicy} (typed : policy.WellTyped) (writable : policy.Writable) :
    ∀ field ∈ policy.fields, PyJson.Portable field.value := by
  obtain ⟨project, isProject⟩ := typed.project
  obtain ⟨account, isAccount⟩ := typed.account
  obtain ⟨debug, isDebug⟩ := typed.debug
  obtain ⟨monitoring, isMonitoring⟩ := typed.monitoring
  simp only [fields, isProject, isAccount, isDebug, isMonitoring, List.forall_mem_cons,
    List.not_mem_nil, false_implies, implies_true, and_true, PyJson.Portable, true_and]
  exact ⟨writable.project project isProject, writable.account account isAccount, writable.version,
    writable.skew⟩

theorem written_portable {policy : ItaPolicy} (typed : policy.WellTyped) (writable : policy.Writable)
    {texts : List PyStr} (digests : policy.expectedImageDigests = texts.map .str) :
    PyJson.Portable (.dict (policy.written texts)) := by
  have keys : ((policy.written texts).map Prod.fst).Sublist
      (py "verifier_type" :: py "expected_image_digests" ::
        policy.fields.map fun field => py field.name) :=
    ((keys_changedEntries policy.fields).cons_cons _).cons_cons _
  refine ⟨keys.nodup (names_distinct policy), PyJson.portableEntries_iff.mpr ?_⟩
  intro entry listed
  refine ⟨names_unpaired policy _ (keys.subset (List.mem_map.mpr ⟨entry, listed, rfl⟩)), ?_⟩
  rcases List.mem_cons.mp listed with rfl | listed
  · exact (by decide : PyJson.Unpaired (py "ita"))
  rcases List.mem_cons.mp listed with rfl | listed
  · refine PyJson.portableElements_iff.mpr ?_
    intro element here
    obtain ⟨text, sorted, rfl⟩ := List.mem_map.mp here
    refine writable.digests text ?_
    rw [digests]
    exact List.mem_map.mpr ⟨text, (List.mem_insertionSort _).mp sorted, rfl⟩
  · obtain ⟨field, kept, rfl⟩ := List.mem_map.mp listed
    exact fields_portable typed writable field (List.mem_filter.mp kept).1

end ItaPolicy

theorem VerifierPolicy.fromDict_registered (python : Python) {entry : PyStr × PolicyClass}
    (registered : entry ∈ policyRegistry) {d : PyValue}
    (named : d.get "verifier_type" (.str []) = .ok (.str entry.1)) :
    VerifierPolicy.fromDict python d = entry.2.fromDict python d := by
  have found : policyRegistry.find? (fun other => (PyValue.str other.1).same (.str entry.1)) =
      some entry := by
    simp only [policyRegistry, List.mem_cons, List.not_mem_nil, or_false] at registered
    rcases registered with rfl | rfl <;> decide
  simp only [VerifierPolicy.fromDict, named]
  change (match policyRegistry.find? (fun other => (PyValue.str other.1).same (.str entry.1)) with
    | none => _
    | some entry => _) = _
  rw [found]

theorem PolicyClass.policyClass_of_fromDict {python : Python} {chosen : PolicyClass} {d : PyValue}
    {policy : VerifierPolicy} (read : chosen.fromDict python d = .ok policy) :
    policy.policyClass = chosen := by
  cases chosen with
  | noopPolicy =>
    cases read
    rfl
  | itaPolicy =>
    cases parsed : ItaPolicy.fromDict python d with
    | error raised => simp [PolicyClass.fromDict, parsed, Except.map] at read
    | ok ita =>
      simp only [PolicyClass.fromDict, parsed, Except.map] at read
      cases read
      rfl

theorem VerifierPolicy.verifierType_registered {entry : PyStr × PolicyClass}
    (registered : entry ∈ policyRegistry) {policy : VerifierPolicy}
    (chosen : policy.policyClass = entry.2) : policy.verifierType = entry.1 := by
  simp only [policyRegistry, List.mem_cons, List.not_mem_nil, or_false] at registered
  rcases registered with rfl | rfl <;> cases policy <;> first | rfl | cases chosen

theorem ita_registered : (py "ita", PolicyClass.itaPolicy) ∈ policyRegistry := by
  simp [policyRegistry]

theorem VerifierPolicy.fromDict_written (python : Python) {policy : ItaPolicy}
    (typed : policy.WellTyped) {texts : List PyStr} (distinct : texts.Nodup) :
    VerifierPolicy.fromDict python (.dict (policy.written texts)) =
      .ok (.ita { policy with expectedImageDigests := (texts.insertionSort (· ≤ ·)).map .str }) := by
  have read : VerifierPolicy.fromDict python (.dict (policy.written texts)) = _ :=
    VerifierPolicy.fromDict_registered python ita_registered rfl
  rw [PolicyClass.fromDict, ItaPolicy.fromDict_written python typed distinct] at read
  exact read

/-- A well-typed policy comes back from its dict, and from the text of the dict if a text can carry
it; the base class hands a dict to the class registered for its type. -/
theorem policy_survives_serialization (python : Python) (parseFloat : PyStr → PyFloat)
    {policy : ItaPolicy} (typed : policy.WellTyped) :
    (∃ d, policy.toDict = some d ∧
      (∃ restored, VerifierPolicy.fromDict python d = .ok (.ita restored) ∧ restored.SameAs policy) ∧
      (policy.Writable →
        ∃ text again, PyJson.dumps python d = .ok text ∧ PyJson.loads parseFloat text = some again ∧
          ∃ restored, VerifierPolicy.fromDict python again = .ok (.ita restored) ∧
            restored.SameAs policy)) ∧
      ∀ entry ∈ policyRegistry, ∀ d, d.get "verifier_type" (.str []) = .ok (.str entry.1) →
        VerifierPolicy.fromDict python d = entry.2.fromDict python d ∧
          ∀ restored, VerifierPolicy.fromDict python d = .ok restored →
            restored.policyClass = entry.2 ∧ restored.verifierType = entry.1 := by
  obtain ⟨texts, distinct, digests⟩ := typed.digests
  have restored : ∃ restored, VerifierPolicy.fromDict python (.dict (policy.written texts)) =
      .ok (.ita restored) ∧ restored.SameAs policy := by
    refine ⟨_, VerifierPolicy.fromDict_written python typed distinct, ?_, rfl⟩
    rw [digests]
    exact (List.perm_insertionSort _ texts).map _
  refine ⟨⟨_, ItaPolicy.toDict_texts digests, restored, ?_⟩, ?_⟩
  · intro writable
    obtain ⟨text, dumped, loaded⟩ :=
      PyJson.loads_dumps python parseFloat (ItaPolicy.written_portable typed writable digests)
    exact ⟨text, _, dumped, loaded, restored⟩
  · intro entry registered d named
    have dispatched := VerifierPolicy.fromDict_registered python registered named
    refine ⟨dispatched, ?_⟩
    intro restored read
    have chosen := PolicyClass.policyClass_of_fromDict (dispatched.symm.trans read)
    exact ⟨chosen, VerifierPolicy.verifierType_registered registered chosen⟩

-- A policy with two digests, written out of order, and with every bypass.
def bypassingPolicy : ItaPolicy where
  expectedImageDigests := [.str (py "sha256:def"), .str (py "sha256:abc")]
  expectedProjectId := .str (py "my-proj")
  minCsVersion := 0
  allowDebug := .bool true
  clockSkewSeconds := -1

theorem bypassingPolicy_wellTyped : bypassingPolicy.WellTyped where
  digests := ⟨[py "sha256:def", py "sha256:abc"], by decide, rfl⟩
  project := ⟨_, rfl⟩
  account := ⟨_, rfl⟩
  debug := ⟨_, rfl⟩
  monitoring := ⟨_, rfl⟩

theorem bypassingPolicy_survives :
    ∃ d, bypassingPolicy.toDict = some d ∧
      ∃ text again, PyJson.dumps plainPython d = .ok text ∧
        PyJson.loads (fun _ => .nan) text = some again ∧
          ∃ restored, VerifierPolicy.fromDict plainPython again = .ok (.ita restored) ∧
            restored.SameAs bypassingPolicy := by
  have small : 1 < 10 ^ kMaxStrDigits := Nat.one_lt_pow (by decide) (by decide)
  have writable : bypassingPolicy.Writable := {
    digests := by
      simp only [bypassingPolicy, List.mem_cons, List.not_mem_nil, or_false, PyValue.str.injEq]
      rintro text (rfl | rfl) <;> decide
    project := by
      intro text same
      cases same
      decide
    account := by
      intro text same
      cases same
      decide
    version := Nat.zero_lt_of_lt small
    skew := small }
  obtain ⟨⟨d, shown, -, read⟩, -⟩ :=
    policy_survives_serialization plainPython (fun _ => .nan) bypassingPolicy_wellTyped
  exact ⟨d, shown, read writable⟩

-- No digest, and a project id or a version of its own.
def barePolicy (project : PyStr) (version : Int) : ItaPolicy where
  expectedProjectId := .str project
  minCsVersion := version

theorem barePolicy_wellTyped (project : PyStr) (version : Int) :
    (barePolicy project version).WellTyped where
  digests := ⟨[], by decide, rfl⟩
  project := ⟨_, rfl⟩
  account := ⟨_, rfl⟩
  debug := ⟨_, rfl⟩
  monitoring := ⟨_, rfl⟩

theorem barePolicy_toDict (project : PyStr) (version : Int) :
    (barePolicy project version).toDict = some (.dict ((barePolicy project version).written [])) :=
  ItaPolicy.toDict_texts rfl

theorem barePolicy_written_project (point : CodePoint) (rest : PyStr) :
    (barePolicy (point :: rest) kMinCsVersionDefault).written [] =
      [(py "verifier_type", .str (py "ita")), (py "expected_image_digests", .list []),
        (py "expected_project_id", .str (point :: rest))] := by
  rfl

theorem barePolicy_written_version {version : Int} (changed : version ≠ kMinCsVersionDefault) :
    (barePolicy [] version).written [] =
      [(py "verifier_type", .str (py "ita")), (py "expected_image_digests", .list []),
        (py "min_cs_version", .int version)] := by
  have kept : (PyValue.int version).eq (.int kMinCsVersionDefault) = false := by
    simpa [ItaPolicy.eq_int] using changed
  have shown : ItaPolicy.changedEntries (barePolicy [] version).fields =
      ItaPolicy.changedEntries [⟨"min_cs_version", .int version, .int kMinCsVersionDefault⟩] := rfl
  rw [ItaPolicy.written, shown, ItaPolicy.changedEntries_cons, kept]
  rfl

-- The two halves of a surrogate pair are one code point after a round trip, and an integer of more
-- than 4300 digits is not written at all.
theorem text_does_not_carry_every_policy :
    (∃ policy : ItaPolicy, policy.WellTyped ∧ ∃ d text again restored,
      policy.toDict = some d ∧ PyJson.dumps plainPython d = .ok text ∧
        PyJson.loads (fun _ => .nan) text = some again ∧
          VerifierPolicy.fromDict plainPython again = .ok (.ita restored) ∧
            policy.expectedProjectId = .str [0xD83D, 0xDE00] ∧
              restored.expectedProjectId = .str [0x1F600]) ∧
      ∃ policy : ItaPolicy, policy.WellTyped ∧ ∃ d, policy.toDict = some d ∧
        ∀ text, PyJson.dumps plainPython d ≠ .ok text := by
  constructor
  · -- Both ids have the same text, and the text of the second is read as the second.
    have sameText : PyJson.dumpsStr [0xD83D, 0xDE00] = PyJson.dumpsStr [0x1F600] := by decide
    have sameDump : PyJson.dumps plainPython
          (.dict ((barePolicy [0xD83D, 0xDE00] kMinCsVersionDefault).written [])) =
        PyJson.dumps plainPython (.dict ((barePolicy [0x1F600] kMinCsVersionDefault).written [])) := by
      simp only [barePolicy_written_project, PyJson.dumps, PyJson.dumpsEntries, sameText]
    have portable : PyJson.Portable
        (.dict ((barePolicy [0x1F600] kMinCsVersionDefault).written [])) := by
      rw [barePolicy_written_project]
      simp only [PyJson.Portable, PyJson.PortableEntries, PyJson.PortableElements]
      decide
    obtain ⟨text, dumped, loaded⟩ := PyJson.loads_dumps plainPython (fun _ => .nan) portable
    have read := VerifierPolicy.fromDict_written plainPython
      (barePolicy_wellTyped [0x1F600] kMinCsVersionDefault) List.nodup_nil
    exact ⟨barePolicy [0xD83D, 0xDE00] kMinCsVersionDefault, barePolicy_wellTyped _ _, _, text, _, _,
      barePolicy_toDict _ _, sameDump.trans dumped, loaded, read, rfl, rfl⟩
  · have huge : (10 : Int) ^ kMaxStrDigits ≠ kMinCsVersionDefault := by
      have large : (10 : Int) ^ 6 ≤ 10 ^ kMaxStrDigits := pow_le_pow_right₀ (by decide) (by decide)
      intro same
      rw [same] at large
      exact absurd large (by decide)
    refine ⟨barePolicy [] (10 ^ kMaxStrDigits), barePolicy_wellTyped _ _, _,
      barePolicy_toDict _ _, ?_⟩
    intro text dumped
    rw [barePolicy_written_version huge] at dumped
    cases number : PyJson.dumpsInt (10 ^ kMaxStrDigits) with
    | ok digits =>
      refine PyJson.dumpsInt_error (le_of_eq ?_) digits number
      simp [Int.natAbs_pow]
    | error raised =>
      simp only [PyJson.dumps, PyJson.dumpsEntries, number] at dumped
      cases dumped

end Ztab
