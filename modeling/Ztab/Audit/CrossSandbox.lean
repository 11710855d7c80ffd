import Ztab.Agent.Attestation
import Ztab.Audit.Trajectory

set_option autoImplicit false

/-!
# Paths into other sandboxes

The scan for `/agents/<M>/` goes on behind the last slash of what it has found, so it misses a
segment that shares its first slash with a segment that was found. The check reports exactly when
some number that is not the agent's own has an even number of segments chained in front of it.
-/

namespace Ztab.Audit

open Gather

-- A view-file path, a command line or a code-action path.
def Reads (steps : List PyValue) (text : PyStr) : Prop :=
  ∃ step ∈ steps, ∃ paths, pathsToCheck step = .ok paths ∧ .str text ∈ paths

def digitValue (python : Python) (point : CodePoint) : Nat :=
  if point.val < 128 then point.val - 48 else ((python.toDecimal point).map Fin.val).getD 0

def decimalValue (python : Python) (digits : PyStr) : Nat :=
  digits.foldl (fun value digit => 10 * value + digitValue python digit) 0

def Foreign (python : Python) (agentNum : Nat) (text : PyStr) : Prop :=
  ∃ before digits, (agentsPattern python).SegmentAt text before digits ∧
    decimalValue python digits ≠ agentNum

/-- The text has a segment with these digits in front of which an even number of segments is
chained, each sharing its last slash with the next one. -/
def Exposed (python : Python) (text digits : PyStr) : Prop :=
  ∃ before count, (agentsPattern python).SegmentAt text before digits ∧
    (agentsPattern python).Chained count before ∧ Even count

-- `str(agent_num)`
def agentName (agentNum : Nat) : PyStr := PyJson.shownDigits (PyJson.decimalDigits agentNum)

/-- The steps can be read, the numbers converted, and one of them is exposed and not the agent's
own. -/
structure Detected (python : Python) (steps : List PyValue) (agentNum : Nat) : Prop where
  printable : agentNum < 10 ^ kMaxStrDigits
  readable : ∀ step ∈ steps, ∃ texts : List PyStr, pathsToCheck step = .ok (texts.map .str)
  convertible : ∀ text, Reads steps text → ∀ digits, Exposed python text digits →
    digits ≠ agentName agentNum → ∃ number, python.int (.str digits) = .ok number
  exposed : ∃ text, Reads steps text ∧ ∃ digits, Exposed python text digits ∧
    digits ≠ agentName agentNum

variable {python : Python} {steps : List PyValue} {agentNum : Nat} {agentStr text : PyStr}

theorem dumpsInt_natCast {shown : PyStr} :
    PyJson.dumpsInt agentNum = .ok shown ↔
      agentNum < 10 ^ kMaxStrDigits ∧ shown = agentName agentNum := by
  have size : (agentNum : Int).natAbs = agentNum := Int.natAbs_natCast agentNum
  by_cases printable : agentNum < 10 ^ kMaxStrDigits
  next =>
    have positive : ¬ (agentNum : Int) < 0 := Int.not_lt.mpr (Int.natCast_nonneg agentNum)
    have dumped : PyJson.dumpsInt agentNum = .ok (agentName agentNum) := by
      rw [PyJson.dumpsInt_ok (size.symm ▸ printable), if_neg positive, size]
      rfl
    rw [dumped, Except.ok.injEq, eq_comm]
    exact (and_iff_right printable).symm
  next =>
    have refused : PyJson.dumpsInt agentNum ≠ .ok shown :=
      PyJson.dumpsInt_error (size.symm ▸ Nat.not_lt.mp printable) shown
    exact iff_of_false refused fun shown => printable shown.1

def Convertible (python : Python) (agentStr text : PyStr) : Prop :=
  ∀ digits, Exposed python text digits → digits ≠ agentStr →
    ∃ number, python.int (.str digits) = .ok number

def HasOther (python : Python) (agentStr text : PyStr) : Prop :=
  ∃ digits, Exposed python text digits ∧ digits ≠ agentStr

theorem mem_foreign_scan {digits : PyStr} :
    digits ∈ ((agentsPattern python).scan text).filter (fun otherAgent => otherAgent ≠ agentStr) ↔
      Exposed python text digits ∧ digits ≠ agentStr := by
  rw [List.mem_filter, Segments.mem_scan]
  simp [Exposed]

theorem violation_ok_iff {digits : PyStr} {index : Nat} :
    (∃ here, violation python index text digits = .ok here) ↔
      ∃ number, python.int (.str digits) = .ok number := by
  simp only [violation, Effect.bind_eq_ok]
  constructor
  · rintro ⟨_, number, converted, -⟩
    exact ⟨number, converted⟩
  · rintro ⟨number, converted⟩
    exact ⟨_, number, converted, rfl⟩

theorem violation_ne_nil {digits : PyStr} {index : Nat} {here : List Violation}
    (found : violation python index text digits = .ok here) : here ≠ [] := by
  simp only [violation, Effect.bind_eq_ok] at found
  obtain ⟨number, -, same⟩ := found
  cases same
  exact List.cons_ne_nil _ _

theorem violationsIn_ok_iff {index : Nat} {path : PyValue} :
    (∃ here, violationsIn python agentStr index path = .ok here) ↔
      ∃ text, path = .str text ∧ Convertible python agentStr text := by
  cases path with
  | str text =>
    rw [violationsIn, gather_ok_iff]
    simp only [mem_foreign_scan, violation_ok_iff, PyValue.str.injEq, exists_eq_left', and_imp,
      Convertible]
  | _ => simp [violationsIn]

theorem violationsIn_found_iff {index : Nat} {path : PyValue} :
    (∃ here, violationsIn python agentStr index path = .ok here ∧ here ≠ []) ↔
      ∃ text, path = .str text ∧ Convertible python agentStr text ∧ HasOther python agentStr text := by
  cases path with
  | str text =>
    rw [violationsIn, gather_found_iff]
    simp only [mem_foreign_scan, violation_ok_iff, PyValue.str.injEq, exists_eq_left', and_imp]
    refine and_congr_right fun convertible => ?_
    constructor
    · rintro ⟨digits, other, -⟩
      exact ⟨digits, other⟩
    · rintro ⟨digits, exposed, other⟩
      obtain ⟨here, found⟩ := violation_ok_iff.mpr (convertible digits exposed other)
      exact ⟨digits, ⟨exposed, other⟩, here, found, violation_ne_nil found⟩
  | _ => simp [violationsIn]

theorem texts_of_paths {paths : List PyValue} {holds : PyStr → Prop} :
    (∀ path ∈ paths, ∃ text, path = .str text ∧ holds text) ↔
      ∃ texts : List PyStr, paths = texts.map .str ∧ ∀ text ∈ texts, holds text := by
  constructor
  · intro each
    induction paths with
    | nil => exact ⟨[], rfl, by simp⟩
    | cons path rest ih =>
      obtain ⟨text, rfl, here⟩ := each path List.mem_cons_self
      obtain ⟨texts, rfl, later⟩ := ih fun other listed => each other (List.mem_cons_of_mem _ listed)
      exact ⟨text :: texts, rfl, List.forall_mem_cons.mpr ⟨here, later⟩⟩
  · rintro ⟨texts, rfl, each⟩ path listed
    obtain ⟨text, present, rfl⟩ := List.mem_map.mp listed
    exact ⟨text, rfl, each text present⟩

theorem violationsOf_ok_iff {step : PyValue × Nat} :
    (∃ here, violationsOf python agentStr step = .ok here) ↔
      ∃ texts : List PyStr, pathsToCheck step.1 = .ok (texts.map .str) ∧
        ∀ text ∈ texts, Convertible python agentStr text := by
  simp only [violationsOf, Effect.bind_eq_ok]
  constructor
  · rintro ⟨here, paths, read, gathered⟩
    have each := gather_ok_iff.mp ⟨here, gathered⟩
    simp only [violationsIn_ok_iff] at each
    obtain ⟨texts, rfl, convertible⟩ := texts_of_paths.mp each
    exact ⟨texts, read, convertible⟩
  · rintro ⟨texts, read, convertible⟩
    obtain ⟨here, gathered⟩ := gather_ok_iff.mpr fun path listed =>
      violationsIn_ok_iff.mpr (texts_of_paths.mpr ⟨texts, rfl, convertible⟩ path listed)
    exact ⟨here, _, read, gathered⟩

theorem violationsOf_found_iff {step : PyValue × Nat} {texts : List PyStr}
    (read : pathsToCheck step.1 = .ok (texts.map .str))
    (convertible : ∀ text ∈ texts, Convertible python agentStr text) :
    (∃ here, violationsOf python agentStr step = .ok here ∧ here ≠ []) ↔
      ∃ text ∈ texts, HasOther python agentStr text := by
  have unfolded : violationsOf python agentStr step =
      gather (violationsIn python agentStr step.2) (texts.map .str) := by
    rw [violationsOf, read]
    rfl
  rw [unfolded, gather_found_iff]
  constructor
  · rintro ⟨-, path, listed, found⟩
    obtain ⟨text, rfl, -, other⟩ := violationsIn_found_iff.mp found
    obtain ⟨held, present, same⟩ := List.mem_map.mp listed
    cases same
    exact ⟨text, present, other⟩
  · rintro ⟨text, present, other⟩
    refine ⟨fun path listed => ?_, .str text, List.mem_map.mpr ⟨text, present, rfl⟩, ?_⟩
    · exact violationsIn_ok_iff.mpr (texts_of_paths.mpr ⟨texts, rfl, convertible⟩ path listed)
    · exact violationsIn_found_iff.mpr ⟨text, rfl, convertible text present, other⟩

theorem mem_zipIdx_iff {step : PyValue} : (∃ index, (step, index) ∈ steps.zipIdx) ↔ step ∈ steps := by
  constructor
  · rintro ⟨index, listed⟩
    have mapped : step ∈ steps.zipIdx.map Prod.fst := List.mem_map.mpr ⟨_, listed, rfl⟩
    rwa [List.zipIdx_map_fst] at mapped
  · intro listed
    rw [← List.zipIdx_map_fst 0 steps] at listed
    obtain ⟨⟨_, index⟩, present, rfl⟩ := List.mem_map.mp listed
    exact ⟨index, present⟩

theorem reports_fail_iff :
    Reports (checkCrossSandboxAccess python steps agentNum) "no_cross_sandbox_access" .FAIL ↔
      agentNum < 10 ^ kMaxStrDigits ∧
        ∃ violations, gather (violationsOf python (agentName agentNum)) steps.zipIdx = .ok violations ∧
          violations ≠ [] := by
  simp only [Reports, checkCrossSandboxAccess, Effect.bind_eq_ok, dumpsInt_natCast]
  constructor
  · rintro ⟨_, ⟨_, ⟨printable, rfl⟩, violations, gathered, same⟩, check, listed, -, failed⟩
    cases same
    refine ⟨printable, violations, gathered, ?_⟩
    rintro rfl
    rw [List.mem_singleton] at listed
    subst listed
    cases failed
  · rintro ⟨printable, violations, gathered, nonempty⟩
    have filled : violations.isEmpty = false := by simpa using nonempty
    refine ⟨_, ⟨_, ⟨printable, rfl⟩, violations, gathered, rfl⟩, _, List.mem_singleton_self _, ?_⟩
    simp [filled]

theorem readable_steps_iff {holds : PyStr → Prop} :
    (∀ step ∈ steps, ∃ texts : List PyStr, pathsToCheck step = .ok (texts.map .str) ∧
        ∀ text ∈ texts, holds text) ↔
      (∀ step ∈ steps, ∃ texts : List PyStr, pathsToCheck step = .ok (texts.map .str)) ∧
        ∀ text, Reads steps text → holds text := by
  constructor
  · intro each
    constructor
    · intro step present
      obtain ⟨texts, read, -⟩ := each step present
      exact ⟨texts, read⟩
    · rintro text ⟨step, present, paths, read, inside⟩
      obtain ⟨texts, read', held⟩ := each step present
      rw [read, Except.ok.injEq] at read'
      subst read'
      rw [List.mem_map_of_injective fun _ _ => PyValue.str.inj] at inside
      exact held text inside
  · rintro ⟨readable, held⟩ step present
    obtain ⟨texts, read⟩ := readable step present
    refine ⟨texts, read, fun text inside => held text ?_⟩
    exact ⟨step, present, _, read, List.mem_map.mpr ⟨text, inside, rfl⟩⟩

theorem reports_fail_iff_detected :
    Reports (checkCrossSandboxAccess python steps agentNum) "no_cross_sandbox_access" .FAIL ↔
      Detected python steps agentNum := by
  have visits : (∀ step ∈ steps.zipIdx, ∃ here, violationsOf python (agentName agentNum) step = .ok here) ↔
      ∀ step ∈ steps, ∃ texts : List PyStr, pathsToCheck step = .ok (texts.map .str) ∧
        ∀ text ∈ texts, Convertible python (agentName agentNum) text := by
    simp only [violationsOf_ok_iff, ← mem_zipIdx_iff, forall_exists_index, Prod.forall]
  rw [reports_fail_iff, gather_found_iff, visits]
  constructor
  · rintro ⟨printable, each, ⟨step, index⟩, listed, found⟩
    have present : step ∈ steps := mem_zipIdx_iff.mp ⟨index, listed⟩
    obtain ⟨readable, convertible⟩ := readable_steps_iff.mp each
    obtain ⟨texts, read, converted⟩ := each step present
    obtain ⟨text, inside, other⟩ := (violationsOf_found_iff read converted).mp found
    exact ⟨printable, readable, convertible, text,
      ⟨step, present, _, read, List.mem_map.mpr ⟨text, inside, rfl⟩⟩, other⟩
  · rintro ⟨printable, readable, convertible, text, ⟨step, present, paths, read, inside⟩, other⟩
    have each := readable_steps_iff.mpr ⟨readable, convertible⟩
    obtain ⟨texts, read', converted⟩ := each step present
    obtain ⟨index, listed⟩ := mem_zipIdx_iff.mpr present
    rw [read, Except.ok.injEq] at read'
    subst read'
    obtain ⟨held, inside, same⟩ := List.mem_map.mp inside
    cases same
    exact ⟨printable, each, _, listed,
      (violationsOf_found_iff read converted).mpr ⟨text, inside, other⟩⟩

/-- A path into another sandbox is reported exactly when, if there is one, the check comes to its end
and some number other than the agent's own is exposed. -/
theorem cross_sandbox_reported_iff (python : Python) (steps : List PyValue) (agentNum : Nat) :
    ((∃ text, Reads steps text ∧ Foreign python agentNum text) →
        Reports (checkCrossSandboxAccess python steps agentNum) "no_cross_sandbox_access" .FAIL) ↔
      (¬ (∃ text, Reads steps text ∧ Foreign python agentNum text) ∨
        Detected python steps agentNum) := by
  rw [reports_fail_iff_detected, imp_iff_not_or]

-- The agent's own name has the agent's number, so another number is another name.
theorem decimalValue_agentName (python : Python) (agentNum : Nat) :
    decimalValue python (agentName agentNum) = agentNum := by
  rw [decimalValue, agentName, PyJson.shownDigits, List.foldl_map]
  refine Eq.trans (List.foldl_ext _ (fun sum digit => 10 * sum + digit) 0 ?_)
    (PyJson.foldl_decimalDigits agentNum)
  intro sum digit listed
  have small := PyJson.decimalDigits_lt listed
  have value : (PyJson.code (48 + digit)).val = 48 + digit := PyJson.code_val (by omega)
  rw [digitValue, value, if_pos (by omega), Nat.add_sub_cancel_left]

theorem reported_of_unchained (printable : agentNum < 10 ^ kMaxStrDigits)
    (readable : ∀ step ∈ steps, ∃ texts : List PyStr, pathsToCheck step = .ok (texts.map .str))
    (convertible : ∀ text, Reads steps text → Convertible python (agentName agentNum) text)
    (apart : ∀ text, Reads steps text → ∀ before digits,
      (agentsPattern python).SegmentAt text before digits → (agentsPattern python).Chained 0 before)
    (foreign : ∃ text, Reads steps text ∧ Foreign python agentNum text) :
    Reports (checkCrossSandboxAccess python steps agentNum) "no_cross_sandbox_access" .FAIL := by
  obtain ⟨text, read, before, digits, segment, other⟩ := foreign
  refine reports_fail_iff_detected.mpr ⟨printable, readable, convertible, text, read, digits, ?_, ?_⟩
  · exact ⟨before, 0, segment, apart text read before digits segment, by decide⟩
  · rintro rfl
    exact other (decimalValue_agentName python agentNum)

-- Agent 1 looks into the directory that agent 2 has below its own.
def nestedView : PyValue :=
  .dict [(py "type", .str (py "CORTEX_STEP_TYPE_VIEW_FILE")),
    (py "viewFile", .dict [(py "absolutePathUri", .str (py "/agents/1/agents/2/x"))])]

theorem nested_sandbox_not_reported :
    ¬ ((∃ text, Reads [nestedView] text ∧ Foreign plainPython 1 text) →
      Reports (checkCrossSandboxAccess plainPython [nestedView] 1) "no_cross_sandbox_access" .FAIL) := by
  intro reported
  have name : agentName 1 = [49] := by
    simp [agentName, PyJson.decimalDigits, PyJson.shownDigits, PyJson.code]
  have quiet : gather (violationsOf plainPython [49]) [nestedView].zipIdx = .ok [] := by
    rfl
  have read : Reads [nestedView] (py "/agents/1/agents/2/x") :=
    ⟨nestedView, List.mem_singleton_self _, _, rfl, List.mem_singleton_self _⟩
  have foreign : Foreign plainPython 1 (py "/agents/1/agents/2/x") :=
    ⟨py "/agents/1", py "2", ⟨⟨by decide, by simp [agentsPattern, isDecimal, py]⟩, py "x", rfl⟩, by decide⟩
  obtain ⟨-, violations, gathered, nonempty⟩ := reports_fail_iff.mp (reported ⟨_, read, foreign⟩)
  rw [name, quiet] at gathered
  cases gathered
  exact nonempty rfl

end Ztab.Audit
