import Ztab.Session.PolicyFiles

set_option autoImplicit false

/-!
# Loading a directory, in any order

The loop of `LoadFromDirectory` registers as it goes and returns at the first file it cannot take.
Whether it comes to its end, and what the registry then holds, is said of the files as a set.
-/

namespace Ztab.PolicyRegistry

variable {json : Nlohmann} {registry : PolicyRegistry} {dirPath : String}

theorem Defines.unique {contents : Option Bytes} {firstClass secondClass : String}
    {first second : PolicyDefinition} (one : Defines json contents firstClass first)
    (other : Defines json contents secondClass second) : firstClass = secondClass ∧ first = second := by
  obtain ⟨text, doc, members, opened, parsed, named, prompted, given, input, output⟩ := one
  obtain ⟨_, _, _, opened', parsed', named', prompted', given', input', output'⟩ := other
  cases opened.symm.trans opened'
  cases parsed.symm.trans parsed'
  cases given.symm.trans given'
  refine ⟨by simpa using named.symm.trans named', ?_⟩
  cases first
  cases second
  simp_all

/-- Every file defines a policy, no two of them and none of the registry under the same name. -/
structure Loadable (json : Nlohmann) (registry : PolicyRegistry) (files : List PolicyFile) : Prop where
  defined : ∀ file ∈ files, ∃ policyClass definition, Defines json file.contents policyClass definition
  distinct : files.Pairwise fun first second => ∀ policyClass definition other,
    Defines json first.contents policyClass definition →
    ¬ Defines json second.contents policyClass other
  unregistered : ∀ file ∈ files, ∀ policyClass definition,
    Defines json file.contents policyClass definition → policyClass ∉ registry

/-- The registry has what it had before and what the files define, and nothing else. -/
structure Extends (json : Nlohmann) (registry extended : PolicyRegistry)
    (files : List PolicyFile) : Prop where
  lookup : ∀ policyClass definition, extended.lookup policyClass = some definition ↔
    registry.lookup policyClass = some definition ∨
      ∃ file ∈ files, Defines json file.contents policyClass definition
  size : FlatHashMap.size extended = FlatHashMap.size registry + files.length

theorem loadable_cons {file : PolicyFile} {rest : List PolicyFile} {policyClass : String}
    {definition : PolicyDefinition} (defines : Defines json file.contents policyClass definition)
    (absent : policyClass ∉ registry) :
    Loadable json registry (file :: rest) ↔
      Loadable json (registry.insert policyClass definition) rest := by
  constructor
  · rintro ⟨defined, distinct, unregistered⟩
    obtain ⟨apart, distinct⟩ := List.pairwise_cons.mp distinct
    refine ⟨fun other later => defined other (List.mem_cons_of_mem _ later), distinct, ?_⟩
    intro other later name given named present
    rcases (AList.mem_insert registry).mp present with rfl | old
    · exact apart other later name definition given defines named
    · exact unregistered other (List.mem_cons_of_mem _ later) name given named old
  · rintro ⟨defined, distinct, unregistered⟩
    have free : ∀ other ∈ rest, ∀ name given, Defines json other.contents name given →
        name ≠ policyClass ∧ name ∉ registry := by
      intro other later name given named
      have missing := unregistered other later name given named
      exact not_or.mp fun present => missing ((AList.mem_insert registry).mpr present)
    refine ⟨?_, List.pairwise_cons.mpr ⟨?_, distinct⟩, ?_⟩
    · rintro other (_ | ⟨_, later⟩)
      · exact ⟨policyClass, definition, defines⟩
      · exact defined other later
    · intro other later name given second named again
      exact (free other later name second again).1 (named.unique defines).1
    · rintro other (_ | ⟨_, later⟩) name given named
      · rw [(named.unique defines).1]
        exact absent
      · exact (free other later name given named).2

theorem Extends.cons {extended : PolicyRegistry} {file : PolicyFile} {rest : List PolicyFile}
    {policyClass : String} {definition : PolicyDefinition}
    (defines : Defines json file.contents policyClass definition) (absent : policyClass ∉ registry)
    (extends_ : Extends json (registry.insert policyClass definition) extended rest) :
    Extends json registry extended (file :: rest) := by
  constructor
  · intro name given
    rw [extends_.lookup, FlatHashMap.lookup_insert_ite, List.exists_mem_cons_iff]
    by_cases same : name = policyClass
    next =>
      subst same
      have fresh : registry.lookup name = none := AList.lookup_eq_none.mpr absent
      have only : Defines json file.contents name given ↔ definition = given :=
        ⟨fun again => (defines.unique again).2, fun equal => equal ▸ defines⟩
      simp [fresh, only]
    next =>
      have other : ¬ Defines json file.contents name given :=
        fun again => same (again.unique defines).1
      simp [same, other]
  · rw [extends_.size, FlatHashMap.size_insert_of_not_mem _ _ _ absent, List.length_cons]
    omega

theorem loadEntries_filter (registry : PolicyRegistry) (loaded : Nat) (files : List PolicyFile) :
    loadEntries json dirPath registry loaded files =
      loadEntries json dirPath registry loaded (files.filter PolicyFile.isJson) := by
  induction files generalizing registry loaded with
  | nil => rfl
  | cons file rest ih =>
    by_cases read : file.isJson = true
    next =>
      rw [List.filter_cons_of_pos read]
      simp only [loadEntries, read, if_true]
      split
      next => exact ih _ _
      next => rfl
    next =>
      rw [List.filter_cons_of_neg read, ← ih]
      simp [loadEntries, read]

theorem loadEntries_loadable (dirPath : String) {files : List PolicyFile} (read : ∀ file ∈ files, file.isJson = true)
    (registry : PolicyRegistry) (loaded : Nat) (loadable : Loadable json registry files) :
    ∃ extended, loadEntries json dirPath registry loaded files = (extended, .ok (loaded + files.length)) ∧
      Extends json registry extended files := by
  induction files generalizing registry loaded with
  | nil => exact ⟨registry, rfl, by simp, rfl⟩
  | cons file rest ih =>
    obtain ⟨policyClass, definition, defines⟩ := loadable.defined file List.mem_cons_self
    have absent := loadable.unregistered file List.mem_cons_self policyClass definition defines
    obtain ⟨extended, done, extends_⟩ :=
      ih (fun other later => read other (List.mem_cons_of_mem _ later)) _ (loaded + 1)
        ((loadable_cons defines absent).mp loadable)
    refine ⟨extended, ?_, extends_.cons defines absent⟩
    have added : loadPolicy json registry (dirPath ++ "/" ++ file.filename) file.contents =
        .ok (registry.insert policyClass definition) :=
      loadPolicy_eq_ok.mpr ⟨policyClass, definition, defines, absent, rfl⟩
    simp only [loadEntries, read file List.mem_cons_self, if_true, added, done, List.length_cons]
    rw [Nat.add_right_comm, Nat.add_assoc]

theorem loadable_of_loadEntries {files : List PolicyFile} (read : ∀ file ∈ files, file.isJson = true)
    (registry : PolicyRegistry) (loaded : Nat) {total : Nat}
    (done : (loadEntries json dirPath registry loaded files).2 = .ok total) :
    Loadable json registry files := by
  induction files generalizing registry loaded with
  | nil => exact ⟨by simp, .nil, by simp⟩
  | cons file rest ih =>
    simp only [loadEntries, read file List.mem_cons_self, if_true] at done
    split at done
    next extended added =>
      obtain ⟨policyClass, definition, defines, absent, rfl⟩ := loadPolicy_eq_ok.mp added
      exact (loadable_cons defines absent).mpr
        (ih (fun other later => read other (List.mem_cons_of_mem _ later)) _ _ done)
    next => cases done

def policyFiles (files : List PolicyFile) : List PolicyFile := files.filter PolicyFile.isJson

theorem policyFiles_isJson {files : List PolicyFile} :
    ∀ file ∈ policyFiles files, file.isJson = true :=
  fun _ member => (List.mem_filter.mp member).2

theorem loadFromDirectory_loadable (dirPath : String) {files : List PolicyFile}
    (present : policyFiles files ≠ []) (loadable : Loadable json registry (policyFiles files)) :
    ∃ extended, loadFromDirectory json registry dirPath (some files) = (extended, .ok ()) ∧
      Extends json registry extended (policyFiles files) := by
  obtain ⟨extended, done, extends_⟩ :=
    loadEntries_loadable dirPath policyFiles_isJson registry 0 loadable
  refine ⟨extended, ?_, extends_⟩
  obtain ⟨first, rest, some⟩ := List.exists_cons_of_ne_nil present
  rw [policyFiles, ← loadEntries_filter, ← policyFiles, some, List.length_cons] at done
  simp only [loadFromDirectory, done, Nat.zero_add]

theorem loadFromDirectory_ok_iff (files : List PolicyFile) :
    (loadFromDirectory json registry dirPath (some files)).2 = .ok () ↔
      policyFiles files ≠ [] ∧ Loadable json registry (policyFiles files) := by
  constructor
  · intro accepted
    simp only [loadFromDirectory] at accepted
    split at accepted
    next => cases accepted
    next => simp [refuse] at accepted
    next extended total counted entries =>
      rw [loadEntries_filter] at entries
      refine ⟨?_, loadable_of_loadEntries policyFiles_isJson registry 0 (congrArg Prod.snd entries)⟩
      intro empty
      rw [← policyFiles, empty] at entries
      cases entries
      exact counted rfl
  · rintro ⟨present, loadable⟩
    obtain ⟨extended, done, -⟩ := loadFromDirectory_loadable dirPath present loadable
    rw [done]

theorem Loadable.perm {files others : List PolicyFile} (same : files.Perm others)
    (loadable : Loadable json registry files) : Loadable json registry others := by
  refine ⟨fun file member => loadable.defined file (same.mem_iff.mpr member), ?_,
    fun file member => loadable.unregistered file (same.mem_iff.mpr member)⟩
  refine same.pairwise loadable.distinct ?_
  intro first second apart policyClass definition other named again
  exact apart policyClass other definition again named

/-- Loading a directory succeeds or fails, and fills the registry, in a way that does not depend on
the order of its entries. -/
theorem policy_loading_order_independent (json : Nlohmann) (registry : PolicyRegistry)
    (dirPath : String) (files : List PolicyFile) :
    ((loadFromDirectory json registry dirPath (some files)).2 = .ok () ↔
        policyFiles files ≠ [] ∧ Loadable json registry (policyFiles files)) ∧
      ((loadFromDirectory json registry dirPath (some files)).2 = .ok () →
        Extends json registry (loadFromDirectory json registry dirPath (some files)).1
          (policyFiles files)) ∧
      ∀ listing, files.Perm listing →
        ((loadFromDirectory json registry dirPath (some listing)).2 = .ok () ↔
          (loadFromDirectory json registry dirPath (some files)).2 = .ok ()) ∧
        ((loadFromDirectory json registry dirPath (some files)).2 = .ok () → ∀ policyClass,
          (loadFromDirectory json registry dirPath (some listing)).1.lookup policyClass =
            (loadFromDirectory json registry dirPath (some files)).1.lookup policyClass) := by
  have filled (listing : List PolicyFile)
      (accepted : (loadFromDirectory json registry dirPath (some listing)).2 = .ok ()) :
      Extends json registry (loadFromDirectory json registry dirPath (some listing)).1
        (policyFiles listing) := by
    obtain ⟨present, loadable⟩ := (loadFromDirectory_ok_iff listing).mp accepted
    obtain ⟨extended, done, extends_⟩ := loadFromDirectory_loadable dirPath present loadable
    rw [done]
    exact extends_
  refine ⟨loadFromDirectory_ok_iff files, filled files, ?_⟩
  intro listing reordered
  have same : (policyFiles files).Perm (policyFiles listing) := reordered.filter _
  have agree : (loadFromDirectory json registry dirPath (some listing)).2 = .ok () ↔
      (loadFromDirectory json registry dirPath (some files)).2 = .ok () := by
    rw [loadFromDirectory_ok_iff, loadFromDirectory_ok_iff, ne_eq, ne_eq, ← List.length_eq_zero_iff,
      ← List.length_eq_zero_iff, same.length_eq]
    exact and_congr_right' ⟨Loadable.perm same.symm, Loadable.perm same⟩
  refine ⟨agree, fun accepted policyClass => Option.ext fun definition => ?_⟩
  rw [(filled listing (agree.mpr accepted)).lookup, (filled files accepted).lookup]
  simp only [same.mem_iff]

end Ztab.PolicyRegistry
