import Mathlib.Algebra.Order.Ring.Rat
import Mathlib.Logic.Function.Basic
import Mathlib.Tactic.Linarith
import Ztab.Agent.ItaVerifier
import Ztab.Shared.Machine

set_option autoImplicit false

/-!
# The cache of signing keys

`get_jwks` and the forced refresh of `ita_verifier`, run by any number of calls at once. Every
unlocked read, every store and every change of `_JWKS_LOCK` is a step of its own, so that a call may
be overtaken between any two of them.
-/

namespace Ztab.Jwks

def jwksTtl : ℚ := 86400

theorem jwksTtl_pos : 0 < jwksTtl := by norm_num [jwksTtl]

structure KeySet where
  value : PyValue
  began : ℚ
  order : Nat

-- `_JWKS_CACHE` and `_JWKS_LOCK`. `lastReset` is a history variable: the last step that set the
-- timestamp back, and step 0 stands for none.
structure Cache where
  data : Option KeySet := none
  timestamp : ℚ := 0
  lock : Option Nat := none
  lastReset : Nat := 0

inductive Lookup (Key : Type) where
  | noKid
  | found (key : Key)
  | missing (kid : PyValue)

section Lookups

variable {Key : Type} (jwt : Ita.PyJwt Key)

def firstLookup (token : PyStr) (jwks : PyValue) : Except PyException (Lookup Key) := do
  let keys ← jwt.signingKeys jwks
  let header ← jwt.getUnverifiedHeader token
  let kid := (PyValue.find (py "kid") header).getD .none
  if kid.truthy = false then return .noKid
  else
    match Ita.matchingKey kid keys with
    | some key => return .found key
    | none => return .missing kid

def secondLookup (kid : PyValue) (jwks : PyValue) : Except PyException (Option Key) := do
  let keys ← jwt.signingKeys jwks
  return Ita.matchingKey kid keys

-- Step 1 of the verifier is these two lookups, the second one after a forced refresh.
theorem decodeToken_lookups (policy : ItaPolicy) (token : PyStr) :
    Ita.decodeToken jwt policy token = (do
      let decoded (key : Key) : Except PyException (Option PyValue) := do
        let claims ← jwt.decode token key policy.clockSkewSeconds
        return some (.dict claims)
      match ← firstLookup jwt token (← jwt.getJwks false) with
      | .noKid => return none
      | .found key => decoded key
      | .missing kid =>
        match ← secondLookup jwt kid (← jwt.getJwks true) with
        | none => return none
        | some key => decoded key) := by
  unfold Ita.decodeToken firstLookup secondLookup Ita.refreshedKey
  cases jwt.getJwks false with
  | error raised => rfl
  | ok jwks =>
    cases keyed : jwt.signingKeys jwks with
    | error raised => simp [keyed, bind, Except.bind]
    | ok keys =>
      cases headed : jwt.getUnverifiedHeader token with
      | error raised => simp [keyed, bind, Except.bind]
      | ok header =>
        simp only [keyed, bind, Except.bind, pure, Except.pure]
        by_cases named : ((PyValue.find (py "kid") header).getD .none).truthy = false
        next => simp [named]
        next =>
          simp only [named]
          cases Ita.matchingKey ((PyValue.find (py "kid") header).getD .none) keys with
          | some key => rfl
          | none =>
            cases jwt.getJwks true with
            | error raised => rfl
            | ok again =>
              simp only
              cases jwt.signingKeys again <;> rfl

end Lookups

inductive Point where
  | readClock
  | readData (now : ℚ)
  | readTimestamp (now : ℚ)
  | returnCached
  | acquire (now : ℚ)
  | check (now : ℚ)
  | fetching (now : ℚ) (began : ℚ) (order : Nat)
  | storeTimestamp (now : ℚ)
  | leave

/-- The key that was missed, and the steps of the miss and of the reset that followed it. -/
structure Again where
  kid : PyValue
  missed : Nat
  reset : Nat

inductive Verdict (Key : Type) where
  | noKid
  | found (key : Key)
  | unknownKid (kid : PyValue)
  | raised (exception : PyException)

inductive Pc (Key : Type) where
  | idle
  -- inside get_jwks, called at `start`
  | jwks (again : Option Again) (start : ℚ) (point : Point)
  | missed (kid : PyValue) (missed : Nat)
  | resetting (kid : PyValue) (missed : Nat)
  | calling (again : Again)
  | finished (verdict : Verdict Key)

structure Action where
  call : Nat
  time : ℚ
  fetched : Except PyException PyValue := .error .typeError

-- What get_jwks returns, called at `start`.
structure Return where
  start : ℚ
  again : Option Again
  keys : KeySet

section Steps

variable {Key : Type} (jwt : Ita.PyJwt Key)

def lookUp (token : PyStr) (step : Nat) (again : Option Again) (jwks : PyValue) : Pc Key :=
  match again with
  | none =>
    match firstLookup jwt token jwks with
    | .error exception => .finished (.raised exception)
    | .ok .noKid => .finished .noKid
    | .ok (.found key) => .finished (.found key)
    | .ok (.missing kid) => .missed kid step
  | some again =>
    match secondLookup jwt again.kid jwks with
    | .error exception => .finished (.raised exception)
    | .ok (some key) => .finished (.found key)
    | .ok none => .finished (.unknownKid again.kid)

-- `return _JWKS_CACHE["data"]`, and what the verifier does with it. PyJWT has no keys for None.
def returnJwks (token : PyStr) (step : Nat) (again : Option Again) (start : ℚ) :
    Option KeySet → Pc Key × Option Return
  | none => (.finished (.raised .typeError), none)
  | some keys => (lookUp jwt token step again keys.value, some ⟨start, again, keys⟩)

def inJwks (cache : Cache) (token : PyStr) (step : Nat) (action : Action) (again : Option Again)
    (start : ℚ) : Point → Cache × Pc Key × Option Return
  | .readClock => (cache, .jwks again start (.readData action.time), none)
  | .readData now =>
    if cache.data.isSome then (cache, .jwks again start (.readTimestamp now), none)
    else (cache, .jwks again start (.acquire now), none)
  | .readTimestamp now =>
    if now - cache.timestamp ≤ jwksTtl then (cache, .jwks again start .returnCached, none)
    else (cache, .jwks again start (.acquire now), none)
  | .returnCached => (cache, returnJwks jwt token step again start cache.data)
  | .acquire now =>
    if cache.lock.isNone then
      ({ cache with lock := some action.call }, .jwks again start (.check now), none)
    else (cache, .jwks again start (.acquire now), none)
  | .check now =>
    if cache.data.isNone ∨ now - cache.timestamp > jwksTtl then
      (cache, .jwks again start (.fetching now action.time step), none)
    else (cache, .jwks again start .leave, none)
  | .fetching now began order =>
    match action.fetched with
    -- `_fetch_jwks` counts the "keys" of its answer, which raises on anything that is not a dict.
    | .ok value =>
      ({ cache with data := some ⟨value, began, order⟩ }, .jwks again start (.storeTimestamp now),
        none)
    -- The exception leaves the lock and is caught in the verifier.
    | .error exception => ({ cache with lock := none }, .finished (.raised exception), none)
  | .storeTimestamp now => ({ cache with timestamp := now }, .jwks again start .leave, none)
  | .leave => ({ cache with lock := none }, returnJwks jwt token step again start cache.data)

def advance (cache : Cache) (token : PyStr) (step : Nat) (action : Action) :
    Pc Key → Cache × Pc Key × Option Return
  | .idle => (cache, .jwks none action.time .readClock, none)
  | .jwks again start point => inJwks jwt cache token step action again start point
  | .missed kid missed =>
    if cache.lock.isNone then
      ({ cache with lock := some action.call }, .resetting kid missed, none)
    else (cache, .missed kid missed, none)
  | .resetting kid missed =>
    ({ cache with timestamp := 0, lock := none, lastReset := step }, .calling ⟨kid, missed, step⟩,
      none)
  | .calling again => (cache, .jwks (some again) action.time .readClock, none)
  | .finished verdict => (cache, .finished verdict, none)

structure Verifiers (Key : Type) where
  cache : Cache := {}
  clock : ℚ := 0
  steps : Nat := 1
  calls : Nat → Pc Key := fun _ => .idle

def verifiers (tokens : Nat → PyStr) : Machine (Verifiers Key) Action (Option Return) where
  initial := {}
  step state action :=
    let (cache, pc, returned) :=
      advance jwt state.cache (tokens action.call) state.steps action (state.calls action.call)
    ({ cache
       clock := action.time
       steps := state.steps + 1
       calls := Function.update state.calls action.call pc }, returned)

-- The clock is past the first day of its epoch, and does not run backwards.
def Timely (state : Verifiers Key) (action : Action) : Prop :=
  state.clock ≤ action.time ∧ jwksTtl < action.time

end Steps

structure Suits (again : Option Again) (start : ℚ) (keys : KeySet) : Prop where
  recent : start - keys.began ≤ jwksTtl
  refreshed : ∀ miss ∈ again, miss.reset < keys.order

/-- The timestamp is never later than the keys it stands for, and was not stored since a reset
unless new keys were. -/
structure CacheOk (cache : Cache) (clock : ℚ) (steps : Nat) : Prop where
  stamped : cache.timestamp ≤ clock
  resets : cache.lastReset < steps
  dated : ∀ keys ∈ cache.data, cache.timestamp ≤ keys.began
  refreshed : ∀ keys ∈ cache.data, cache.timestamp = 0 ∨ cache.lastReset < keys.order
  past : ∀ keys ∈ cache.data, keys.began ≤ clock ∧ keys.order < steps
  late : ∀ keys ∈ cache.data, 0 ≤ keys.began

-- A call that has read the clock. Its own reset, if any, is not later than the last one.
structure TimedOk (cache : Cache) (clock : ℚ) (again : Option Again) (start now : ℚ) : Prop where
  started : start ≤ now
  read : now ≤ clock
  late : jwksTtl < now
  reset : ∀ miss ∈ again, miss.reset ≤ cache.lastReset

-- A call that holds the lock while it fetches: its fetch is later than all that is in the cache.
structure FetchingOk (cache : Cache) (clock : ℚ) (steps : Nat) (now began : ℚ) (order : Nat) :
    Prop where
  timed : now ≤ began ∧ began ≤ clock
  ordered : cache.lastReset < order ∧ order < steps
  stamped : cache.timestamp ≤ began
  newer : ∀ keys ∈ cache.data, keys.began ≤ began ∧ keys.order ≤ order

def PointOk (cache : Cache) (clock : ℚ) (steps call : Nat) (again : Option Again) (start : ℚ) :
    Point → Prop
  | .readClock => start ≤ clock ∧ ∀ miss ∈ again, miss.reset ≤ cache.lastReset
  | .readData now | .acquire now => TimedOk cache clock again start now
  | .readTimestamp now => TimedOk cache clock again start now ∧ cache.data.isSome
  | .returnCached => ∃ keys ∈ cache.data, Suits again start keys
  | .check now => TimedOk cache clock again start now ∧ cache.lock = some call
  | .fetching now began order =>
    TimedOk cache clock again start now ∧ cache.lock = some call ∧
      FetchingOk cache clock steps now began order
  | .storeTimestamp now =>
    TimedOk cache clock again start now ∧ cache.lock = some call ∧
      ∃ keys ∈ cache.data, now ≤ keys.began ∧ cache.lastReset < keys.order
  | .leave => cache.lock = some call ∧ ∃ keys ∈ cache.data, Suits again start keys

def Again.Ordered (again : Again) : Prop := again.missed < again.reset

def PcOk {Key : Type} (cache : Cache) (clock : ℚ) (steps call : Nat) : Pc Key → Prop
  | .idle | .finished _ => True
  | .jwks again start point =>
    (∀ miss ∈ again, miss.Ordered) ∧ PointOk cache clock steps call again start point
  | .missed _ missed => missed < steps
  | .resetting _ missed => missed < steps ∧ cache.lock = some call
  | .calling again => again.Ordered ∧ again.reset ≤ cache.lastReset

/-- How the cache changes while a call stands still: keys only get newer, resets only later, and
nothing changes while the call holds the lock. -/
structure Overtaken (call : Nat) (cache next : Cache) : Prop where
  newer : ∀ keys ∈ cache.data, ∃ later ∈ next.data,
    keys.began ≤ later.began ∧ keys.order ≤ later.order
  resets : cache.lastReset ≤ next.lastReset
  locked : cache.lock = some call → next = cache

theorem Overtaken.refl (call : Nat) (cache : Cache) : Overtaken call cache cache :=
  ⟨fun keys held => ⟨keys, held, le_rfl, le_rfl⟩, le_rfl, fun _ => rfl⟩

section Overtaking

variable {cache next : Cache} {clock later : ℚ} {steps call : Nat} {again : Option Again}
  {start now : ℚ}

theorem Suits.newer {keys newer : KeySet} (suits : Suits again start keys)
    (began : keys.began ≤ newer.began) (order : keys.order ≤ newer.order) :
    Suits again start newer := by
  refine ⟨?_, fun miss held => (suits.refreshed miss held).trans_le order⟩
  have recent := suits.recent
  linarith

theorem Overtaken.suits (overtaken : Overtaken call cache next)
    (held : ∃ keys ∈ cache.data, Suits again start keys) :
    ∃ keys ∈ next.data, Suits again start keys := by
  obtain ⟨keys, stored, suits⟩ := held
  obtain ⟨newer, kept, began, order⟩ := overtaken.newer keys stored
  exact ⟨newer, kept, suits.newer began order⟩

theorem TimedOk.overtaken (timed : TimedOk cache clock again start now)
    (overtaken : Overtaken call cache next) (passed : clock ≤ later) :
    TimedOk next later again start now :=
  ⟨timed.started, timed.read.trans passed, timed.late,
    fun miss held => (timed.reset miss held).trans overtaken.resets⟩

theorem PointOk.overtaken {point : Point} (ok : PointOk cache clock steps call again start point)
    (overtaken : Overtaken call cache next) (passed : clock ≤ later) :
    PointOk next later (steps + 1) call again start point := by
  cases point with
  | readClock =>
    exact ⟨ok.1.trans passed, fun miss held => (ok.2 miss held).trans overtaken.resets⟩
  | readData now | acquire now => exact TimedOk.overtaken ok overtaken passed
  | readTimestamp now =>
    refine ⟨ok.1.overtaken overtaken passed, ?_⟩
    obtain ⟨keys, held⟩ := Option.isSome_iff_exists.mp ok.2
    obtain ⟨newer, kept, -⟩ := overtaken.newer keys held
    exact Option.isSome_iff_exists.mpr ⟨newer, kept⟩
  | returnCached => exact overtaken.suits ok
  | check now =>
    obtain ⟨timed, locked⟩ := ok
    exact ⟨timed.overtaken overtaken passed, by rw [overtaken.locked locked]; exact locked⟩
  | fetching now began order =>
    obtain ⟨timed, locked, fetching⟩ := ok
    refine ⟨timed.overtaken overtaken passed, ?_⟩
    rw [overtaken.locked locked]
    exact ⟨locked, ⟨fetching.timed.1, fetching.timed.2.trans passed⟩,
      ⟨fetching.ordered.1, fetching.ordered.2.trans (Nat.lt_succ_self _)⟩, fetching.stamped,
      fetching.newer⟩
  | storeTimestamp now =>
    obtain ⟨timed, locked, stored⟩ := ok
    refine ⟨timed.overtaken overtaken passed, ?_⟩
    rw [overtaken.locked locked]
    exact ⟨locked, stored⟩
  | leave =>
    refine ⟨?_, overtaken.suits ok.2⟩
    rw [overtaken.locked ok.1]
    exact ok.1

theorem PcOk.overtaken {Key : Type} {pc : Pc Key} (ok : PcOk cache clock steps call pc)
    (overtaken : Overtaken call cache next) (passed : clock ≤ later) :
    PcOk next later (steps + 1) call pc := by
  cases pc with
  | idle | finished verdict => trivial
  | jwks again start point => exact ⟨ok.1, ok.2.overtaken overtaken passed⟩
  | missed kid missed => exact Nat.lt_succ_of_lt ok
  | resetting kid missed =>
    refine ⟨Nat.lt_succ_of_lt ok.1, ?_⟩
    rw [overtaken.locked ok.2]
    exact ok.2
  | calling again => exact ⟨ok.1, ok.2.trans overtaken.resets⟩

end Overtaking

structure StepOk {Key : Type} (before : Cache) (time : ℚ) (steps call : Nat)
    (result : Cache × Pc Key × Option Return) : Prop where
  cache : CacheOk result.1 time (steps + 1)
  pc : PcOk result.1 time (steps + 1) call result.2.1
  overtaken : ∀ other, other ≠ call → Overtaken other before result.1
  returned : ∀ ret ∈ result.2.2, Suits ret.again ret.start ret.keys ∧ ∀ miss ∈ ret.again, miss.Ordered

section Moving

variable {Key : Type} {jwt : Ita.PyJwt Key} {cache : Cache} {clock : ℚ} {steps call : Nat}
  {again : Option Again} {start : ℚ} {token : PyStr}

theorem CacheOk.later {time : ℚ} (ok : CacheOk cache clock steps) (passed : clock ≤ time) :
    CacheOk cache time (steps + 1) :=
  ⟨ok.stamped.trans passed, Nat.lt_succ_of_lt ok.resets, ok.dated, ok.refreshed,
    fun keys held => ⟨(ok.past keys held).1.trans passed, Nat.lt_succ_of_lt (ok.past keys held).2⟩,
    ok.late⟩

theorem CacheOk.relock (ok : CacheOk cache clock steps) (lock : Option Nat) :
    CacheOk { cache with lock } clock steps :=
  ⟨ok.stamped, ok.resets, ok.dated, ok.refreshed, ok.past, ok.late⟩

theorem Overtaken.relock {other : Nat} (free : cache.lock ≠ some other) (lock : Option Nat) :
    Overtaken other cache { cache with lock } :=
  ⟨fun keys held => ⟨keys, held, le_rfl, le_rfl⟩, le_rfl, fun locked => absurd locked free⟩

theorem lookUp_ok (time : ℚ) (value : PyValue) :
    PcOk cache time (steps + 1) call (lookUp jwt token steps again value) := by
  unfold lookUp
  cases again with
  | none =>
    simp only
    split
    next => trivial
    next => trivial
    next => trivial
    next => exact Nat.lt_succ_self _
  | some miss =>
    simp only
    split <;> trivial

theorem stepOk_local {time : ℚ} {pc : Pc Key} (ok : CacheOk cache clock steps) (passed : clock ≤ time)
    (onward : PcOk cache time (steps + 1) call pc) :
    StepOk cache time steps call (cache, pc, none) :=
  ⟨ok.later passed, onward, fun other _ => Overtaken.refl other cache, by simp⟩

theorem stepOk_return {next : Cache} {time : ℚ} (ordered : ∀ miss ∈ again, miss.Ordered)
    (held : ∃ keys ∈ cache.data, Suits again start keys) (ok : CacheOk next time (steps + 1))
    (overtaken : ∀ other, other ≠ call → Overtaken other cache next) :
    StepOk cache time steps call
      (next, returnJwks jwt token steps again start cache.data) := by
  obtain ⟨keys, stored, suits⟩ := held
  rw [Option.mem_def.mp stored]
  refine ⟨ok, lookUp_ok time keys.value, overtaken, ?_⟩
  intro ret same
  cases same
  exact ⟨suits, ordered⟩

-- A timestamp that is not too old was stored with keys fetched since the call's own reset.
theorem TimedOk.suits {now : ℚ} (timed : TimedOk cache clock again start now)
    (ok : CacheOk cache clock steps) (present : cache.data.isSome)
    (young : now - cache.timestamp ≤ jwksTtl) : ∃ keys ∈ cache.data, Suits again start keys := by
  obtain ⟨keys, held⟩ := Option.isSome_iff_exists.mp present
  have late := timed.late
  have started := timed.started
  have dated := ok.dated keys held
  refine ⟨keys, held, by linarith, ?_⟩
  intro miss own
  obtain zero | refreshed := ok.refreshed keys held
  · rw [zero] at young
    linarith
  · exact (timed.reset miss own).trans_lt refreshed

theorem inJwks_stepOk {point : Point} {action : Action} (ok : CacheOk cache clock steps)
    (ordered : ∀ miss ∈ again, miss.Ordered)
    (at_ : PointOk cache clock steps action.call again start point) (passed : clock ≤ action.time)
    (late : jwksTtl < action.time) :
    StepOk cache action.time steps action.call
      (inJwks jwt cache token steps action again start point) := by
  have unmoved (other : Nat) (_ : other ≠ action.call) := Overtaken.refl other cache
  cases point with
  | readClock =>
    exact stepOk_local ok passed ⟨ordered, at_.1.trans passed, le_rfl, late, at_.2⟩
  | readData now =>
    have timed := TimedOk.overtaken at_ (Overtaken.refl action.call cache) passed
    simp only [inJwks]
    split
    next present => exact stepOk_local ok passed ⟨ordered, timed, present⟩
    next => exact stepOk_local ok passed ⟨ordered, timed⟩
  | readTimestamp now =>
    simp only [inJwks]
    split
    next young => exact stepOk_local ok passed ⟨ordered, at_.1.suits ok at_.2 young⟩
    next =>
      exact stepOk_local ok passed
        ⟨ordered, at_.1.overtaken (Overtaken.refl action.call cache) passed⟩
  | returnCached => exact stepOk_return ordered at_ (ok.later passed) unmoved
  | acquire now =>
    have timed := TimedOk.overtaken at_ (Overtaken.refl action.call cache) passed
    simp only [inJwks]
    split
    next free =>
      refine ⟨(ok.later passed).relock _, ⟨ordered, ⟨timed.started, timed.read, timed.late, timed.reset⟩,
        rfl⟩, fun other _ => Overtaken.relock ?_ _, by simp⟩
      rw [Option.isNone_iff_eq_none.mp free]
      simp
    next => exact stepOk_local ok passed ⟨ordered, timed⟩
  | check now =>
    obtain ⟨timed, locked⟩ := at_
    simp only [inJwks]
    split
    next =>
      refine stepOk_local ok passed ⟨ordered, timed.overtaken (Overtaken.refl action.call cache) passed,
        locked, ⟨timed.read.trans passed, le_rfl⟩, ⟨ok.resets, Nat.lt_succ_self _⟩,
        ok.stamped.trans passed, ?_⟩
      intro keys held
      exact ⟨(ok.past keys held).1.trans passed, (ok.past keys held).2.le⟩
    next good =>
      obtain ⟨present, young⟩ := not_or.mp good
      refine stepOk_local ok passed ⟨ordered, locked, timed.suits ok ?_ (not_lt.mp young)⟩
      exact Option.isSome_iff_ne_none.mpr fun missing => present (by simp [missing])
  | fetching now began order =>
    obtain ⟨timed, locked, fetching⟩ := at_
    have apart (other : Nat) (different : other ≠ action.call) : cache.lock ≠ some other := by
      rw [locked]
      simpa using different.symm
    simp only [inJwks]
    split
    next value fetched =>
      refine ⟨⟨ok.stamped.trans passed, Nat.lt_succ_of_lt ok.resets, ?_, ?_, ?_, ?_⟩, ?_, ?_,
        by simp⟩
      · rintro keys ⟨⟩
        exact fetching.stamped
      · rintro keys ⟨⟩
        exact .inr fetching.ordered.1
      · rintro keys ⟨⟩
        exact ⟨fetching.timed.2.trans passed, Nat.lt_succ_of_lt fetching.ordered.2⟩
      · rintro keys ⟨⟩
        exact (jwksTtl_pos.trans timed.late).le.trans fetching.timed.1
      · exact ⟨ordered, ⟨timed.started, timed.read.trans passed, timed.late, timed.reset⟩, locked,
          _, rfl, fetching.timed.1, fetching.ordered.1⟩
      · intro other different
        exact ⟨fun keys held => ⟨_, rfl, fetching.newer keys held⟩, le_rfl,
          fun theirs => absurd theirs (apart other different)⟩
    next exception failed =>
      exact ⟨(ok.later passed).relock _, trivial,
        fun other different => Overtaken.relock (apart other different) _, by simp⟩
  | storeTimestamp now =>
    obtain ⟨timed, locked, keys, held, fetched, fresh⟩ := at_
    have only (other : KeySet) (stored : other ∈ cache.data) : other = keys :=
      Option.mem_unique stored held
    refine ⟨⟨timed.read.trans passed, Nat.lt_succ_of_lt ok.resets, ?_, ?_, (ok.later passed).past,
      ok.late⟩, ⟨ordered, locked, keys, held, ?_, ?_⟩, ?_, by simp [inJwks]⟩
    · intro other stored
      rw [only other stored]
      exact fetched
    · intro other stored
      rw [only other stored]
      exact .inr fresh
    · have started := timed.started
      have positive := jwksTtl_pos
      linarith
    · exact fun miss own => (timed.reset miss own).trans_lt fresh
    · intro other different
      refine ⟨fun keys held => ⟨keys, held, le_rfl, le_rfl⟩, le_rfl, fun theirs => ?_⟩
      rw [locked] at theirs
      exact absurd (Option.some.inj theirs).symm different
  | leave =>
    obtain ⟨locked, held⟩ := at_
    refine stepOk_return ordered held ((ok.later passed).relock _) ?_
    intro other different
    refine Overtaken.relock ?_ _
    rw [locked]
    simpa using different.symm

theorem advance_stepOk {pc : Pc Key} {action : Action} (ok : CacheOk cache clock steps)
    (at_ : PcOk cache clock steps action.call pc) (passed : clock ≤ action.time)
    (late : jwksTtl < action.time) :
    StepOk cache action.time steps action.call (advance jwt cache token steps action pc) := by
  cases pc with
  | idle => exact stepOk_local ok passed ⟨by simp, le_rfl, by simp⟩
  | finished verdict => exact stepOk_local ok passed trivial
  | jwks again start point => exact inJwks_stepOk ok at_.1 at_.2 passed late
  | missed kid missed =>
    simp only [advance]
    split
    next free =>
      refine ⟨(ok.later passed).relock _, ⟨Nat.lt_succ_of_lt at_, rfl⟩,
        fun other _ => Overtaken.relock ?_ _, by simp⟩
      rw [Option.isNone_iff_eq_none.mp free]
      simp
    next => exact stepOk_local ok passed (Nat.lt_succ_of_lt at_)
  | resetting kid missed =>
    refine ⟨⟨(jwksTtl_pos.trans late).le, Nat.lt_succ_self _, ok.late, fun _ _ => .inl rfl,
      (ok.later passed).past, ok.late⟩, ⟨at_.1, le_rfl⟩, ?_, by simp [advance]⟩
    · intro other different
      refine ⟨fun keys held => ⟨keys, held, le_rfl, le_rfl⟩, ok.resets.le, fun theirs => ?_⟩
      rw [at_.2] at theirs
      exact absurd (Option.some.inj theirs).symm different
  | calling again =>
    refine stepOk_local ok passed ⟨?_, le_rfl, ?_⟩
    · rintro miss ⟨⟩
      exact at_.1
    · rintro miss ⟨⟩
      exact at_.2

end Moving

section Runs

variable {Key : Type} {jwt : Ita.PyJwt Key} {tokens : Nat → PyStr}

structure StateOk (state : Verifiers Key) : Prop where
  cache : CacheOk state.cache state.clock state.steps
  calls : ∀ call, PcOk state.cache state.clock state.steps call (state.calls call)

theorem initial_stateOk : StateOk (verifiers jwt tokens).initial :=
  ⟨⟨le_rfl, Nat.zero_lt_one, by simp [verifiers], by simp [verifiers], by simp [verifiers],
    by simp [verifiers]⟩, fun _ => trivial⟩

theorem step_stateOk {state : Verifiers Key} {action : Action} (ok : StateOk state)
    (timely : Timely state action) : StateOk ((verifiers jwt tokens).step state action).1 := by
  have moved : StepOk state.cache action.time state.steps action.call
      (advance jwt state.cache (tokens action.call) state.steps action (state.calls action.call)) :=
    advance_stepOk ok.cache (ok.calls action.call) timely.1 timely.2
  refine ⟨moved.cache, ?_⟩
  intro call
  by_cases same : call = action.call
  next =>
    subst same
    simp only [verifiers, Function.update_self]
    exact moved.pc
  next =>
    simp only [verifiers, Function.update_of_ne same]
    exact (ok.calls call).overtaken (moved.overtaken call same) timely.1

theorem stateOk_after {actions : List Action}
    (timely : (verifiers jwt tokens).Allowed Timely (verifiers jwt tokens).initial actions) :
    StateOk ((verifiers jwt tokens).after (verifiers jwt tokens).initial actions) :=
  (verifiers jwt tokens).allowed_preserves Timely StateOk
    (fun _ _ allowed ok => step_stateOk ok allowed) _ initial_stateOk actions timely

theorem allowed_timely (jwt : Ita.PyJwt Key) (tokens : Nat → PyStr) (actions : List Action)
    (state : Verifiers Key)
    (sorted : (actions.map Action.time).Pairwise (· ≤ ·))
    (late : ∀ action ∈ actions, state.clock ≤ action.time ∧ jwksTtl < action.time) :
    (verifiers jwt tokens).Allowed Timely state actions := by
  induction actions generalizing state with
  | nil => trivial
  | cons action rest ih =>
    obtain ⟨first, sorted⟩ := List.pairwise_cons.mp sorted
    refine ⟨late action List.mem_cons_self, ih _ sorted ?_⟩
    intro next after
    exact ⟨first next.time (List.mem_map_of_mem after), (late next (List.mem_cons_of_mem _ after)).2⟩

-- The verdict comes with the return of the second call of get_jwks.
theorem lookUp_unknownKid {token : PyStr} {step : Nat} {again : Option Again} {jwks kid : PyValue}
    (unknown : lookUp jwt token step again jwks = .finished (.unknownKid kid)) :
    ∃ miss ∈ again, miss.kid = kid ∧ secondLookup jwt kid jwks = .ok none := by
  unfold lookUp at unknown
  cases again with
  | none =>
    simp only at unknown
    split at unknown <;> cases unknown
  | some miss =>
    simp only at unknown
    split at unknown
    next => cases unknown
    next => cases unknown
    next absent =>
      cases unknown
      exact ⟨miss, rfl, rfl, absent⟩

theorem returnJwks_unknownKid {token : PyStr} {step : Nat} {again : Option Again} {start : ℚ}
    {data : Option KeySet} {kid : PyValue}
    (unknown : (returnJwks jwt token step again start data).1 = .finished (.unknownKid kid)) :
    ∃ ret ∈ (returnJwks jwt token step again start data).2, ∃ miss ∈ ret.again, miss.kid = kid ∧
      secondLookup jwt kid ret.keys.value = .ok none := by
  cases data with
  | none => cases unknown
  | some keys =>
    obtain ⟨miss, held, same, absent⟩ := lookUp_unknownKid unknown
    exact ⟨_, rfl, miss, held, same, absent⟩

theorem advance_unknownKid {cache : Cache} {token : PyStr} {step : Nat} {action : Action}
    {pc : Pc Key} {kid : PyValue} (before : pc ≠ .finished (.unknownKid kid))
    (unknown : (advance jwt cache token step action pc).2.1 = .finished (.unknownKid kid)) :
    ∃ ret ∈ (advance jwt cache token step action pc).2.2, ∃ miss ∈ ret.again, miss.kid = kid ∧
      secondLookup jwt kid ret.keys.value = .ok none := by
  cases pc with
  | idle => cases unknown
  | finished verdict => exact absurd unknown before
  | missed missing at_ =>
    simp only [advance] at unknown
    split at unknown <;> cases unknown
  | resetting missing at_ => cases unknown
  | calling again => cases unknown
  | jwks again start point =>
    cases point with
    | readClock => cases unknown
    | readData now | readTimestamp now | acquire now | check now | fetching now began order =>
      simp only [advance, inJwks] at unknown
      split at unknown <;> cases unknown
    | returnCached => exact returnJwks_unknownKid unknown
    | storeTimestamp now => cases unknown
    | leave => exact returnJwks_unknownKid unknown

theorem unknownKid_returned (call : Nat) (kid : PyValue) (actions : List Action)
    (rejected : ((verifiers jwt tokens).after (verifiers jwt tokens).initial actions).calls call =
      .finished (.unknownKid kid)) :
    ∃ earlier action later ret, actions = earlier ++ action :: later ∧ action.call = call ∧
      ret ∈ ((verifiers jwt tokens).step
        ((verifiers jwt tokens).after (verifiers jwt tokens).initial earlier) action).2 ∧
      ∃ miss ∈ ret.again, miss.kid = kid ∧ secondLookup jwt kid ret.keys.value = .ok none := by
  induction actions using List.reverseRecOn with
  | nil => cases rejected
  | append_singleton earlier action ih =>
    by_cases before : ((verifiers jwt tokens).after (verifiers jwt tokens).initial earlier).calls
        call = .finished (.unknownKid kid)
    next =>
      obtain ⟨first, reject, later, ret, rfl, rest⟩ := ih before
      exact ⟨first, reject, later ++ [action], ret, by simp, rest⟩
    next =>
      rw [Machine.after_append] at rejected
      have own : call = action.call := by
        by_contra other
        simp only [Machine.after_cons, Machine.after_nil, verifiers,
          Function.update_of_ne other] at rejected
        exact before rejected
      subst own
      simp only [Machine.after_cons, Machine.after_nil, verifiers,
        Function.update_self] at rejected
      obtain ⟨ret, returned, found⟩ := advance_unknownKid before rejected
      exact ⟨earlier, action, [], ret, rfl, rfl, returned, found⟩

end Runs

/-- Every key set that get_jwks returns is less than a day older than the call; after a miss it was
fetched after the reset; and a token whose kid is unknown was looked up in such a set. -/
theorem jwks_fresh_and_rotated {Key : Type} (jwt : Ita.PyJwt Key) (tokens : Nat → PyStr)
    (actions : List Action) (sorted : (actions.map Action.time).Pairwise (· ≤ ·))
    (late : ∀ action ∈ actions, jwksTtl < action.time) :
    (∀ earlier action later ret, actions = earlier ++ action :: later →
      ret ∈ ((verifiers jwt tokens).step
        ((verifiers jwt tokens).after (verifiers jwt tokens).initial earlier) action).2 →
      ret.start - ret.keys.began ≤ jwksTtl ∧ ∀ miss ∈ ret.again, miss.reset < ret.keys.order) ∧
    ∀ call kid, ((verifiers jwt tokens).after (verifiers jwt tokens).initial actions).calls call =
        .finished (.unknownKid kid) →
      ∃ earlier action later ret miss, actions = earlier ++ action :: later ∧ action.call = call ∧
        ret ∈ ((verifiers jwt tokens).step
          ((verifiers jwt tokens).after (verifiers jwt tokens).initial earlier) action).2 ∧
        miss ∈ ret.again ∧ miss.kid = kid ∧ secondLookup jwt kid ret.keys.value = .ok none ∧
        miss.missed < ret.keys.order := by
  have timely := allowed_timely jwt tokens actions (verifiers jwt tokens).initial sorted
    fun action held => ⟨(jwksTtl_pos.trans (late action held)).le, late action held⟩
  have suits : ∀ earlier action later ret, actions = earlier ++ action :: later →
      ret ∈ ((verifiers jwt tokens).step
        ((verifiers jwt tokens).after (verifiers jwt tokens).initial earlier) action).2 →
      Suits ret.again ret.start ret.keys ∧ ∀ miss ∈ ret.again, miss.Ordered := by
    intro earlier action later ret split returned
    rw [split, Machine.allowed_append] at timely
    have ok := stateOk_after timely.1
    exact (advance_stepOk ok.cache (ok.calls action.call) timely.2.1.1 timely.2.1.2).returned ret
      returned
  constructor
  · intro earlier action later ret split returned
    have held := (suits earlier action later ret split returned).1
    exact ⟨held.recent, held.refreshed⟩
  · intro call kid rejected
    obtain ⟨earlier, action, later, ret, split, own, returned, miss, held, same, absent⟩ :=
      unknownKid_returned call kid actions rejected
    obtain ⟨suit, ordered⟩ := suits earlier action later ret split returned
    exact ⟨earlier, action, later, ret, miss, split, own, returned, held, same, absent,
      (ordered miss held).trans (suit.refreshed miss held)⟩

-- Two keys are known by name; every token is signed with the second one.
def namedJwt : Ita.PyJwt Unit where
  getJwks _ := .error .typeError
  signingKeys
    | .list kids => .ok (kids.map fun kid => (kid, ()))
    | _ => .error .typeError
  getUnverifiedHeader _ := .ok [(py "kid", .str (py "k2"))]
  decode _ _ _ := .ok []

-- The call fetches twice, and both times gets the first key only.
def rotationRun : List Action :=
  (List.range 19).map fun index => ⟨0, 100000 + index, .ok (.list [.str (py "k1")])⟩

def rejectedKid {Key : Type} : Pc Key → Option PyStr
  | .finished (.unknownKid (.str kid)) => some kid
  | _ => none

theorem rejectedKid_eq_some {Key : Type} {pc : Pc Key} {kid : PyStr}
    (rejected : rejectedKid pc = some kid) : pc = .finished (.unknownKid (.str kid)) := by
  unfold rejectedKid at rejected
  split at rejected
  next => rw [Option.some.inj rejected]
  next => cases rejected

theorem rotation_run_refetched :
    ∃ earlier action later ret miss, rotationRun = earlier ++ action :: later ∧ action.call = 0 ∧
      ret ∈ ((verifiers namedJwt fun _ => py "t").step
        ((verifiers namedJwt fun _ => py "t").after (verifiers namedJwt fun _ => py "t").initial
          earlier) action).2 ∧
      miss ∈ ret.again ∧ miss.kid = .str (py "k2") ∧
      secondLookup namedJwt (.str (py "k2")) ret.keys.value = .ok none ∧
      miss.missed < ret.keys.order := by
  refine (jwks_fresh_and_rotated namedJwt (fun _ => py "t") rotationRun ?_ ?_).2 0
    (.str (py "k2")) ?_
  · decide +kernel
  · decide +kernel
  · exact rejectedKid_eq_some (by decide +kernel)

end Ztab.Jwks
