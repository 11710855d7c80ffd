import Mathlib.Data.List.Induction
import Ztab.Shared.Machine

set_option autoImplicit false

/-!
# The two pipes of a connection

The threads `c_to_l` and `l_to_c` of `HandleConnectionImpl`. A step is the return of one of
the calls that move bytes, so a run is any interleaving of what the calls of both threads
returned. The threads never look at a byte, so the pipes are over any type of bytes.
-/

namespace Ztab

inductive Transfer where
  | sslRead
  | sslWrite
  | read
  | write
  deriving DecidableEq, Repr

structure Returned where
  call : Transfer
  value : Int
  deriving DecidableEq, Repr

inductive Direction where
  | cToL
  | lToC
  deriving DecidableEq, Repr

def Direction.reads : Direction → Transfer
  | .cToL => .sslRead
  | .lToC => .read

def Direction.writes : Direction → Transfer
  | .cToL => .write
  | .lToC => .sslWrite

theorem Direction.reads_ne_writes (direction : Direction) : direction.reads ≠ direction.writes := by
  cases direction <;> decide

-- sizeof(buf), in both threads.
def kPipeBufferBytes : Nat := 8192

inductive PipePhase where
  | reading
  | writing (n sent : Nat)
  -- The outer loop is left; the shutdown after it is seen in what the other thread's calls return.
  | ended
  deriving DecidableEq, Repr

def PipePhase.next : PipePhase → Int → PipePhase
  | .reading, n => if n ≤ 0 then .ended else .writing n.toNat 0
  -- The break on w <= 0 leaves the inner loop only.
  | .writing n sent, w =>
    if w ≤ 0 then .reading
    else if sent + w.toNat < n then .writing n (sent + w.toNat)
    else .reading
  | .ended, _ => .ended

/-- The call that the thread is in, and how many bytes it asks for. -/
def Direction.awaits (direction : Direction) : PipePhase → Option (Transfer × Nat)
  | .reading => some (direction.reads, kPipeBufferBytes)
  | .writing n sent => some (direction.writes, n - sent)
  | .ended => none

def Direction.Concerns (direction : Direction) (phase : PipePhase) (returned : Returned) : Prop :=
  (direction.awaits phase).map Prod.fst = some returned.call

instance (direction : Direction) (phase : PipePhase) (returned : Returned) :
    Decidable (direction.Concerns phase returned) :=
  inferInstanceAs (Decidable (_ = _))

structure Pipe (Byte : Type) where
  phase : PipePhase
  buf : List Byte
  -- All that was read from the source, and all that the write calls took.
  received : List Byte
  delivered : List Byte
  deriving DecidableEq, Repr

variable {Byte : Type}

def Pipe.idle : Pipe Byte := ⟨.reading, [], [], []⟩

def Pipe.chunk (source : Nat → Byte) (pipe : Pipe Byte) (n : Int) : List Byte :=
  (List.range n.toNat).map fun i => source (pipe.received.length + i)

def Pipe.advance (source : Nat → Byte) (pipe : Pipe Byte) (value : Int) : Pipe Byte :=
  match pipe.phase with
  | .reading =>
    { pipe with
      phase := pipe.phase.next value
      buf := pipe.chunk source value
      received := pipe.received ++ pipe.chunk source value }
  | .writing _ sent =>
    { pipe with
      phase := pipe.phase.next value
      delivered := pipe.delivered ++ (pipe.buf.drop sent).take value.toNat }
  | .ended => pipe

namespace Direction

variable (direction : Direction)

/-- The control of the thread, in which the bytes have no part. -/
def thread : Machine PipePhase Returned Unit where
  initial := .reading
  step phase returned :=
    (if direction.Concerns phase returned then phase.next returned.value else phase, ())

def pipe (source : Nat → Byte) : Machine (Pipe Byte) Returned Unit where
  initial := .idle
  step pipe returned :=
    (if direction.Concerns pipe.phase returned then pipe.advance source returned.value else pipe, ())

def CanReturn (phase : PipePhase) (returned : Returned) : Prop :=
  returned.call = direction.reads ∨ returned.call = direction.writes →
    ∃ asked, direction.awaits phase = some (returned.call, asked) ∧ returned.value ≤ asked

def Possible (calls : List Returned) : Prop :=
  direction.thread.Allowed direction.CanReturn .reading calls

/-- No write call takes anything after one that took nothing. -/
def Unbroken (calls : List Returned) : Prop :=
  (calls.filter (·.call = direction.writes)).Pairwise fun earlier later =>
    0 < later.value → 0 < earlier.value

end Direction

def Pipe.unsent (pipe : Pipe Byte) : List Byte :=
  match pipe.phase with
  | .writing _ sent => pipe.buf.drop sent
  | .reading | .ended => []

def Pipe.Coherent (pipe : Pipe Byte) : Prop :=
  ∀ n sent, pipe.phase = .writing n sent → pipe.buf.length = n ∧ sent < n

@[simp] theorem Pipe.chunk_length (source : Nat → Byte) (pipe : Pipe Byte) (n : Int) :
    (pipe.chunk source n).length = n.toNat := by
  simp [chunk]

theorem Pipe.advance_of_reading (source : Nat → Byte) {pipe : Pipe Byte} (n : Int)
    (reading : pipe.phase = .reading) :
    (pipe.advance source n).received = pipe.received ++ pipe.chunk source n ∧
      (pipe.advance source n).delivered = pipe.delivered ∧
      (pipe.advance source n).unsent = pipe.chunk source n := by
  refine ⟨by simp [advance, reading], by simp [advance, reading], ?_⟩
  by_cases ended : n ≤ 0
  · have none : n.toNat = 0 := Int.toNat_of_nonpos ended
    simp [advance, reading, unsent, PipePhase.next, ended, chunk, none]
  · simp [advance, reading, unsent, PipePhase.next, ended]

theorem Pipe.advance_of_writing (source : Nat → Byte) {pipe : Pipe Byte} {n sent : Nat} (w : Int)
    (coherent : pipe.Coherent) (writing : pipe.phase = .writing n sent) :
    (pipe.advance source w).received = pipe.received ∧
      (pipe.advance source w).delivered = pipe.delivered ++ pipe.unsent.take w.toNat ∧
      (pipe.advance source w).unsent = if w ≤ 0 then [] else pipe.unsent.drop w.toNat := by
  refine ⟨by simp [advance, writing], by simp [advance, writing, unsent], ?_⟩
  obtain ⟨full, -⟩ := coherent n sent writing
  by_cases failed : w ≤ 0
  · simp [advance, writing, unsent, PipePhase.next, failed]
  · by_cases more : sent + w.toNat < n
    · simp [advance, writing, unsent, PipePhase.next, failed, more]
    · have reached : pipe.buf.length ≤ sent + w.toNat := by omega
      simp [advance, writing, unsent, PipePhase.next, failed, more, reached]

theorem Pipe.advance_coherent (source : Nat → Byte) {pipe : Pipe Byte} (value : Int)
    (coherent : pipe.Coherent) : (pipe.advance source value).Coherent := by
  intro n sent now
  cases before : pipe.phase with
  | reading =>
    simp only [advance, before, PipePhase.next] at now ⊢
    split at now
    next => cases now
    next some =>
      cases now
      exact ⟨chunk_length source pipe value, by omega⟩
  | writing m done =>
    obtain ⟨full, left⟩ := coherent m done before
    simp only [advance, before, PipePhase.next] at now ⊢
    split at now
    · cases now
    · split at now
      next more =>
        cases now
        exact ⟨full, more⟩
      next => cases now
  | ended =>
    simp only [advance, before] at now
    cases now

/-- All that the return of one call can do to a pipe. -/
inductive Pipe.Moves (direction : Direction) (source : Nat → Byte) (pipe : Pipe Byte)
    (returned : Returned) (next : Pipe Byte) : Prop where
  | elsewhere (call : returned.call ≠ direction.writes) (same : next = pipe)
  | fetched (call : returned.call = direction.reads)
      (received : next.received = pipe.received ++ pipe.chunk source returned.value)
      (delivered : next.delivered = pipe.delivered)
      (before : pipe.unsent = []) (unsent : next.unsent = pipe.chunk source returned.value)
  | pushed (call : returned.call = direction.writes) (received : next.received = pipe.received)
      (delivered : next.delivered = pipe.delivered ++ pipe.unsent.take returned.value.toNat)
      (before : pipe.unsent ≠ [])
      (unsent : next.unsent =
        if returned.value ≤ 0 then [] else pipe.unsent.drop returned.value.toNat)

section Runs

variable (direction : Direction) (source : Nat → Byte)

theorem Pipe.step_moves {pipe : Pipe Byte} {returned : Returned} (coherent : pipe.Coherent)
    (can : direction.CanReturn pipe.phase returned) :
    pipe.Moves direction source returned ((direction.pipe source).step pipe returned).1 := by
  by_cases own : returned.call = direction.reads ∨ returned.call = direction.writes
  · obtain ⟨asked, awaited, -⟩ := can own
    have concerned : direction.Concerns pipe.phase returned := by
      simp [Direction.Concerns, awaited]
    simp only [Direction.pipe, concerned, if_true]
    cases phase : pipe.phase with
    | reading =>
      rw [phase] at awaited
      obtain ⟨received, delivered, unsent⟩ := advance_of_reading source returned.value phase
      refine .fetched ?_ received delivered (by simp [Pipe.unsent, phase]) unsent
      simp only [Direction.awaits, Option.some.injEq, Prod.mk.injEq] at awaited
      exact awaited.1.symm
    | writing n sent =>
      rw [phase] at awaited
      obtain ⟨received, delivered, unsent⟩ :=
        advance_of_writing source returned.value coherent phase
      obtain ⟨full, left⟩ := coherent n sent phase
      have some : pipe.unsent ≠ [] := by
        simp only [Pipe.unsent, phase]
        intro none
        rw [List.drop_eq_nil_iff] at none
        omega
      refine .pushed ?_ received delivered some unsent
      simp only [Direction.awaits, Option.some.injEq, Prod.mk.injEq] at awaited
      exact awaited.1.symm
    | ended =>
      rw [phase] at awaited
      cases awaited
  · have foreign : ¬ direction.Concerns pipe.phase returned := by
      intro concerned
      apply own
      cases phase : pipe.phase with
      | reading => exact .inl (by simpa [Direction.Concerns, phase, Direction.awaits] using concerned.symm)
      | writing n sent => exact .inr (by simpa [Direction.Concerns, phase, Direction.awaits] using concerned.symm)
      | ended => simp [Direction.Concerns, phase, Direction.awaits] at concerned
    refine .elsewhere (fun call => own (.inr call)) ?_
    simp only [Direction.pipe, foreign, if_false]

theorem Pipe.advance_phase (pipe : Pipe Byte) (value : Int) :
    (pipe.advance source value).phase = pipe.phase.next value := by
  cases phase : pipe.phase <;> simp [advance, phase, PipePhase.next]

theorem Direction.pipe_step_phase (pipe : Pipe Byte) (returned : Returned) :
    ((direction.pipe source).step pipe returned).1.phase =
      (direction.thread.step pipe.phase returned).1 := by
  by_cases concerned : direction.Concerns pipe.phase returned
  · simp [Direction.pipe, thread, concerned, Pipe.advance_phase]
  · simp [Direction.pipe, thread, concerned]

theorem Direction.pipe_step_coherent {pipe : Pipe Byte} (coherent : pipe.Coherent)
    (returned : Returned) : ((direction.pipe source).step pipe returned).1.Coherent := by
  by_cases concerned : direction.Concerns pipe.phase returned
  · simpa [Direction.pipe, concerned] using Pipe.advance_coherent source returned.value coherent
  · simpa [Direction.pipe, concerned] using coherent

theorem Pipe.idle_coherent : (Pipe.idle : Pipe Byte).Coherent := by
  intro n sent writing
  cases writing

def Direction.piped (calls : List Returned) : Pipe Byte := (direction.pipe source).after .idle calls

theorem Direction.piped_phase (calls : List Returned) :
    (direction.piped source calls).phase = direction.thread.after .reading calls := by
  have along : ∀ pipe : Pipe Byte, ((direction.pipe source).after pipe calls).phase =
      direction.thread.after pipe.phase calls := by
    induction calls with
    | nil => exact fun _ => rfl
    | cons returned rest ih =>
      intro pipe
      rw [Machine.after_cons, Machine.after_cons, ih, direction.pipe_step_phase]
  exact along .idle

theorem Direction.piped_coherent (calls : List Returned) :
    (direction.piped source calls).Coherent :=
  Machine.after_preserves _ Pipe.Coherent
    (fun _ returned coherent => direction.pipe_step_coherent source coherent returned)
    _ Pipe.idle_coherent calls

theorem Direction.piped_induction {motive : List Returned → Pipe Byte → Prop} (start : motive [] .idle)
    (kept : ∀ calls pipe returned next, motive calls pipe →
      pipe.Moves direction source returned next → motive (calls ++ [returned]) next)
    (calls : List Returned) (possible : direction.Possible calls) :
    motive calls (direction.piped source calls) := by
  induction calls using List.reverseRecOn with
  | nil => exact start
  | append_singleton calls returned ih =>
    obtain ⟨before, now⟩ := (direction.thread.allowed_append _ _ _).mp possible
    have can : direction.CanReturn (direction.piped source calls).phase returned := by
      rw [direction.piped_phase]
      exact now.1
    have moves := Pipe.step_moves direction source (direction.piped_coherent source calls) can
    have last : direction.piped source (calls ++ [returned]) =
        ((direction.pipe source).step (direction.piped source calls) returned).1 :=
      Machine.after_append _ _ _ _
    rw [last]
    exact kept calls _ returned _ (ih before) moves

end Runs

section Positions

variable {Label : Type}

def Pipe.map (label : Byte → Label) (pipe : Pipe Byte) : Pipe Label :=
  ⟨pipe.phase, pipe.buf.map label, pipe.received.map label, pipe.delivered.map label⟩

theorem Pipe.map_advance (label : Byte → Label) (source : Nat → Byte) (pipe : Pipe Byte)
    (value : Int) :
    (pipe.map label).advance (label ∘ source) value = (pipe.advance source value).map label := by
  cases phase : pipe.phase <;> simp [advance, map, phase, chunk]

-- A pipe moves the bytes of any source as it moves their positions in it.
theorem Direction.piped_map (direction : Direction) (label : Byte → Label) (source : Nat → Byte)
    (calls : List Returned) :
    direction.piped (label ∘ source) calls = (direction.piped source calls).map label := by
  have along : ∀ pipe : Pipe Byte, (direction.pipe (label ∘ source)).after (pipe.map label) calls =
      ((direction.pipe source).after pipe calls).map label := by
    induction calls with
    | nil => exact fun _ => rfl
    | cons returned rest ih =>
      intro pipe
      rw [Machine.after_cons, Machine.after_cons, ← ih]
      congr 1
      by_cases concerned : direction.Concerns pipe.phase returned
      · simp only [Direction.pipe, Pipe.map_advance, concerned, if_true]
        simp only [Pipe.map, concerned, if_true]
      · simp only [Direction.pipe, Pipe.map, concerned, if_false]
  exact along .idle

end Positions

def Direction.Clean (direction : Direction) (calls : List Returned) : Prop :=
  ∀ returned ∈ calls, returned.call = direction.writes → 0 < returned.value

/-- The byte at `lost` was read and dropped: whatever is written after it comes from further on. -/
structure Pipe.Gap (pipe : Pipe Nat) (lost : Nat) : Prop where
  received : lost < pipe.received.length
  delivered : lost ≤ pipe.delivered.length
  later : ∀ position ∈ pipe.delivered.drop lost, lost < position
  unsent : ∀ position ∈ pipe.unsent, lost < position

/-- A pipe of positions, by what its write calls have returned. -/
structure Pipe.Account (direction : Direction) (calls : List Returned) (pipe : Pipe Nat) : Prop where
  received : pipe.received = List.range pipe.received.length
  intact : direction.Clean calls → pipe.delivered ++ pipe.unsent = pipe.received
  ordered : direction.Unbroken calls → pipe.delivered <+: pipe.received
  gap : ¬ direction.Clean calls →
    ∃ lost, pipe.Gap lost ∧ (¬ direction.Unbroken calls → lost < pipe.delivered.length)

section Accounts

variable {direction : Direction} {calls : List Returned} {returned : Returned}

theorem Direction.clean_concat :
    direction.Clean (calls ++ [returned]) ↔
      direction.Clean calls ∧ (returned.call = direction.writes → 0 < returned.value) := by
  simp [Clean, or_imp, forall_and]

theorem Direction.unbroken_concat :
    direction.Unbroken (calls ++ [returned]) ↔
      direction.Unbroken calls ∧
        (returned.call = direction.writes → 0 < returned.value → direction.Clean calls) := by
  unfold Unbroken Clean
  rw [List.filter_append, List.pairwise_append]
  by_cases own : returned.call = direction.writes
  · simp only [own, List.filter_cons, decide_true, if_true, List.filter_nil, List.pairwise_singleton,
      List.mem_filter, decide_eq_true_eq, List.mem_singleton, forall_eq, true_and, forall_const]
    refine and_congr_right fun _ => ?_
    constructor
    · intro each positive other member call
      exact each other ⟨member, call⟩ positive
    · rintro each other ⟨member, call⟩ positive
      exact each positive other member call
  · simp [own]

theorem Direction.unbroken_of_clean (clean : direction.Clean calls) : direction.Unbroken calls := by
  refine List.Pairwise.imp_of_mem ?_ (List.pairwise_of_forall (R := fun _ _ => True) fun _ _ => trivial)
  intro earlier later member _ _ _
  obtain ⟨member, call⟩ := List.mem_filter.mp member
  exact clean earlier member (of_decide_eq_true call)

variable {pipe next : Pipe Nat}

theorem Pipe.Moves.received_range (moves : pipe.Moves direction id returned next)
    (received : pipe.received = List.range pipe.received.length) :
    next.received = List.range next.received.length := by
  cases moves with
  | elsewhere call same => exact same ▸ received
  | fetched call more delivered before unsent =>
    rw [more, List.length_append, chunk_length, List.range_add, ← received]
    rfl
  | pushed call same delivered before unsent => rw [same, ← received]

theorem Pipe.Gap.moves {lost : Nat} (gap : pipe.Gap lost)
    (moves : pipe.Moves direction id returned next) : next.Gap lost := by
  cases moves with
  | elsewhere call same => exact same ▸ gap
  | fetched call received delivered before unsent =>
    refine ⟨?_, delivered ▸ gap.delivered, delivered ▸ gap.later, ?_⟩
    · rw [received, List.length_append]
      exact Nat.lt_of_lt_of_le gap.received (Nat.le_add_right _ _)
    · intro position member
      rw [unsent, chunk, List.mem_map] at member
      obtain ⟨i, -, rfl⟩ := member
      exact Nat.lt_of_lt_of_le gap.received (Nat.le_add_right _ _)
  | pushed call received delivered before unsent =>
    refine ⟨received ▸ gap.received, ?_, ?_, ?_⟩
    · rw [delivered, List.length_append]
      exact Nat.le_trans gap.delivered (Nat.le_add_right _ _)
    · intro position member
      rw [delivered, List.drop_append_of_le_length gap.delivered, List.mem_append] at member
      rcases member with earlier | now
      · exact gap.later position earlier
      · exact gap.unsent position (List.mem_of_mem_take now)
    · intro position member
      rw [unsent] at member
      split at member
      · cases member
      · exact gap.unsent position (List.mem_of_mem_drop member)

-- The first call that fails loses the next byte that it was to write.
theorem Pipe.Moves.gap_of_failed (moves : pipe.Moves direction id returned next)
    (call : returned.call = direction.writes) (failed : returned.value ≤ 0)
    (intact : pipe.delivered ++ pipe.unsent = pipe.received) :
    next.Gap pipe.delivered.length := by
  cases moves with
  | elsewhere other same => exact absurd call other
  | fetched read => exact absurd (read.symm.trans call) direction.reads_ne_writes
  | pushed _ received delivered before unsent =>
    have none : returned.value.toNat = 0 := Int.toNat_of_nonpos failed
    rw [none, List.take_zero, List.append_nil] at delivered
    have left : 0 < pipe.unsent.length := List.length_pos_iff.mpr before
    have whole : pipe.delivered.length + pipe.unsent.length = pipe.received.length := by
      rw [← intact, List.length_append]
    refine ⟨by rw [received]; omega, by simp [delivered], ?_, ?_⟩
    · intro position member
      rw [delivered, List.drop_length] at member
      cases member
    · intro position member
      rw [unsent, if_pos failed] at member
      cases member

theorem Pipe.Moves.delivers (moves : pipe.Moves direction id returned next)
    (call : returned.call = direction.writes) (succeeded : 0 < returned.value) :
    pipe.delivered.length < next.delivered.length := by
  cases moves with
  | elsewhere other same => exact absurd call other
  | fetched read => exact absurd (read.symm.trans call) direction.reads_ne_writes
  | pushed _ received delivered before unsent =>
    have left : 0 < pipe.unsent.length := List.length_pos_iff.mpr before
    rw [delivered, List.length_append, List.length_take]
    omega

theorem Pipe.Moves.delivered_grows (moves : pipe.Moves direction id returned next) :
    pipe.delivered.length ≤ next.delivered.length := by
  cases moves with
  | elsewhere call same => simp [same]
  | fetched call received delivered before unsent => simp [delivered]
  | pushed call received delivered before unsent => simp [delivered]

theorem Pipe.Moves.keeps_intact (moves : pipe.Moves direction id returned next)
    (succeeded : returned.call = direction.writes → 0 < returned.value)
    (intact : pipe.delivered ++ pipe.unsent = pipe.received) :
    next.delivered ++ next.unsent = next.received := by
  cases moves with
  | elsewhere call same => exact same ▸ intact
  | fetched call received delivered before unsent =>
    rw [received, delivered, unsent, ← intact, before, List.append_nil]
  | pushed call received delivered before unsent =>
    have taken : ¬ returned.value ≤ 0 := by
      have := succeeded call
      omega
    rw [received, delivered, unsent, if_neg taken, List.append_assoc, List.take_append_drop, intact]

theorem Pipe.Moves.keeps_ordered (moves : pipe.Moves direction id returned next)
    (failed : returned.call = direction.writes → returned.value ≤ 0)
    (ordered : pipe.delivered <+: pipe.received) : next.delivered <+: next.received := by
  cases moves with
  | elsewhere call same => exact same ▸ ordered
  | fetched call received delivered before unsent =>
    rw [received, delivered]
    exact ordered.trans (List.prefix_append _ _)
  | pushed call received delivered before unsent =>
    rw [received, delivered, Int.toNat_of_nonpos (failed call), List.take_zero, List.append_nil]
    exact ordered

theorem Pipe.Account.moves (account : pipe.Account direction calls)
    (moves : pipe.Moves direction id returned next) :
    next.Account direction (calls ++ [returned]) := by
  have intact : direction.Clean (calls ++ [returned]) →
      next.delivered ++ next.unsent = next.received := by
    intro clean
    obtain ⟨before, now⟩ := Direction.clean_concat.mp clean
    exact moves.keeps_intact now (account.intact before)
  refine ⟨moves.received_range account.received, intact, ?_, ?_⟩
  · intro unbroken
    obtain ⟨before, now⟩ := Direction.unbroken_concat.mp unbroken
    by_cases succeeded : returned.call = direction.writes ∧ 0 < returned.value
    · obtain ⟨call, positive⟩ := succeeded
      have clean := Direction.clean_concat.mpr ⟨now call positive, fun _ => positive⟩
      exact intact clean ▸ List.prefix_append _ _
    · refine moves.keeps_ordered (fun call => ?_) (account.ordered before)
      exact Int.not_lt.mp fun positive => succeeded ⟨call, positive⟩
  · intro unclean
    by_cases clean : direction.Clean calls
    · -- The write call that has just returned is the first that failed.
      have failed : returned.call = direction.writes ∧ ¬ 0 < returned.value := by
        by_contra sound
        refine unclean (Direction.clean_concat.mpr ⟨clean, fun call => ?_⟩)
        by_contra nothing
        exact sound ⟨call, nothing⟩
      refine ⟨pipe.delivered.length,
        moves.gap_of_failed failed.1 (Int.not_lt.mp failed.2) (account.intact clean), ?_⟩
      intro broken
      exact absurd (Direction.unbroken_concat.mpr
        ⟨Direction.unbroken_of_clean clean, fun _ _ => clean⟩) broken
    · obtain ⟨lost, gap, passed⟩ := account.gap clean
      refine ⟨lost, gap.moves moves, fun broken => ?_⟩
      by_cases succeeded : returned.call = direction.writes ∧ 0 < returned.value
      · exact Nat.lt_of_le_of_lt gap.delivered (moves.delivers succeeded.1 succeeded.2)
      · have earlier : ¬ direction.Unbroken calls := by
          intro unbroken
          refine broken (Direction.unbroken_concat.mpr ⟨unbroken, fun call positive => ?_⟩)
          exact absurd ⟨call, positive⟩ succeeded
        exact Nat.lt_of_lt_of_le (passed earlier) moves.delivered_grows

theorem Pipe.idle_account : Pipe.idle.Account direction [] := by
  have clean : direction.Clean [] := by
    intro returned member
    cases member
  exact ⟨rfl, fun _ => rfl, fun _ => List.prefix_rfl, fun unclean => absurd clean unclean⟩

theorem Pipe.Account.ordered_iff (account : pipe.Account direction calls) :
    pipe.delivered <+: pipe.received ↔ direction.Unbroken calls := by
  refine ⟨fun ordered => ?_, account.ordered⟩
  by_contra broken
  have unclean : ¬ direction.Clean calls := fun clean => broken (Direction.unbroken_of_clean clean)
  obtain ⟨lost, gap, passed⟩ := account.gap unclean
  have written := passed broken
  have read := gap.received
  obtain ⟨shorter, agree⟩ := List.prefix_iff_getElem.mp ordered
  have here : pipe.received[lost] = lost := by
    rw [List.getElem_of_eq account.received read, List.getElem_range]
  have member : pipe.delivered[lost] ∈ pipe.delivered.drop lost := by
    rw [List.drop_eq_getElem_cons written]
    exact List.mem_cons_self
  have beyond := gap.later _ member
  rw [agree lost written, here] at beyond
  exact Nat.lt_irrefl _ beyond

end Accounts

theorem prefix_of_labels {first second : List Nat}
    (alike : ∀ label : Nat → UInt8, first.map label <+: second.map label) : first <+: second := by
  have shorter : first.length ≤ second.length := by
    simpa using (alike fun _ => 0).length_le
  refine List.prefix_iff_getElem.mpr ⟨shorter, fun i within => ?_⟩
  let marked : Nat → UInt8 := fun position => if position = second[i] then 1 else 0
  obtain ⟨bounded, agree⟩ := List.prefix_iff_getElem.mp (alike marked)
  have same := agree i (by simpa using within)
  by_contra differ
  simp [marked, differ] at same

/--
Whatever the bytes are, those written are the first of those read, exactly when no write call
takes bytes after one that took none.
-/
theorem piped_prefix_iff_unbroken (direction : Direction) (calls : List Returned)
    (possible : direction.Possible calls) :
    (∀ source : Nat → UInt8,
        (direction.piped source calls).delivered <+: (direction.piped source calls).received) ↔
      direction.Unbroken calls := by
  have account : (direction.piped id calls).Account direction calls :=
    direction.piped_induction id Pipe.idle_account
      (fun _ _ _ _ account moves => account.moves moves) calls possible
  rw [← account.ordered_iff]
  constructor
  · intro ordered
    refine prefix_of_labels fun label => ?_
    have labelled := ordered label
    rwa [← Function.comp_id label, direction.piped_map] at labelled
  · intro ordered source
    rw [← Function.comp_id source, direction.piped_map]
    exact ordered.map source

/-- A signal interrupts the first write to the local socket, and the next two succeed. -/
def interruptedCalls : List Returned :=
  [⟨.sslRead, 3⟩, ⟨.write, -1⟩, ⟨.sslRead, 2⟩, ⟨.write, 1⟩, ⟨.write, 1⟩, ⟨.sslRead, 0⟩]

theorem interrupted_write_drops_bytes :
    Direction.cToL.Possible interruptedCalls ∧
      (Direction.cToL.piped (fun i => UInt8.ofNat i) interruptedCalls).received = [0, 1, 2, 3, 4] ∧
      (Direction.cToL.piped (fun i => UInt8.ofNat i) interruptedCalls).delivered = [3, 4] ∧
      ¬ (Direction.cToL.piped (fun i => UInt8.ofNat i) interruptedCalls).delivered <+:
        (Direction.cToL.piped (fun i => UInt8.ofNat i) interruptedCalls).received := by
  refine ⟨?_, by decide, by decide, by decide⟩
  simp [interruptedCalls, Direction.Possible, Machine.Allowed, Direction.thread, Direction.CanReturn,
    Direction.Concerns, Direction.awaits, Direction.reads, Direction.writes, PipePhase.next,
    kPipeBufferBytes]

def shortWrites : List Returned :=
  [⟨.sslRead, 3⟩, ⟨.write, 1⟩, ⟨.read, 2⟩, ⟨.write, 2⟩, ⟨.sslRead, 2⟩, ⟨.write, 0⟩, ⟨.sslRead, -1⟩]

theorem short_writes_in_order :
    Direction.cToL.Possible shortWrites ∧
      ∀ source : Nat → UInt8, (Direction.cToL.piped source shortWrites).delivered <+:
        (Direction.cToL.piped source shortWrites).received := by
  have possible : Direction.cToL.Possible shortWrites := by
    simp [shortWrites, Direction.Possible, Machine.Allowed, Direction.thread, Direction.CanReturn,
      Direction.Concerns, Direction.awaits, Direction.reads, Direction.writes, PipePhase.next,
      kPipeBufferBytes]
  have unbroken : Direction.cToL.Unbroken shortWrites := by
    simp [shortWrites, Direction.Unbroken, Direction.writes]
  exact ⟨possible, (piped_prefix_iff_unbroken .cToL shortWrites possible).mpr unbroken⟩

end Ztab
