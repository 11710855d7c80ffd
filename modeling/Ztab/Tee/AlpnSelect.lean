import Ztab.Json.Value
import Ztab.Shared.LengthPrefixed
import Ztab.Shared.WhileLoop

set_option autoImplicit false

/-!
# The ALPN callback of the TLS proxy

`ALPNSelectCallback` goes through the protocols that a client offers, which are bytes from the
network. Its offsets are unsigned and wrap around, and a read outside the buffer is an error.
-/

namespace Ztab

open WhileLoop LengthPrefixed

structure OutOfBounds where
  index : Nat
  deriving DecidableEq, Repr

inductive AlpnResult where
  -- SSL_TLSEXT_ERR_OK, with *out = &in[out].
  | ok (out : UInt32) (outlen : UInt8)
  -- SSL_TLSEXT_ERR_NOACK
  | noack
  deriving DecidableEq, Repr

section Callback

variable (input : Bytes)

def readByte (index : UInt32) : Except OutOfBounds UInt8 :=
  match input[index.toNat]? with
  | some byte => .ok byte
  | none => .error ⟨index.toNat⟩

-- len == 2 && in[i + 1] == 'h' && in[i + 2] == '2': an operand is looked at only if those before it hold.
def isH2 (i len : UInt32) : Except OutOfBounds Bool := do
  if len = 2 then
    if (← readByte input (i + 1)) = 0x68 then return (← readByte input (i + 2)) = 0x32
    else return false
  else return false

def alpnSelectPass (inlen i : UInt32) : Except OutOfBounds (Pass UInt32 AlpnResult) := do
  if i < inlen then
    let len := (← readByte input i).toUInt32
    if i + 1 + len > inlen then return .leave .noack
    else if ← isH2 input i len then return .leave (.ok (i + 1) 2)
    else return .again (i + (1 + len))
  else return .leave .noack

def alpnSelectCallback (inlen : UInt32) (passes : Nat) : Option (Except OutOfBounds AlpnResult) :=
  runFor (alpnSelectPass input inlen) passes 0

end Callback

def h2 : Bytes := utf8 "h2"

abbrev Protocol := Entry UInt8.toNat

/-- The protocols of the list, up to the first that would run past its end. -/
def offeredProtocols (input : Bytes) : List Protocol := (read UInt8.toNat input).entries

theorem offeredProtocols_spelled (input : Bytes) :
    ∃ rest, spell (offeredProtocols input) ++ rest = input ∧ Overruns UInt8.toNat rest :=
  ⟨_, (read UInt8.toNat input).spelled, (read UInt8.toNat input).overruns⟩

/-- The first `h2` that is offered is selected, where it stands, and nothing else ever is. -/
structure Selects (input : Bytes) (result : AlpnResult) : Prop where
  offered : (∃ out outlen, result = .ok out outlen) ↔
    ∃ protocol ∈ offeredProtocols input, protocol.body = h2
  first : ∀ out outlen, result = .ok out outlen → ∃ earlier protocol later,
    offeredProtocols input = earlier ++ protocol :: later ∧
      (∀ other ∈ earlier, other.body ≠ h2) ∧ protocol.body = h2 ∧
      out.toNat = (spell earlier).length + 1 ∧ outlen.toNat = protocol.body.length

section Bounds

variable {input before after : Bytes} {i : UInt32}

theorem readByte_ok {byte : UInt8} (spelled : before ++ byte :: after = input)
    (position : i.toNat = before.length) : readByte input i = .ok byte := by
  subst spelled
  simp [readByte, position]

theorem inlen_toNat (sized : input.length ≤ 65535) :
    (UInt32.ofNat input.length).toNat = input.length :=
  UInt32.toNat_ofNat_of_lt' (Nat.lt_of_le_of_lt sized (by decide))

-- No offset inside a list, or one entry behind it, wraps around.
theorem offset_toNat {step : UInt32} (small : i.toNat ≤ 65535) (short : step.toNat ≤ 256) :
    (i + step).toNat = i.toNat + step.toNat := by
  rw [UInt32.toNat_add]
  omega

theorem behind_toNat {len : UInt8} (small : i.toNat ≤ 65535) :
    (i + (1 + len.toUInt32)).toNat = i.toNat + 1 + len.toNat := by
  have octet := len.toNat_lt
  have step : (1 + len.toUInt32).toNat = 1 + len.toNat := by
    simp only [UInt32.toNat_add, UInt8.toNat_toUInt32, UInt32.reduceToNat]
    omega
  rw [offset_toNat small (by omega), step, Nat.add_assoc]

theorem isH2_ok {protocol : Protocol} (spelled : before ++ (protocol.spelled ++ after) = input)
    (position : i.toNat = before.length) (small : i.toNat ≤ 65535) :
    isH2 input i protocol.header.toUInt32 = .ok (decide (protocol.body = h2)) := by
  obtain ⟨header, body, sized⟩ := protocol
  by_cases two : header = 2
  next =>
    subst two
    obtain ⟨first, second, rfl⟩ := List.length_eq_two.mp sized
    have atFirst : (before ++ [2]) ++ first :: second :: after = input := by
      simpa [Entry.spelled] using spelled
    have atSecond : (before ++ [2, first]) ++ second :: after = input := by
      simpa [Entry.spelled] using spelled
    have readFirst : readByte input (i + 1) = .ok first := by
      apply readByte_ok atFirst
      rw [offset_toNat small (by decide), position, List.length_append]
      rfl
    have readSecond : readByte input (i + 2) = .ok second := by
      apply readByte_ok atSecond
      rw [offset_toNat small (by decide), position, List.length_append]
      rfl
    have word : h2 = [0x68, 0x32] := by decide
    by_cases starts : first = 0x68 <;>
      simp [isH2, readFirst, readSecond, starts, word, bind, Except.bind, pure, Except.pure]
  next =>
    have other : header.toUInt32 ≠ 2 := by
      intro same
      apply two
      apply UInt8.toNat_inj.mp
      exact congrArg UInt32.toNat same
    have differs : body ≠ h2 := by
      rintro rfl
      apply two
      exact UInt8.toNat_inj.mp sized.symm
    simp [isH2, other, differs, pure, Except.pure]

end Bounds

section Passes

variable {input before after : Bytes} {i : UInt32}

theorem alpnSelectPass_end (sized : input.length ≤ 65535) (position : i.toNat = input.length) :
    alpnSelectPass input (UInt32.ofNat input.length) i = .ok (.leave .noack) := by
  have done : ¬ i < UInt32.ofNat input.length := by
    rw [UInt32.lt_iff_toNat_lt, inlen_toNat sized]
    omega
  simp [alpnSelectPass, done, pure, Except.pure]

theorem alpnSelectPass_overrun {header : UInt8} (sized : input.length ≤ 65535)
    (spelled : before ++ header :: after = input) (position : i.toNat = before.length)
    (overruns : after.length < header.toNat) :
    alpnSelectPass input (UInt32.ofNat input.length) i = .ok (.leave .noack) := by
  have total : before.length + 1 + after.length = input.length := by simp [← spelled]; omega
  have within : i < UInt32.ofNat input.length := by
    rw [UInt32.lt_iff_toNat_lt, inlen_toNat sized]
    omega
  have beyond : i + 1 + header.toUInt32 > UInt32.ofNat input.length := by
    rw [gt_iff_lt, UInt32.lt_iff_toNat_lt, inlen_toNat sized, UInt32.add_assoc,
      behind_toNat (by omega)]
    omega
  simp [alpnSelectPass, within, readByte_ok spelled position, beyond, bind, Except.bind, pure,
    Except.pure]

theorem alpnSelectPass_entry {protocol : Protocol} (sized : input.length ≤ 65535)
    (spelled : before ++ (protocol.spelled ++ after) = input) (position : i.toNat = before.length) :
    alpnSelectPass input (UInt32.ofNat input.length) i =
      .ok (if protocol.body = h2 then .leave (.ok (i + 1) 2)
        else .again (i + (1 + protocol.header.toUInt32))) := by
  have total : before.length + (1 + protocol.body.length + after.length) = input.length := by
    simp [← spelled]
    omega
  have length := protocol.sized
  have within : i < UInt32.ofNat input.length := by
    rw [UInt32.lt_iff_toNat_lt, inlen_toNat sized]
    omega
  have fits : ¬ i + 1 + protocol.header.toUInt32 > UInt32.ofNat input.length := by
    rw [gt_iff_lt, UInt32.lt_iff_toNat_lt, inlen_toNat sized, UInt32.add_assoc,
      behind_toNat (by omega)]
    omega
  have asked := isH2_ok spelled position (by omega)
  by_cases same : protocol.body = h2 <;>
    simp [alpnSelectPass, within, readByte_ok spelled position, fits, asked, same, bind, Except.bind,
      pure, Except.pure]

end Passes

def Between (input : Bytes) (i : UInt32) : Prop :=
  ∃ earlier later, offeredProtocols input = earlier ++ later ∧
    (∀ other ∈ earlier, other.body ≠ h2) ∧ i.toNat = (spell earlier).length

section Callback

variable {input : Bytes} {i : UInt32} {earlier later : List Protocol} {protocol : Protocol}

theorem selects_noack (others : ∀ other ∈ offeredProtocols input, other.body ≠ h2) :
    Selects input .noack := by
  constructor
  · constructor
    · rintro ⟨out, outlen, impossible⟩
      cases impossible
    · rintro ⟨protocol, listed, same⟩
      exact absurd same (others protocol listed)
  · intro out outlen impossible
    cases impossible

theorem selects_ok {out : UInt32} (offered : offeredProtocols input = earlier ++ protocol :: later)
    (others : ∀ other ∈ earlier, other.body ≠ h2) (same : protocol.body = h2)
    (position : out.toNat = (spell earlier).length + 1) : Selects input (.ok out 2) := by
  constructor
  · constructor
    · intro _
      exact ⟨protocol, by simp [offered], same⟩
    · intro _
      exact ⟨out, 2, rfl⟩
  · intro out outlen selected
    cases selected
    have length : (2 : UInt8).toNat = protocol.body.length := by
      rw [same]
      decide
    exact ⟨earlier, protocol, later, offered, others, same, position, length⟩

theorem alpnSelectPass_advances (sized : input.length ≤ 65535) (between : Between input i) :
    Advances (Between input) (fun i => input.length - i.toNat) (Selects input) i
      (alpnSelectPass input (UInt32.ofNat input.length) i) := by
  obtain ⟨earlier, later, offered, others, position⟩ := between
  obtain ⟨rest, spelled, overruns⟩ := offeredProtocols_spelled input
  rw [offered, spell_append, List.append_assoc] at spelled
  cases later with
  | nil =>
    left
    have none : ∀ other ∈ offeredProtocols input, other.body ≠ h2 := by
      simpa [offered] using others
    refine ⟨.noack, ?_, selects_noack none⟩
    cases rest with
    | nil =>
      apply alpnSelectPass_end sized
      simp [position, ← spelled]
    | cons header body => exact alpnSelectPass_overrun sized spelled position overruns
  | cons protocol later =>
    rw [spell_cons, List.append_assoc] at spelled
    have total : (spell earlier).length + (1 + protocol.body.length) ≤ input.length := by
      simp [← spelled]
      omega
    have length := protocol.sized
    have pass := alpnSelectPass_entry sized spelled position
    by_cases same : protocol.body = h2
    next =>
      left
      refine ⟨.ok (i + 1) 2, by simpa [same] using pass, selects_ok offered others same ?_⟩
      rw [offset_toNat (by omega) (by decide), position]
      rfl
    next =>
      right
      have moved : (i + (1 + protocol.header.toUInt32)).toNat =
          (spell earlier).length + (1 + protocol.body.length) := by
        rw [behind_toNat (by omega)]
        omega
      refine ⟨_, by simpa [same] using pass, ⟨earlier ++ [protocol], later, ?_, ?_, ?_⟩, ?_⟩
      · simp [offered]
      · simpa [or_imp, forall_and, same] using others
      · simp [moved]
        omega
      · simp only [moved]
        omega

/-- The callback returns on every list a handshake can hold, without a read outside it, and selects
the first `h2` that is offered, if there is one. -/
theorem alpn_parsing_safe_and_exact (input : Bytes) (sized : input.length ≤ 65535) :
    ∃ result, (∀ passes, input.length < passes →
      alpnSelectCallback input (UInt32.ofNat input.length) passes = some (.ok result)) ∧
        Selects input result := by
  have start : Between input 0 := ⟨[], offeredProtocols input, rfl, by simp, rfl⟩
  have enough : input.length - (0 : UInt32).toNat < input.length + 1 := by omega
  obtain ⟨result, returned, selects⟩ :=
    runFor_returns (fun _ => alpnSelectPass_advances sized) start enough
  exact ⟨result, fun passes more => runFor_more returned more, selects⟩

end Callback

-- Nothing, a longer name that starts like h2, h2 itself, and an entry that is cut off.
def crowdedList : Bytes := [0, 3, 0x68, 0x32, 0x78, 2, 0x68, 0x32, 9, 0x68]

theorem crowdedList_selected :
    (offeredProtocols crowdedList).map Entry.body = [[], utf8 "h2x", h2] ∧
      Selects crowdedList (.ok 6 2) := by
  constructor
  · have unique := Subsingleton.elim (read UInt8.toNat crowdedList)
      ⟨[⟨0, [], rfl⟩, ⟨3, [0x68, 0x32, 0x78], rfl⟩, ⟨2, [0x68, 0x32], rfl⟩], [9, 0x68], rfl, by decide⟩
    rw [offeredProtocols, unique]
    decide
  · obtain ⟨result, returns, selects⟩ := alpn_parsing_safe_and_exact crowdedList (by decide)
    have ran : alpnSelectCallback crowdedList 10 11 = some (.ok (.ok 6 2)) := by decide
    cases (returns 11 (by decide)).symm.trans ran
    exact selects

end Ztab
