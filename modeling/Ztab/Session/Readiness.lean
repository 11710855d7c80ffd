import Ztab.Session.Sweep

set_option autoImplicit false

/-!
# Session readiness

A session advances exactly when the last participant has accepted, and then when
the last input has arrived.
-/

namespace Ztab

namespace Session

structure Roster (session : Session) : Prop where
  expectedBounds : 2 ≤ session.policy.expectedParticipants ∧
    session.policy.expectedParticipants ≤ 100
  sizeBounds : 1 ≤ session.size ∧ (session.size : Int) ≤ session.policy.expectedParticipants
  joinIndexes : ∀ index, index < session.size ↔
    ∃ token participant, session.participants.lookup token = some participant ∧
      participant.joinIndex = index
  tokensDistinct : session.participantTokens.Nodup
  tokensInJoinOrder : ∀ (index : Nat) token, session.participantTokens[index]? = some token ↔
    ∃ participant, session.participants.lookup token = some participant ∧
      participant.joinIndex = index

structure Ready (session : Session) : Prop extends Roster session where
  advanced : session.state = .SEALED ∨ session.state = .CALCULATING ∨ session.state = .CLOSED →
    (session.size : Int) = session.policy.expectedParticipants ∧
      ∀ token participant, session.participants.lookup token = some participant →
        participant.accepted = true
  openEmpty : session.state = .OPEN →
    ∀ token participant, session.participants.lookup token = some participant →
      participant.inputSubmitted = false
  openWaits : session.state = .OPEN →
    ¬ ((session.size : Int) = session.policy.expectedParticipants ∧
      ∀ token participant, session.participants.lookup token = some participant →
        participant.accepted = true)
  sealedWaits : session.state = .SEALED →
    ∃ token participant, session.participants.lookup token = some participant ∧
      participant.inputSubmitted = false
  calculated : session.state = .CALCULATING ∨ session.state = .CLOSED →
    ∀ token participant, session.participants.lookup token = some participant →
      participant.inputSubmitted = true

theorem allAccepted_iff (session : Session) :
    session.allAccepted = true ↔
      ∀ token participant, session.participants.lookup token = some participant →
        participant.accepted = true := by
  rw [allAccepted, List.all_eq_true]
  exact FlatHashMap.forall_values session.participants (fun participant => participant.accepted = true)

theorem submittedCount_eq_size (session : Session) :
    session.submittedCount = session.size ↔
      ∀ token participant, session.participants.lookup token = some participant →
        participant.inputSubmitted = true := by
  have every := List.countP_eq_length (p := fun participant : Participant => participant.inputSubmitted)
    (l := FlatHashMap.values session.participants)
  rw [FlatHashMap.length_values] at every
  exact every.trans (FlatHashMap.forall_values session.participants
    (fun participant => participant.inputSubmitted = true))

theorem lt_length_iff (tokens : List String) (index : Nat) :
    index < tokens.length ↔ ∃ token, tokens[index]? = some token := by
  rw [← Option.isSome_iff_exists]
  simp

namespace Roster

variable {session : Session}

theorem length_tokens (roster : session.Roster) : session.participantTokens.length = session.size := by
  have within (index : Nat) : index < session.participantTokens.length ↔ index < session.size := by
    rw [roster.joinIndexes, lt_length_iff]
    exact exists_congr fun token => roster.tokensInJoinOrder index token
  exact Nat.le_antisymm (not_lt.mp fun larger => lt_irrefl _ ((within _).mp larger))
    (not_lt.mp fun larger => lt_irrefl _ ((within _).mpr larger))

theorem mem_tokens (roster : session.Roster) (token : String) :
    token ∈ session.participantTokens ↔ token ∈ session.participants := by
  rw [List.mem_iff_getElem?, FlatHashMap.mem_iff_lookup]
  constructor
  · rintro ⟨index, at_index⟩
    obtain ⟨participant, listed, -⟩ := (roster.tokensInJoinOrder index token).mp at_index
    exact ⟨participant, listed⟩
  · rintro ⟨participant, listed⟩
    exact ⟨participant.joinIndex, (roster.tokensInJoinOrder _ token).mpr ⟨participant, listed, rfl⟩⟩

theorem of_same {after : Session} (roster : session.Roster) (policy : after.policy = session.policy)
    (participants : after.participants = session.participants)
    (tokens : after.participantTokens = session.participantTokens) : after.Roster := by
  have sizes : after.size = session.size := congrArg FlatHashMap.size participants
  refine ⟨?_, ?_, ?_, ?_, ?_⟩
  · rw [policy]
    exact roster.expectedBounds
  · rw [policy, sizes]
    exact roster.sizeBounds
  · rw [participants, sizes]
    exact roster.joinIndexes
  · rw [tokens]
    exact roster.tokensDistinct
  · rw [participants, tokens]
    exact roster.tokensInJoinOrder

end Roster

def reseat (session : Session) (token : String) (participant : Participant) : Session :=
  { session with participants := session.participants.insert token participant }

section Reseat

variable {session : Session} {token : String} {participant replaced : Participant}
  (listed : session.participants.lookup token = some replaced)
include listed

theorem size_reseat : (session.reseat token participant).size = session.size :=
  FlatHashMap.size_insert_of_mem _ _ _ ((FlatHashMap.mem_iff_lookup _ _).mpr ⟨_, listed⟩)

theorem joined_reseat (same : participant.joinIndex = replaced.joinIndex) (other : String)
    (index : Nat) :
    (∃ held, (session.reseat token participant).participants.lookup other = some held ∧
        held.joinIndex = index) ↔
      ∃ held, session.participants.lookup other = some held ∧ held.joinIndex = index := by
  simp only [reseat, FlatHashMap.lookup_insert_ite]
  by_cases hit : other = token
  · subst hit
    simp [listed, same]
  · simp [hit]

theorem Roster.reseat (roster : session.Roster) (same : participant.joinIndex = replaced.joinIndex) :
    (session.reseat token participant).Roster where
  expectedBounds := roster.expectedBounds
  sizeBounds := by
    rw [size_reseat listed]
    exact roster.sizeBounds
  joinIndexes index := by
    rw [size_reseat listed, roster.joinIndexes]
    exact exists_congr fun other => (joined_reseat listed same other index).symm
  tokensDistinct := roster.tokensDistinct
  tokensInJoinOrder index other :=
    (roster.tokensInJoinOrder index other).trans (joined_reseat listed same other index).symm

omit listed in
theorem forall_reseat (holds : Participant → Prop) (seated : holds participant)
    (others : ∀ other held, session.participants.lookup other = some held → holds held) :
    ∀ other held, (session.reseat token participant).participants.lookup other = some held →
      holds held := by
  intro other held found
  simp only [Session.reseat, FlatHashMap.lookup_insert_ite] at found
  split_ifs at found
  · cases found
    exact seated
  · exact others other held found

end Reseat

theorem lookup_reseat_self (session : Session) (token : String) (participant : Participant) :
    (session.reseat token participant).participants.lookup token = some participant :=
  AList.lookup_insert _

theorem Ready.of_aborted {session : Session} (roster : session.Roster)
    (aborted : session.state = .ABORTED) : session.Ready where
  toRoster := roster
  advanced := by simp [aborted]
  openEmpty := by simp [aborted]
  openWaits := by simp [aborted]
  sealedWaits := by simp [aborted]
  calculated := by simp [aborted]

-- With every seat taken, the inputs still missing are counted against the seats.
theorem remainingInputs_eq_zero {session : Session}
    (full : (session.size : Int) = session.policy.expectedParticipants) :
    session.remainingInputs = 0 ↔
      ∀ token participant, session.participants.lookup token = some participant →
        participant.inputSubmitted = true := by
  rw [← submittedCount_eq_size, remainingInputs, ← full]
  omega

theorem Step.ready {env : Environment} {actor : Actor} {before after : Session}
    (step : before.Step env actor after)
    (ready : before.Ready) : after.Ready := by
  cases step with
  | same => exact ready
  | timeout now due => exact .of_aborted (ready.toRoster.of_same rfl rfl rfl) rfl
  | spawnFailure what => exact .of_aborted (ready.toRoster.of_same rfl rfl rfl) rfl
  | accept token participant listed waiting missing =>
    have empty := ready.openEmpty waiting
    exact
      { toRoster := ready.toRoster.reseat listed rfl
        advanced := by simp [markAccepted, waiting]
        openEmpty := fun _ => forall_reseat _ (empty token participant listed) empty
        openWaits := fun _ holds => missing ⟨holds.1, (allAccepted_iff _).mpr holds.2⟩
        sealedWaits := by simp [markAccepted, waiting]
        calculated := by simp [markAccepted, waiting] }
  | sealing now token participant listed waiting full accepted =>
    have marked : (before.markAccepted token participant).Roster :=
      ready.toRoster.reseat listed rfl
    exact
      { toRoster := marked.of_same rfl rfl rfl
        advanced := fun _ => ⟨full, (allAccepted_iff _).mp accepted⟩
        openEmpty := by simp [sealed]
        openWaits := by simp [sealed]
        sealedWaits := fun _ => ⟨token, _, lookup_reseat_self before token _,
          ready.openEmpty waiting token participant listed⟩
        calculated := by simp [sealed] }
  | submit token inputJson canonical participant listed unsubmitted waiting admitted missing =>
    obtain ⟨full, accepted⟩ := ready.advanced (.inl waiting)
    have stillFull : ((before.storeInput token participant canonical).size : Int) =
        before.policy.expectedParticipants := by
      rw [← full]
      exact congrArg Nat.cast (size_reseat listed)
    exact
      { toRoster := ready.toRoster.reseat listed rfl
        advanced := fun _ =>
          ⟨stillFull, forall_reseat _ (accepted token participant listed) accepted⟩
        openEmpty := by simp [storeInput, waiting]
        openWaits := by simp [storeInput, waiting]
        sealedWaits := fun _ => by
          by_contra none
          refine missing ((remainingInputs_eq_zero stillFull).mpr ?_)
          intro other held found
          by_contra unset
          exact none ⟨other, held, found, by simpa using unset⟩
        calculated := by simp [storeInput, waiting] }
  | calculate now token inputJson canonical participant listed unsubmitted waiting admitted complete =>
    obtain ⟨full, accepted⟩ := ready.advanced (.inl waiting)
    have stillFull : ((before.storeInput token participant canonical).size : Int) =
        before.policy.expectedParticipants := by
      rw [← full]
      exact congrArg Nat.cast (size_reseat listed)
    have stored : (before.storeInput token participant canonical).Roster :=
      ready.toRoster.reseat listed rfl
    exact
      { toRoster := stored.of_same rfl rfl rfl
        advanced := fun _ =>
          ⟨stillFull, forall_reseat _ (accepted token participant listed) accepted⟩
        openEmpty := by simp [calculating]
        openWaits := by simp [calculating]
        sealedWaits := by simp [calculating]
        calculated := fun _ => (remainingInputs_eq_zero stillFull).mp complete }
  | write now outcome waiting =>
    cases outcome with
    | error status => exact .of_aborted (ready.toRoster.of_same rfl rfl rfl) rfl
    | ok resultJson =>
      exact
        { toRoster := ready.toRoster.of_same rfl rfl rfl
          advanced := fun _ => ready.advanced (.inr (.inl waiting))
          openEmpty := by simp [writeOutcome]
          openWaits := by simp [writeOutcome]
          sealedWaits := by simp [writeOutcome]
          calculated := fun _ => ready.calculated (.inl waiting) }

theorem lookup_addParticipant (session : Session) (token clientNonce other : String) :
    (session.addParticipant token clientNonce).participants.lookup other =
      if other = token then some { token, joinIndex := session.size }
      else session.participants.lookup other :=
  FlatHashMap.lookup_insert_ite _ _ _ _

theorem Ready.addParticipant {session : Session} (ready : session.Ready) {token : String}
    (fresh : token ∉ session.participants) (clientNonce : String) (waiting : session.state = .OPEN)
    (room : (session.size : Int) < session.policy.expectedParticipants) :
    (session.addParticipant token clientNonce).Ready := by
  have unlisted : session.participants.lookup token = none := AList.lookup_eq_none.mpr fresh
  have size : (session.addParticipant token clientNonce).size = session.size + 1 :=
    FlatHashMap.size_insert_of_not_mem _ _ _ fresh
  have position : ∀ (index : Nat) other,
      (session.addParticipant token clientNonce).participantTokens[index]? = some other ↔
        ∃ held, (session.addParticipant token clientNonce).participants.lookup other = some held ∧
          held.joinIndex = index := by
    intro index other
    rw [lookup_addParticipant]
    simp only [Session.addParticipant, List.getElem?_append, ready.length_tokens]
    by_cases hit : other = token
    · subst hit
      have absent (index : Nat) : session.participantTokens[index]? ≠ some other := by
        intro found
        obtain ⟨held, listed, -⟩ := (ready.tokensInJoinOrder index other).mp found
        exact fresh ((FlatHashMap.mem_iff_lookup _ _).mpr ⟨held, listed⟩)
      by_cases within : index < session.size
      · simp [within, absent index, Nat.ne_of_gt within]
      · have last : index - session.size = 0 ↔ session.size = index := by omega
        simp [within, List.getElem?_singleton, last]
    · rw [if_neg hit, ← ready.tokensInJoinOrder]
      split_ifs with within
      · rfl
      · have beyond : session.participantTokens[index]? = none := by
          rw [List.getElem?_eq_none_iff, ready.length_tokens]
          omega
        simp [List.getElem?_singleton, beyond, Ne.symm hit]
  exact
    { expectedBounds := ready.expectedBounds
      sizeBounds := by
        rw [size]
        simp only [Session.addParticipant]
        omega
      joinIndexes := by
        intro index
        have listed := fun other => position index other
        rw [← exists_congr listed, ← lt_length_iff, size]
        simp [Session.addParticipant, ready.length_tokens]
      tokensDistinct := by
        have absent : token ∉ session.participantTokens := fun member =>
          fresh ((ready.mem_tokens token).mp member)
        simpa [Session.addParticipant, List.nodup_append] using ⟨ready.tokensDistinct,
          fun other member same => absent (same ▸ member)⟩
      tokensInJoinOrder := position
      advanced := by simp [Session.addParticipant, waiting]
      openEmpty := by
        intro _ other held found
        rw [lookup_addParticipant] at found
        split_ifs at found
        · cases found
          rfl
        · exact ready.openEmpty waiting other held found
      openWaits := by
        rintro _ ⟨-, accepted⟩
        have newcomer := accepted token { token, joinIndex := session.size } (by
          rw [lookup_addParticipant, if_pos rfl])
        cases newcomer
      sealedWaits := by simp [Session.addParticipant, waiting]
      calculated := by simp [Session.addParticipant, waiting] }

end Session

end Ztab
