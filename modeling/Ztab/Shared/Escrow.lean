import Mathlib.Data.Set.Insert
import Mathlib.Logic.Relation

set_option autoImplicit false

/-!
# Computations in escrow

What a computation between several parties should be. The parties take their seats and agree to the
terms; when every seat is taken and everyone agrees, each of them hands in one input; when the last
input is there, one result is computed from all of them. Until then the deal may fail.
-/

namespace Escrow

inductive Stage (Result : Type) where
  | gathering
  | sealed
  | computing
  | delivered (result : Result)
  | failed

@[ext]
structure Deal (Party Input Result : Type) where
  seats : Nat
  -- In the order of their seats.
  parties : List Party
  agreed : Set Party
  inputs : Party → Option Input
  stage : Stage Result

variable {Party Input Result : Type}

def opened (seats : Nat) (founder : Party) : Deal Party Input Result :=
  ⟨seats, [founder], {founder}, fun _ => none, .gathering⟩

namespace Deal

def Full (deal : Deal Party Input Result) : Prop :=
  deal.parties.length = deal.seats ∧ ∀ party ∈ deal.parties, party ∈ deal.agreed

def Complete (deal : Deal Party Input Result) : Prop :=
  ∀ party ∈ deal.parties, ∃ input, deal.inputs party = some input

def collected (deal : Deal Party Input Result) : List Input := deal.parties.filterMap deal.inputs

def Over (deal : Deal Party Input Result) : Prop :=
  deal.stage = .failed ∨ ∃ result, deal.stage = .delivered result

end Deal

inductive Step [DecidableEq Party] (computes : List Input → Result → Prop)
    (deal : Deal Party Input Result) : Deal Party Input Result → Prop
  | join (party : Party) (waiting : deal.stage = .gathering)
      (room : deal.parties.length < deal.seats) (newcomer : party ∉ deal.parties) :
      Step computes deal { deal with parties := deal.parties ++ [party] }
  | agree (party : Party) (waiting : deal.stage = .gathering) (seated : party ∈ deal.parties) :
      Step computes deal { deal with agreed := insert party deal.agreed }
  | close (waiting : deal.stage = .gathering) (full : deal.Full) :
      Step computes deal { deal with stage := .sealed }
  | submit (party : Party) (input : Input) (waiting : deal.stage = .sealed)
      (seated : party ∈ deal.parties) (missing : deal.inputs party = none) :
      Step computes deal { deal with inputs := Function.update deal.inputs party (some input) }
  | compute (waiting : deal.stage = .sealed) (complete : deal.Complete) :
      Step computes deal { deal with stage := .computing }
  | deliver (result : Result) (waiting : deal.stage = .computing)
      (computed : computes deal.collected result) :
      Step computes deal { deal with stage := .delivered result }
  | fail (unfinished : ∀ result, deal.stage ≠ .delivered result) :
      Step computes deal { deal with stage := .failed }

variable {computes : List Input → Result → Prop} {deal after : Deal Party Input Result}

structure Honest (computes : List Input → Result → Prop) (deal : Deal Party Input Result) : Prop where
  distinct : deal.parties.Nodup
  seated : deal.parties.length ≤ deal.seats
  members : ∀ party ∈ deal.agreed, party ∈ deal.parties
  owners : ∀ party input, deal.inputs party = some input → party ∈ deal.parties
  full : deal.stage ≠ .gathering → deal.stage ≠ .failed → deal.Full
  complete : deal.stage = .computing ∨ (∃ result, deal.stage = .delivered result) → deal.Complete
  computed : ∀ result, deal.stage = .delivered result → computes deal.collected result

theorem honest_opened {seats : Nat} (some : 1 ≤ seats) (founder : Party) :
    Honest computes (opened seats founder) where
  distinct := by simp [opened]
  seated := some
  members := by simp [opened]
  owners := by simp [opened]
  full := by simp [opened]
  complete := by simp [opened]
  computed := by simp [opened]

variable [DecidableEq Party]

theorem Step.honest (step : Step computes deal after) (honest : Honest computes deal) :
    Honest computes after := by
  obtain ⟨distinct, seated, members, owners, full, complete, computed⟩ := honest
  cases step with
  | join party waiting room newcomer =>
    have distinct' : (deal.parties ++ [party]).Nodup := by
      rw [List.nodup_append]
      refine ⟨distinct, by simp, ?_⟩
      rintro other listed last found rfl
      rw [List.mem_singleton] at found
      exact newcomer (found ▸ listed)
    exact ⟨distinct', by simpa using Nat.succ_le_of_lt room, fun other agreed => by simp [members other agreed],
      fun other input given => by simp [owners other input given],
      fun gathering => absurd waiting gathering, by simp [waiting], by simp [waiting]⟩
  | agree party waiting seat =>
    refine ⟨distinct, seated, ?_, owners, fun gathering => absurd waiting gathering,
      by simp [waiting], by simp [waiting]⟩
    rintro other (rfl | agreed)
    · exact seat
    · exact members other agreed
  | close waiting ready =>
    exact ⟨distinct, seated, members, owners, fun _ _ => ready, by simp, by simp⟩
  | submit party input waiting seat missing =>
    refine ⟨distinct, seated, members, ?_, fun _ _ => full (by simp [waiting]) (by simp [waiting]),
      by simp [waiting], by simp [waiting]⟩
    intro other given held
    by_cases same : other = party
    · exact same ▸ seat
    · exact owners other given (by simpa [Function.update_of_ne same] using held)
  | compute waiting whole =>
    exact ⟨distinct, seated, members, owners,
      fun _ _ => full (by simp [waiting]) (by simp [waiting]), fun _ => whole, by simp⟩
  | deliver result waiting found =>
    exact ⟨distinct, seated, members, owners,
      fun _ _ => full (by simp [waiting]) (by simp [waiting]), fun _ => complete (.inl waiting),
      fun other same => by cases same; exact found⟩
  | fail unfinished =>
    exact ⟨distinct, seated, members, owners, fun _ failed => absurd rfl failed, by simp, by simp⟩

theorem honest_of_steps (honest : Honest computes deal)
    (steps : Relation.ReflTransGen (Step computes) deal after) : Honest computes after := by
  induction steps with
  | refl => exact honest
  | tail _ step ih => exact step.honest ih

theorem delivered_final {result : Result} (delivered : deal.stage = .delivered result)
    (steps : Relation.ReflTransGen (Step computes) deal after) : after = deal := by
  induction steps with
  | refl => rfl
  | tail _ step same =>
    subst same
    cases step with
    | fail unfinished => exact absurd delivered (unfinished result)
    | _ => simp_all

end Escrow
