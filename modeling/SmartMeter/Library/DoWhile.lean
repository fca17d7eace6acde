import Mathlib.Logic.Basic

/-!
Loops of rounds, `none` for a round that ends the loop. A loop whose rounds make progress, or else
change nothing at all, ends exactly when it comes to no state that a round leaves as it is.
-/

namespace DoWhile

variable {σ : Type} (round : σ → Option σ)

inductive Ends : σ → Prop
  | stop {state : σ} (last : round state = none) : Ends state
  | more {state next : σ} (goes : round state = some next) (ends : Ends next) : Ends state

inductive Reaches (start : σ) : σ → Prop
  | start : Reaches start start
  | round {state next : σ} (before : Reaches start state) (goes : round state = some next) :
      Reaches start next

variable {round}

theorem Reaches.trans {start middle state : σ} (first : Reaches round start middle)
    (second : Reaches round middle state) : Reaches round start state := by
  induction second with
  | start => exact first
  | round _ goes before => exact before.round goes

theorem Reaches.invariant {invariant : σ → Prop} {start state : σ}
    (reaches : Reaches round start state) (holds : invariant start)
    (kept : ∀ state next, invariant state → round state = some next → invariant next) :
    invariant state := by
  induction reaches with
  | start => exact holds
  | round _ goes before => exact kept _ _ before goes

theorem Reaches.eq_start {start state : σ} (reaches : Reaches round start state)
    (last : round start = none) : state = start := by
  induction reaches with
  | start => rfl
  | round _ goes before =>
      rw [before, last] at goes
      cases goes

theorem Ends.of_next {state next : σ} (ends : Ends round state) (goes : round state = some next) :
    Ends round next := by
  cases ends with
  | stop last => rw [last] at goes; cases goes
  | more other ends =>
      rw [other] at goes
      cases goes
      exact ends

theorem Ends.of_reaches {start state : σ} (ends : Ends round start)
    (reaches : Reaches round start state) : Ends round state := by
  induction reaches with
  | start => exact ends
  | round _ goes before => exact before.of_next goes

theorem Ends.not_stuck {state : σ} (ends : Ends round state) : round state ≠ some state := by
  induction ends with
  | stop last => rw [last]; exact Option.some_ne_none _ |>.symm
  | more goes _ ih =>
      intro stuck
      rw [goes] at stuck
      cases stuck
      exact ih goes

theorem ends_of_progress (measure : σ → Nat) {state : σ}
    (progress : ∀ reached next, Reaches round state reached → round reached = some next →
      measure next < measure reached) : Ends round state := by
  generalize size : measure state = count
  induction count using Nat.strongRecOn generalizing state with
  | ind count ih =>
      cases goes : round state with
      | none => exact .stop goes
      | some next =>
          have fewer := progress state next .start goes
          have first : Reaches round state next := Reaches.start.round goes
          refine .more goes (ih (measure next) (by omega) ?_ rfl)
          exact fun reached after reaches => progress reached after (first.trans reaches)

theorem ends_iff (measure : σ → Nat)
    (progress : ∀ state next, round state = some next →
      measure next < measure state ∨ next = state) {state : σ} :
    Ends round state ↔ ∀ reached, Reaches round state reached → round reached ≠ some reached := by
  constructor
  · exact fun ends reached reaches => (ends.of_reaches reaches).not_stuck
  · intro moves
    refine ends_of_progress measure fun reached next reaches goes => ?_
    rcases progress reached next goes with fewer | same
    · exact fewer
    · exact absurd (same ▸ goes) (moves reached reaches)

end DoWhile
