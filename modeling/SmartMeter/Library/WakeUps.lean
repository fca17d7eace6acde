import Mathlib.Data.Set.Card

/-! Some wait for items to become available, and others have been woken and are going to look. -/

namespace SmartMeter

open Set

variable {α : Type} {waiting looking still now : Set α} {available credit rest owed : Nat}

/-- None waits in vain: for each item there is one that is going to look for it, or one is owed a
wake-up. -/
def Covered (waiting looking : Set α) (available credit : Nat) : Prop :=
  waiting = ∅ ∨ (available : ℕ∞) ≤ looking.encard + credit

namespace Covered

theorem of_none (waiting looking : Set α) (credit : Nat) : Covered waiting looking 0 credit :=
  .inr (by simp)

theorem of_credit (waiting looking : Set α) (enough : available ≤ credit) :
    Covered waiting looking available credit :=
  .inr ((Nat.cast_le.mpr enough).trans le_add_self)

theorem keep (covered : Covered waiting looking available credit) (fewer : still ⊆ waiting)
    (more : looking ⊆ now) (less : rest + credit ≤ available + owed) :
    Covered still now rest owed := by
  rcases covered with none_ | enough
  · exact .inl (subset_empty_iff.mp (none_ ▸ fewer))
  · right
    have total : ((rest + credit : Nat) : ℕ∞) ≤ ((looking.encard + owed) + credit : ℕ∞) :=
      calc ((rest + credit : Nat) : ℕ∞)
        _ ≤ ((available + owed : Nat) : ℕ∞) := Nat.cast_le.mpr less
        _ = available + owed := Nat.cast_add ..
        _ ≤ looking.encard + credit + owed := add_le_add_left enough _
        _ = looking.encard + owed + credit := add_right_comm ..
    rw [Nat.cast_add] at total
    have enough := (ENat.add_le_add_iff_right (ENat.natCast_ne_top credit)).mp total
    exact enough.trans (add_le_add_left (encard_le_encard more) _)

/-- One of them wakes, if any waits. -/
theorem wake (covered : Covered waiting looking available credit) (fewer : still ⊆ waiting)
    (more : looking ⊆ now) (woken : waiting = ∅ ∨ ∃ one ∈ now, one ∉ looking) :
    Covered still now (available + 1) credit := by
  rcases covered with none_ | enough
  · exact .inl (subset_empty_iff.mp (none_ ▸ fewer))
  · rcases woken with none_ | ⟨one, here, new⟩
    · exact .inl (subset_empty_iff.mp (none_ ▸ fewer))
    · right
      calc ((available + 1 : Nat) : ℕ∞)
        _ = available + 1 := Nat.cast_succ available
        _ ≤ looking.encard + credit + 1 := add_le_add_left enough 1
        _ = (insert one looking).encard + credit := by
            rw [encard_insert_of_notMem new, add_right_comm]
        _ ≤ now.encard + credit :=
            add_le_add_left (encard_le_encard (insert_subset here more)) _

theorem leave (covered : Covered waiting looking available credit) (fewer : still ⊆ waiting)
    (one : α) (more : looking \ {one} ⊆ now) : Covered still now (available - 1) credit := by
  rcases covered with none_ | enough
  · exact .inl (subset_empty_iff.mp (none_ ▸ fewer))
  · right
    have few : looking.encard ≤ now.encard + 1 :=
      calc looking.encard
        _ ≤ (looking \ {one}).encard + (({one} : Set α)).encard :=
            encard_le_encard_sdiff_add_encard looking {one}
        _ ≤ now.encard + 1 := add_le_add (encard_le_encard more) (encard_singleton one).le
    calc ((available - 1 : Nat) : ℕ∞)
      _ = available - 1 := by simp
      _ ≤ now.encard + credit := by
          refine tsub_le_iff_right.mpr ?_
          calc (available : ℕ∞)
            _ ≤ looking.encard + credit := enough
            _ ≤ now.encard + 1 + credit := add_le_add_left few _
            _ = now.encard + credit + 1 := add_right_comm ..

end Covered

end SmartMeter
