import Mathlib.Algebra.GroupWithZero.Nat
import Mathlib.Logic.Function.Basic
import Mathlib.Order.Lattice

/-!
Two slots that hold counted copies of one value. A slot may be damaged; the copy with the
larger count is the one that is loaded, the first of two with the same count.
-/

namespace TwinSlots

instance slots_neZero : NeZero 2 := ⟨Nat.succ_ne_zero 1⟩

variable {C V : Type} [LinearOrder C]

structure Entry (C V : Type) where
  count : C
  value : V

abbrev Slots (C V : Type) := Fin 2 → Option (Entry C V)

def newest (slots : Slots C V) : Option (Fin 2) :=
  match slots 0, slots 1 with
  | some first, some second => if first.count < second.count then some 1 else some 0
  | some _, none => some 0
  | none, some _ => some 1
  | none, none => none

/-- The entry in `slot` is newer than the one beside it, if there is one, or the same. -/
def Leads (slots : Slots C V) (slot : Fin 2) (entry : Entry C V) : Prop :=
  slots slot = some entry ∧
    ∀ rival, slots (slot + 1) = some rival → rival.count < entry.count ∨ rival = entry

theorem slot_cases (slot : Fin 2) : slot = 0 ∨ slot = 1 := by omega

theorem beside_ne (slot : Fin 2) : slot + 1 ≠ slot := by omega

theorem beside_beside (slot : Fin 2) : slot + 1 + 1 = slot := by omega

theorem newest_entry {slots : Slots C V} {slot : Fin 2} (found : newest slots = some slot) :
    ∃ entry, slots slot = some entry := by
  unfold newest at found
  cases first : slots 0 with
  | none =>
      cases second : slots 1 with
      | none => simp [first, second] at found
      | some entry =>
          obtain rfl : 1 = slot := by simpa [first, second] using found
          exact ⟨entry, second⟩
  | some entry =>
      cases second : slots 1 with
      | none =>
          obtain rfl : 0 = slot := by simpa [first, second] using found
          exact ⟨entry, first⟩
      | some rival =>
          simp only [first, second] at found
          split at found
          · obtain rfl : 1 = slot := by simpa using found
            exact ⟨rival, second⟩
          · obtain rfl : 0 = slot := by simpa using found
            exact ⟨entry, first⟩

theorem newest_eq_none {slots : Slots C V} :
    newest slots = none ↔ slots 0 = none ∧ slots 1 = none := by
  unfold newest
  cases slots 0 with
  | none => cases slots 1 with
    | none => simp
    | some _ => simp
  | some _ => cases slots 1 with
    | none => simp
    | some _ =>
        simp only [reduceCtorEq, and_self, iff_false]
        split
        · simp
        · simp

/-- Between two copies with the same count and the same value it does not matter which wins. -/
theorem Leads.newest {slots : Slots C V} {slot : Fin 2} {entry : Entry C V}
    (leads : Leads slots slot entry) :
    ∃ winner, newest slots = some winner ∧ Leads slots winner entry := by
  obtain ⟨holds, beside⟩ := leads
  rcases slot_cases slot with rfl | rfl
  · cases second : slots 1 with
    | none => exact ⟨0, by simp [TwinSlots.newest, holds, second], holds, beside⟩
    | some rival =>
        have below : ¬entry.count < rival.count := by
          rcases beside rival second with less | rfl
          · exact lt_asymm less
          · exact lt_irrefl _
        exact ⟨0, by simp [TwinSlots.newest, holds, second, below], holds, beside⟩
  · cases first : slots 0 with
    | none => exact ⟨1, by simp [TwinSlots.newest, holds, first], holds, beside⟩
    | some rival =>
        rcases beside rival first with less | rfl
        · exact ⟨1, by simp [TwinSlots.newest, holds, first, less], holds, beside⟩
        · refine ⟨0, by simp [TwinSlots.newest, holds, first], first, ?_⟩
          intro other found
          exact .inr (Option.some.inj (found.symm.trans holds))

theorem Leads.overtake {slots : Slots C V} {slot : Fin 2} {entry newer : Entry C V}
    (leads : Leads slots slot entry) (more : entry.count < newer.count) :
    Leads (Function.update slots (slot + 1) (some newer)) (slot + 1) newer := by
  refine ⟨Function.update_self .., ?_⟩
  intro rival found
  rw [beside_beside, Function.update_of_ne (beside_ne slot).symm, leads.1] at found
  exact .inl (Option.some.inj found ▸ more)

theorem Leads.duplicate {slots : Slots C V} {slot : Fin 2} {entry : Entry C V}
    (leads : Leads slots slot entry) :
    Leads (Function.update slots (slot + 1) (some entry)) (slot + 1) entry := by
  refine ⟨Function.update_self .., ?_⟩
  intro rival found
  rw [beside_beside, Function.update_of_ne (beside_ne slot).symm, leads.1] at found
  exact .inr (Option.some.inj found).symm

theorem Leads.damage {slots : Slots C V} {slot : Fin 2} {entry : Entry C V}
    (leads : Leads slots slot entry) :
    Leads (Function.update slots (slot + 1) none) slot entry := by
  refine ⟨?_, ?_⟩
  · rw [Function.update_of_ne (beside_ne slot).symm, leads.1]
  · intro rival found
    rw [Function.update_self] at found
    exact absurd found (by simp)

/-- What is loaded is the value of `entry`: beside it is only an older copy or the same value. -/
def Prevails (slots : Slots C V) (slot : Fin 2) (entry : Entry C V) : Prop :=
  slots slot = some entry ∧
    ∀ rival, slots (slot + 1) = some rival → rival.count < entry.count ∨ rival.value = entry.value

theorem Leads.prevails {slots : Slots C V} {slot : Fin 2} {entry : Entry C V}
    (leads : Leads slots slot entry) : Prevails slots slot entry := by
  refine ⟨leads.1, ?_⟩
  intro rival beside
  rcases leads.2 rival beside with older | rfl
  · exact .inl older
  · exact .inr rfl

theorem Prevails.newest {slots : Slots C V} {slot : Fin 2} {entry : Entry C V}
    (prevails : Prevails slots slot entry) :
    ∃ winner taken, newest slots = some winner ∧ Prevails slots winner taken ∧
      taken.value = entry.value := by
  obtain ⟨holds, beside⟩ := prevails
  have mirrored {rival : Entry C V} (found : slots (slot + 1) = some rival)
      (same : rival.value = entry.value) : Prevails slots (slot + 1) rival := by
    refine ⟨found, ?_⟩
    intro other back
    rw [beside_beside, holds] at back
    exact .inr ((Option.some.inj back) ▸ same.symm)
  cases other : slots (slot + 1) with
  | none =>
      refine ⟨slot, entry, ?_, ⟨holds, beside⟩, rfl⟩
      rcases slot_cases slot with rfl | rfl
      · have second : slots 1 = none := other
        simp [TwinSlots.newest, holds, second]
      · have first : slots 0 = none := other
        simp [TwinSlots.newest, holds, first]
  | some rival =>
      rcases slot_cases slot with rfl | rfl
      · have second : slots 1 = some rival := other
        by_cases less : entry.count < rival.count
        · have same := (beside rival other).resolve_left (lt_asymm less)
          exact ⟨1, rival, by simp [TwinSlots.newest, holds, second, less], mirrored other same, same⟩
        · exact ⟨0, entry, by simp [TwinSlots.newest, holds, second, less], ⟨holds, beside⟩, rfl⟩
      · have first : slots 0 = some rival := other
        by_cases less : rival.count < entry.count
        · exact ⟨1, entry, by simp [TwinSlots.newest, holds, first, less], ⟨holds, beside⟩, rfl⟩
        · have same := (beside rival other).resolve_left less
          exact ⟨0, rival, by simp [TwinSlots.newest, holds, first, less], mirrored other same, same⟩

/-- A newer copy prevails over whatever it is written beside. -/
theorem prevails_update {slots : Slots C V} {slot : Fin 2} {newer : Entry C V}
    (older : ∀ rival, slots slot = some rival →
      rival.count < newer.count ∨ rival.value = newer.value) :
    Prevails (Function.update slots (slot + 1) (some newer)) (slot + 1) newer := by
  refine ⟨Function.update_self .., ?_⟩
  intro rival found
  rw [beside_beside, Function.update_of_ne (beside_ne slot).symm] at found
  exact older rival found

theorem Prevails.damage {slots : Slots C V} {slot : Fin 2} {entry : Entry C V}
    (prevails : Prevails slots slot entry) :
    Prevails (Function.update slots (slot + 1) none) slot entry := by
  refine ⟨?_, ?_⟩
  · rw [Function.update_of_ne (beside_ne slot).symm, prevails.1]
  · intro rival found
    rw [Function.update_self] at found
    exact absurd found (by simp)

end TwinSlots
