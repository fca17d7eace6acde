import Mathlib.Algebra.Group.Nat.Defs

/-! Fields of words under masks and shifts, as arithmetic. -/

namespace BitFields

theorem and_mask (value width shift : Nat) :
    value &&& (2 ^ width - 1) <<< shift = value / 2 ^ shift % 2 ^ width * 2 ^ shift := by
  rw [← Nat.shiftLeft_eq, ← Nat.shiftRight_eq_div_pow]
  apply Nat.eq_of_testBit_eq
  intro bit
  rw [Nat.testBit_and, Nat.testBit_shiftLeft, Nat.testBit_shiftLeft,
    Nat.testBit_two_pow_sub_one, Nat.testBit_mod_two_pow, Nat.testBit_shiftRight]
  by_cases above : shift ≤ bit
  · simp [above, Bool.and_comm]
  · simp [above]

section HostPart

variable {mask value part : UInt32} {bits : Nat}

theorem and_not_toNat (contiguous : (~~~mask).toNat + 1 = 2 ^ bits) (value : UInt32) :
    (value &&& ~~~mask).toNat = value.toNat % 2 ^ bits := by
  have low : (~~~mask).toNat = 2 ^ bits - 1 := by omega
  rw [UInt32.toNat_and, low, Nat.and_two_pow_sub_one_eq_mod]

theorem and_mask_toNat (contiguous : (~~~mask).toNat + 1 = 2 ^ bits) (value : UInt32) :
    (value &&& mask).toNat = value.toNat / 2 ^ bits * 2 ^ bits := by
  have bound := value.toNat_lt
  have maskBound := mask.toNat_lt
  have complement : (~~~mask).toNat = 2 ^ 32 - 1 - mask.toNat := UInt32.toNat_not mask
  have positive : 0 < 2 ^ bits := Nat.two_pow_pos bits
  have inside : bits ≤ 32 := (Nat.pow_le_pow_iff_right (by decide : 1 < 2)).mp (by omega)
  have split : 2 ^ 32 = 2 ^ (32 - bits) * 2 ^ bits := by
    rw [← Nat.pow_add, Nat.sub_add_cancel inside]
  have shifted : mask.toNat = (2 ^ (32 - bits) - 1) <<< bits := by
    rw [Nat.shiftLeft_eq, Nat.sub_mul, ← split]
    omega
  have small : value.toNat / 2 ^ bits < 2 ^ (32 - bits) := by
    apply Nat.div_lt_of_lt_mul
    rw [Nat.mul_comm, ← split]
    exact bound
  rw [UInt32.toNat_and, shifted, and_mask, Nat.mod_eq_of_lt small]

theorem or_part_toNat (contiguous : (~~~mask).toNat + 1 = 2 ^ bits) (value : UInt32)
    (small : part.toNat < 2 ^ bits) :
    ((value &&& mask) ||| part).toNat = value.toNat / 2 ^ bits * 2 ^ bits + part.toNat := by
  rw [UInt32.toNat_or, and_mask_toNat contiguous, Nat.mul_comm, Nat.two_pow_add_eq_or_of_lt small]

end HostPart

end BitFields
