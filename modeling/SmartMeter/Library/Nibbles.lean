import Mathlib.Logic.Function.Basic

/-!
Bytes that are sent half by half, and put together again in a buffer that need not be clear.
-/

namespace Nibbles

/-- The halves of the bytes, of each the upper one first. -/
def nibble (bytes : Nat → UInt8) (n : Nat) : UInt8 :=
  if n % 2 = 0 then bytes (n / 2) >>> 4 else bytes (n / 2) &&& 0xF

def placed (bytes : Nat → UInt8) (n : Nat) : UInt8 :=
  if n % 2 = 0 then nibble bytes n <<< 4 else nibble bytes n

def part (bytes : Nat → UInt8) (first count n : Nat) : UInt8 :=
  if first ≤ n ∧ n < count then placed bytes n else 0

/-- The buffer under the halves from `first` up to `count`. -/
def laid (buffer bytes : Nat → UInt8) (first count index : Nat) : UInt8 :=
  buffer index ||| part bytes first count (2 * index) ||| part bytes first count (2 * index + 1)

variable {buffer bytes : Nat → UInt8} {first count index : Nat}

theorem join (byte : UInt8) : (byte >>> 4) <<< 4 ||| (byte &&& 0xF) = byte := by
  have all : ∀ value < 256, (UInt8.ofNat value >>> 4) <<< 4 ||| (UInt8.ofNat value &&& 0xF) =
      UInt8.ofNat value := by
    decide +kernel
  have same := all byte.toNat byte.toNat_lt
  rwa [UInt8.ofNat_toNat] at same

theorem nibble_le (bytes : Nat → UInt8) (n : Nat) : (nibble bytes n).toNat ≤ 15 := by
  rw [nibble]
  split
  · have bound := (bytes (n / 2)).toNat_lt
    rw [UInt8.toNat_shiftRight]
    change (bytes (n / 2)).toNat >>> 4 ≤ 15
    omega
  · rw [UInt8.toNat_and]
    exact Nat.and_le_right

theorem placed_upper (bytes : Nat → UInt8) (index : Nat) :
    placed bytes (2 * index) = (bytes index >>> 4) <<< 4 := by
  have even : 2 * index % 2 = 0 := by omega
  have half : 2 * index / 2 = index := by omega
  rw [placed, if_pos even, nibble, if_pos even, half]

theorem placed_lower (bytes : Nat → UInt8) (index : Nat) :
    placed bytes (2 * index + 1) = bytes index &&& 0xF := by
  have odd : ¬(2 * index + 1) % 2 = 0 := by omega
  have half : (2 * index + 1) / 2 = index := by omega
  rw [placed, if_neg odd, nibble, if_neg odd, half]

theorem part_inside {n : Nat} (inside : first ≤ n ∧ n < count) :
    part bytes first count n = placed bytes n :=
  if_pos inside

theorem part_outside {n : Nat} (outside : ¬(first ≤ n ∧ n < count)) :
    part bytes first count n = 0 :=
  if_neg outside

theorem part_succ {n : Nat} (apart : n ≠ count) :
    part bytes first (count + 1) n = part bytes first count n := by
  rw [part, part]
  exact if_congr (by omega) rfl rfl

@[simp] theorem laid_nothing : laid buffer bytes first first = buffer := by
  funext index
  rw [laid, part_outside (by omega), part_outside (by omega), UInt8.or_zero, UInt8.or_zero]

theorem laid_succ (started : first ≤ count) :
    Function.update (laid buffer bytes first count) (count / 2)
      (laid buffer bytes first count (count / 2) ||| placed bytes count) =
        laid buffer bytes first (count + 1) := by
  funext index
  by_cases here : index = count / 2
  · subst here
    rw [Function.update_self, laid, laid]
    by_cases even : count % 2 = 0
    · have upper : 2 * (count / 2) = count := by omega
      rw [upper, part_outside (by omega), part_outside (by omega), part_inside (by omega),
        part_outside (by omega)]
      simp only [UInt8.or_zero]
    · have lower : 2 * (count / 2) + 1 = count := by omega
      rw [lower, part_succ (by omega), part_outside (n := count) (by omega),
        part_inside (n := count) (by omega), UInt8.or_zero]
  · rw [Function.update_of_ne here, laid, laid, part_succ (by omega), part_succ (by omega)]

theorem laid_byte (started : first ≤ 2 * index) (enough : 2 * index + 1 < count) :
    laid buffer bytes first count index = buffer index ||| bytes index := by
  rw [laid, part_inside ⟨started, by omega⟩, part_inside ⟨by omega, enough⟩, placed_upper,
    placed_lower, UInt8.or_assoc, join]

/-- A byte whose upper half was there before. -/
theorem laid_lower (enough : 2 * index + 1 < count) :
    laid buffer bytes (2 * index + 1) count index = buffer index ||| (bytes index &&& 0xF) := by
  rw [laid, part_outside (by omega), part_inside ⟨Nat.le_refl _, enough⟩, placed_lower,
    UInt8.or_zero]

end Nibbles
