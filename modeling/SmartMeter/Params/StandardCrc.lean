import SmartMeter.Library.Crc
import SmartMeter.Params.ParamLayout

/-!
The thirty-two equations of `_cal_crc32` against eight steps of the CRC-32 register. Both sides
are additive, so they agree when they agree on the thirty-two registers and the eight bytes with
a single bit set.
-/

namespace SmartMeter

def crc32 : Crc.Code 32 where
  poly := 0x04C11DB7
  init := BitVec.allOnes 32
  refin := true
  refout := true
  xorout := BitVec.allOnes 32

def gathered (one : Nat → Bool) (place : Nat → Nat) (count : Nat) : UInt32 :=
  (List.range count).foldl (fun result i =>
    if one i then result ||| 1 <<< UInt32.ofNat (place i) else result) 0

theorem shifted_one {index : Nat} (inside : index < 32) :
    (1 <<< UInt32.ofNat index : UInt32).toBitVec = BitVec.twoPow 32 index := by
  have table : ∀ index < 32, (1 <<< UInt32.ofNat index : UInt32).toBitVec = BitVec.twoPow 32 index := by
    decide +kernel
  exact table index inside

theorem gathered_succ (one : Nat → Bool) (place : Nat → Nat) (count : Nat) :
    gathered one place (count + 1) =
      if one count then gathered one place count ||| 1 <<< UInt32.ofNat (place count)
      else gathered one place count := by
  simp [gathered, List.range_succ]

theorem gathered_bit {one : Nat → Bool} {place : Nat → Nat} (low : ∀ i < 32, place i < 32)
    (apart : ∀ i < 32, ∀ j < 32, place i = place j → i = j) {index : Nat} (inside : index < 32)
    {count : Nat} (bound : count ≤ 32) :
    (gathered one place count).toBitVec.getLsbD (place index) = (decide (index < count) && one index) := by
  induction count with
  | zero => simp [gathered]
  | succ count ih =>
      have earlier := ih (by omega)
      have new : (BitVec.twoPow 32 (place count)).getLsbD (place index) = decide (index = count) := by
        rw [BitVec.getLsbD_twoPow, decide_eq_true (low count bound), Bool.true_and, decide_eq_decide]
        exact ⟨fun same => apart _ inside _ bound same.symm, fun same => by rw [same]⟩
      have reach : index < count + 1 ↔ index < count ∨ index = count := Nat.lt_succ_iff_lt_or_eq
      rw [gathered_succ]
      split
      · rename_i set
        rw [UInt32.toBitVec_or, shifted_one (low count bound), BitVec.getLsbD_or, earlier, new]
        by_cases same : index = count
        · subst same
          simp [set]
        · simp [reach, same]
      · rename_i clear
        rw [earlier]
        by_cases same : index = count
        · subst same
          simp [clear]
        · simp [reach, same]

theorem xorBits_shift (value : Nat) (bits : List Nat) (sum : Bool) :
    bits.foldl (fun sum bit => sum ^^ value.testBit bit) sum = (sum ^^ xorBits value bits) := by
  unfold xorBits
  induction bits generalizing sum with
  | nil => simp
  | cons bit rest ih =>
      rw [List.foldl_cons, List.foldl_cons, ih (sum ^^ value.testBit bit),
        ih (false ^^ value.testBit bit), Bool.false_xor, Bool.xor_assoc]

theorem xorBits_cons (value bit : Nat) (rest : List Nat) :
    xorBits value (bit :: rest) = (value.testBit bit ^^ xorBits value rest) := by
  rw [xorBits, List.foldl_cons, Bool.false_xor, xorBits_shift]

theorem xorBits_xor (first second : Nat) (bits : List Nat) :
    xorBits (first ^^^ second) bits = (xorBits first bits ^^ xorBits second bits) := by
  induction bits with
  | nil => rfl
  | cons bit rest ih =>
      rw [xorBits_cons, xorBits_cons, xorBits_cons, ih, Nat.testBit_xor]
      cases first.testBit bit <;> cases second.testBit bit <;> simp

def crcOut (crcResult : UInt32) (data8 : UInt8) (i : Nat) : Bool :=
  xorBits data8.toNat (crcTaps.getD i ([], [])).1 ^^
    xorBits crcResult.toNat (crcTaps.getD i ([], [])).2

theorem calCrc32_eq (crcResult : UInt32) (data8 : UInt8) :
    calCrc32 crcResult data8 = gathered (crcOut crcResult data8) id 32 := rfl

theorem calCrc32_bit (crcResult : UInt32) (data8 : UInt8) {i : Nat} (inside : i < 32) :
    (calCrc32 crcResult data8).toBitVec.getLsbD i = crcOut crcResult data8 i := by
  have bit := @gathered_bit (crcOut crcResult data8) id (fun i low => low)
    (fun i _ j _ same => same) i inside 32 (Nat.le_refl 32)
  simpa [calCrc32_eq, inside] using bit

theorem calCrc32_xor (crc other : UInt32) (data8 other8 : UInt8) :
    calCrc32 (crc ^^^ other) (data8 ^^^ other8) = calCrc32 crc data8 ^^^ calCrc32 other other8 := by
  apply UInt32.toBitVec_inj.mp
  apply BitVec.eq_of_getLsbD_eq
  intro i inside
  rw [UInt32.toBitVec_xor, BitVec.getLsbD_xor, calCrc32_bit _ _ inside, calCrc32_bit _ _ inside,
    calCrc32_bit _ _ inside]
  unfold crcOut
  rw [UInt32.toNat_xor, UInt8.toNat_xor, xorBits_xor, xorBits_xor]
  generalize xorBits data8.toNat _ = a
  generalize xorBits other8.toNat _ = b
  generalize xorBits crc.toNat _ = c
  generalize xorBits other.toNat _ = d
  cases a <;> cases b <;> cases c <;> cases d <;> rfl

open Crc

theorem calCrc32_register (crc : BitVec 32) :
    (calCrc32 ⟨crc⟩ 0).toBitVec = feed crc32.poly crc (byteBits 0) := by
  have code : Additive fun crc => (calCrc32 ⟨crc⟩ 0).toBitVec := by
    intro first second
    exact congrArg UInt32.toBitVec (calCrc32_xor ⟨first⟩ ⟨second⟩ 0 0)
  have register : Additive fun crc => feed crc32.poly crc (byteBits 0) := by
    intro first second
    exact feed_byte_xor crc32.poly first second 0 0
  exact code.ext register (by decide +kernel) crc

theorem calCrc32_byte (data8 : BitVec 8) :
    (calCrc32 0 ⟨data8⟩).toBitVec = feed crc32.poly 0 (byteBits ⟨data8⟩) := by
  have code : Additive fun data8 => (calCrc32 0 ⟨data8⟩).toBitVec := by
    intro first second
    exact congrArg UInt32.toBitVec (calCrc32_xor 0 0 ⟨first⟩ ⟨second⟩)
  have register : Additive fun data8 => feed crc32.poly 0 (byteBits ⟨data8⟩) := by
    intro first second
    exact feed_byte_xor crc32.poly 0 0 ⟨first⟩ ⟨second⟩
  exact code.ext register (by decide +kernel) data8

/-- The equations are eight steps of the register. -/
theorem calCrc32_feed (crcResult : UInt32) (data8 : UInt8) :
    (calCrc32 crcResult data8).toBitVec =
      feed crc32.poly crcResult.toBitVec (byteBits data8) := by
  have code := calCrc32_xor crcResult 0 0 data8
  have register := feed_byte_xor crc32.poly crcResult.toBitVec 0 0 data8
  rw [UInt32.xor_zero, UInt8.zero_xor] at code
  rw [BitVec.ofNat_eq_ofNat, BitVec.xor_zero, UInt8.zero_xor] at register
  rw [code, UInt32.toBitVec_xor, calCrc32_register, calCrc32_byte]
  exact register.symm

def message (data : Nat → UInt8) (dataSize : Nat) : List UInt8 :=
  (List.range dataSize).map data

theorem crcLoop_feed (data : Nat → UInt8) (dataSize : Nat) :
    (crcLoop data dataSize).toBitVec =
      feed crc32.poly crc32.init (crc32.bits (message data dataSize)) := by
  induction dataSize with
  | zero => rfl
  | succ i ih =>
      have longer : crc32.bits (message data (i + 1)) =
          crc32.bits (message data i) ++ byteBits (data i) := by
        simp [message, List.range_succ, Code.bits, Code.byteOrder, crc32]
      rw [crcLoop, calCrc32_feed, longer, feed_append, ih]

theorem shift_amount {index : Nat} (inside : index < 32) :
    (UInt32.ofNat index).toBitVec % 32 = BitVec.ofNat 32 index := by
  have table : ∀ index < 32, (UInt32.ofNat index).toBitVec % 32 = BitVec.ofNat 32 index := by
    decide +kernel
  exact table index inside

theorem shifted_low (value : UInt32) {index : Nat} (inside : index < 32) :
    (value >>> UInt32.ofNat index) &&& 1 = if value.toBitVec.getLsbD index then 1 else 0 := by
  have low := @BitVec.and_one_eq_setWidth_ofBool_getLsbD 32 (value.toBitVec >>> index)
  rw [BitVec.getLsbD_ushiftRight, Nat.add_zero] at low
  apply UInt32.toBitVec_inj.mp
  rw [UInt32.toBitVec_and, UInt32.toBitVec_shiftRight, shift_amount inside,
    BitVec.ushiftRight_eq', BitVec.toNat_ofNat, Nat.mod_eq_of_lt (by omega)]
  cases bit : value.toBitVec.getLsbD index <;> rw [bit] at low <;> exact low

/-- The second loop turns the register round. -/
theorem gathered_reverse (value : UInt32) :
    gathered (fun i => (value >>> UInt32.ofNat i) &&& 1 ≠ 0) (fun i => 31 - i) 32 =
      ⟨value.toBitVec.reverse⟩ := by
  apply UInt32.toBitVec_inj.mp
  apply BitVec.eq_of_getLsbD_eq
  intro index inside
  have mirrored : 31 - index < 32 := by omega
  have back : 31 - (31 - index) = index := by omega
  have bit := @gathered_bit (fun i => (value >>> UInt32.ofNat i) &&& 1 ≠ 0) (fun i => 31 - i)
    (fun i _ => by omega) (fun i _ j _ same => by omega) (31 - index) mirrored 32 (Nat.le_refl 32)
  rw [shifted_low value mirrored, decide_eq_true mirrored, Bool.true_and, back] at bit
  rw [bit, BitVec.getLsbD_reverse, BitVec.getMsbD_eq_getLsbD, decide_eq_true inside,
    Bool.true_and, show 32 - 1 - index = 31 - index from rfl]
  cases value.toBitVec.getLsbD (31 - index) <;> rfl

theorem getCrc32_gathered (data : Nat → UInt8) (dataSize : Nat) :
    getCrc32 data dataSize = ~~~gathered
      (fun i => (crcLoop data dataSize >>> UInt32.ofNat i) &&& 1 ≠ 0) (fun i => 31 - i) 32 := by
  simp [getCrc32, gathered]

theorem getCrc32_value (data : Nat → UInt8) (dataSize : Nat) :
    getCrc32 data dataSize = ⟨crc32.value (message data dataSize)⟩ := by
  rw [getCrc32_gathered, gathered_reverse, crcLoop_feed]
  apply UInt32.toBitVec_inj.mp
  rw [UInt32.toBitVec_not]
  exact BitVec.xor_allOnes.symm

/-- `get_crc32` is CRC-32, and no burst of 32 bits gets past it. -/
theorem getCrc32_standard (data : Nat → UInt8) (dataSize : Nat) :
    getCrc32 data dataSize = ⟨crc32.value (message data dataSize)⟩ ∧
      ∀ other start, message data dataSize ≠ message other dataSize →
        AgreeOutside start 32 (crc32.bits (message data dataSize))
          (crc32.bits (message other dataSize)) →
        getCrc32 data dataSize ≠ getCrc32 other dataSize := by
  refine ⟨getCrc32_value data dataSize, fun other start differ agree same => differ ?_⟩
  rw [getCrc32_value, getCrc32_value] at same
  exact Code.value_burst (by decide) (by simp [message]) agree (congrArg UInt32.toBitVec same)

def digits : Nat → UInt8 := fun index => 0x31 + UInt8.ofNat index

/-- The digits from one to nine, whose check value is catalogued, and the same with the fifth one
changed. -/
theorem getCrc32_standard_digits :
    getCrc32 digits 9 = 0xCBF43926 ∧
      getCrc32 digits 9 ≠ getCrc32 (Function.update digits 4 0) 9 :=
  ⟨(getCrc32_standard digits 9).1.trans (by decide +kernel),
    (getCrc32_standard digits 9).2 (Function.update digits 4 0) 16 (by decide +kernel)
      (by decide +kernel)⟩

end SmartMeter
