import SmartMeter.Library.Crc
import SmartMeter.Oneshot.FragmentCore

/-!
The checksum of a fragment, from `utils.c`. An entry of `crc8_tbl` is eight steps of a CRC-8
register that is kept turned round, so what is known about such registers holds of the three
functions that look bytes up in the table.
-/

namespace SmartMeter

open Crc

def calculateCrc8 (crc8 : UInt8) (bytes : List UInt8) : UInt8 :=
  bytes.foldl (fun crc8 data => crc8Tbl.getD (crc8 ^^^ data).toNat 0) crc8

def chkCrc8 (bytes : List UInt8) : Int :=
  let crc8 := bytes.foldl (fun crc8 data => crc8Tbl.getD (crc8 ^^^ data).toNat 0) 0
  if crc8 = 0 then 0 else -1

def crc8 : Code 8 where
  poly := 0x07
  init := 0
  refin := true
  refout := true
  xorout := 0

theorem crc8Tbl_register (index : UInt8) :
    (crc8Tbl.getD index.toNat 0).toBitVec =
      (feed crc8.poly index.toBitVec.reverse (List.replicate 8 false)).reverse := by
  have table : ∀ index < 256, (crc8Tbl.getD index 0).toBitVec =
      (feed crc8.poly (BitVec.ofNat 8 index).reverse (List.replicate 8 false)).reverse := by
    decide +kernel
  have same : BitVec.ofNat 8 index.toNat = index.toBitVec := BitVec.ofNat_toNat ..
  rw [← same]
  exact table index.toNat index.toNat_lt

theorem load_byteBits (data : UInt8) : (load (byteBits data) : BitVec 8) = data.toBitVec.reverse := by
  apply BitVec.eq_of_getMsbD_eq
  intro index inside
  rw [load_getMsbD _ inside, BitVec.getMsbD_reverse]
  simp [byteBits, inside]

theorem reverse_xor (first second : BitVec 8) :
    (first ^^^ second).reverse = first.reverse ^^^ second.reverse := by
  apply BitVec.eq_of_getLsbD_eq
  intro index inside
  rw [BitVec.getLsbD_reverse, BitVec.getMsbD_xor, BitVec.getLsbD_xor, BitVec.getLsbD_reverse,
    BitVec.getLsbD_reverse]

/-- One turn of the loops. -/
theorem crc8Tbl_feed (register data : UInt8) :
    (crc8Tbl.getD (register ^^^ data).toNat 0).toBitVec =
      (feed crc8.poly register.toBitVec.reverse (byteBits data)).reverse := by
  have eight : (byteBits data).length = 8 := by simp [byteBits]
  have loaded := feed_load crc8.poly register.toBitVec.reverse (by rw [eight])
  rw [eight, load_byteBits] at loaded
  rw [loaded, crc8Tbl_register, UInt8.toBitVec_xor, reverse_xor]

theorem calculateCrc8_feed (register : UInt8) (bytes : List UInt8) :
    (calculateCrc8 register bytes).toBitVec =
      (feed crc8.poly register.toBitVec.reverse (crc8.bits bytes)).reverse := by
  induction bytes generalizing register with
  | nil => exact BitVec.reverse_reverse_eq.symm
  | cons data rest ih =>
      have turn := ih (crc8Tbl.getD (register ^^^ data).toNat 0)
      rw [crc8Tbl_feed, BitVec.reverse_reverse_eq, ← feed_append] at turn
      exact turn

theorem calculateCrc8_append (register : UInt8) (first second : List UInt8) :
    calculateCrc8 register (first ++ second) =
      calculateCrc8 (calculateCrc8 register first) second :=
  List.foldl_append

theorem getCrc8_value (bytes : List UInt8) : getCrc8 bytes = ⟨crc8.value bytes⟩ := by
  apply UInt8.toBitVec_inj.mp
  have register := calculateCrc8_feed 0 bytes
  have zero : (0 : UInt8).toBitVec.reverse = crc8.init := by decide
  rw [zero] at register
  exact register.trans BitVec.xor_zero.symm

theorem chkCrc8_value (bytes : List UInt8) : chkCrc8 bytes = 0 ↔ crc8.value bytes = 0 := by
  have value : chkCrc8 bytes = if getCrc8 bytes = 0 then 0 else -1 := rfl
  rw [value, getCrc8_value]
  by_cases zero : crc8.value bytes = 0
  · rw [zero]
    decide
  · have other : (⟨crc8.value bytes⟩ : UInt8) ≠ 0 := fun same => zero (congrArg UInt8.toBitVec same)
    rw [if_neg other]
    exact iff_of_false (by decide) zero

/-- Of the entries of the table only the first is zero. -/
theorem crc8Tbl_eq_zero {index : UInt8} (zero : crc8Tbl.getD index.toNat 0 = 0) : index = 0 := by
  have register := crc8Tbl_register index
  rw [zero] at register
  have shifted := congrArg BitVec.reverse register
  rw [BitVec.reverse_reverse_eq] at shifted
  have clear := feed_zeros_eq_zero (by decide) shifted.symm
  apply UInt8.toBitVec_inj.mp
  have twice := congrArg BitVec.reverse clear
  rwa [BitVec.reverse_reverse_eq] at twice

theorem chkCrc8_appended (data : List UInt8) (byte : UInt8) :
    chkCrc8 (data ++ [byte]) = 0 ↔ byte = getCrc8 data := by
  have last : chkCrc8 (data ++ [byte]) =
      if crc8Tbl.getD (getCrc8 data ^^^ byte).toNat 0 = 0 then 0 else -1 := by
    simp [chkCrc8, getCrc8]
  rw [last]
  by_cases same : byte = getCrc8 data
  · rw [same, UInt8.xor_self]
    exact iff_of_true (by decide) rfl
  · have some : crc8Tbl.getD (getCrc8 data ^^^ byte).toNat 0 ≠ 0 :=
      fun zero => same (UInt8.xor_eq_zero_iff.mp (crc8Tbl_eq_zero zero)).symm
    rw [if_neg some]
    exact iff_of_false (by decide) same

/-- What differs from an accepted message within eight bits is refused. -/
theorem chkCrc8_burst {sent received : List UInt8} {start : Nat}
    (size : sent.length = received.length)
    (agree : AgreeOutside start 8 (crc8.bits sent) (crc8.bits received))
    (whole : chkCrc8 sent = 0) (passed : chkCrc8 received = 0) : sent = received := by
  rw [chkCrc8_value] at whole passed
  exact Code.value_burst (by decide) size agree (whole.trans passed.symm)

/-- The checksum of a fragment: only the right byte is accepted behind the data, the calculation can
be interrupted anywhere, and no change of a single byte is overlooked. -/
theorem fragment_checksum (data : List UInt8) (byte : UInt8) :
    (chkCrc8 (data ++ [byte]) = 0 ↔ byte = getCrc8 data) ∧
      (∀ register rest, calculateCrc8 register (data ++ rest) =
        calculateCrc8 (calculateCrc8 register data) rest) ∧
      ∀ index < data.length + 1, (data ++ [getCrc8 data])[index]? ≠ some byte →
        chkCrc8 ((data ++ [getCrc8 data]).set index byte) ≠ 0 := by
  refine ⟨chkCrc8_appended data byte, fun register => calculateCrc8_append register data, ?_⟩
  intro index inside other passed
  have whole := (chkCrc8_appended data _).mpr rfl
  have same := chkCrc8_burst (by simp) (crc8.bits_set_agree _ index byte) whole passed
  apply other
  rw [same, List.getElem?_set_self (by simpa using inside)]

theorem fragment_checksum_digits :
    (chkCrc8 ([0x31, 0x32] ++ [0x55]) = 0 ↔ (0x55 : UInt8) = getCrc8 [0x31, 0x32]) ∧
      chkCrc8 (([0x31, 0x32] ++ [getCrc8 [0x31, 0x32]]).set 2 0x55) ≠ 0 :=
  have protects := fragment_checksum [0x31, 0x32] 0x55
  ⟨protects.1, protects.2.2 2 (by decide) (by decide)⟩

end SmartMeter
