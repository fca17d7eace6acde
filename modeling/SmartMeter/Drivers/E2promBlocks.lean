import Mathlib.Algebra.Group.Nat.Defs
import Mathlib.Data.Nat.ModEq
import Mathlib.Tactic.Ring
import SmartMeter.Drivers.Storage

/-!
The accesses of `wm_e2prom.c` to several cells. A value is written from its lowest byte up and
read from its highest byte down, over addresses that wrap at the end of the chip.
-/

namespace SmartMeter

open I2cBus StateSimulation

def lenByte (dataToWrite : UInt32) (t : Nat) : UInt8 :=
  ((dataToWrite >>> UInt32.ofNat (8 * t)) &&& 0xff).toUInt8

/-- What the loop of `AT24CXX_ReadLenByte` makes of the `left` cells it still reads. -/
def joinDown (cells : Nat → UInt8) : Nat → UInt32 → UInt32
  | 0, temp => temp
  | left + 1, temp => joinDown cells left ((temp <<< 8) + (cells left).toUInt32)

def Storage.readLen (address : UInt16) (len : Nat) (temp : UInt32) : StateM Storage UInt32 := do
  let eeprom := (← get).eeprom
  return joinDown (fun index => eeprom (address + UInt16.ofNat index)) len temp

section

variable {σ : Type} [Target σ]

/-- A value is written like the block of its bytes. -/
theorem at24cxxWriteLenFrom_eq (address : UInt16) (value : UInt32) (left t : Nat) :
    (at24cxxWriteLenFrom address value left t : StateM (I2cController σ) Unit) =
      at24cxxWriteFrom left (address + UInt16.ofNat t) t (lenByte value) := by
  induction left generalizing t with
  | zero => rfl
  | succ left ih =>
      have next : address + UInt16.ofNat t + 1 = address + UInt16.ofNat (t + 1) := by
        rw [UInt16.ofNat_add, UInt16.add_assoc]
        rfl
      rw [at24cxxWriteLenFrom, at24cxxWriteFrom, next, ← ih]
      rfl

end

theorem at24cxxWriteLenByte_simulates (address : UInt16) (value : UInt32) (len : UInt8) :
    Simulates storageView (at24cxxWriteLenByte address value len)
      (Storage.writeBlock address (lenByte value) len.toNat) := by
  have bound := len.toNat_lt
  have block := at24cxxWriteFrom_simulates (lenByte value) len.toNat address 0 (by omega)
  simp only [Nat.zero_add] at block
  rw [at24cxxWriteLenByte, at24cxxWriteLenFrom_eq, show address + UInt16.ofNat 0 = address from
    UInt16.add_zero address]
  exact block

/-- With `left` cells to read, the one that is read next is `left - 1` behind the first. -/
theorem readAddress_eq (address : UInt16) (len : UInt8) {left t : Nat}
    (turns : left + 1 + t = len.toNat) :
    address + len.toUInt16 - UInt16.ofNat t - 1 = address + UInt16.ofNat left := by
  apply UInt16.toNat_inj.mp
  have bound := len.toNat_lt
  have addressBound := address.toNat_lt
  simp only [UInt16.toNat_sub, UInt16.toNat_add, UInt16.toNat_ofNat', UInt8.toNat_toUInt16,
    UInt16.reduceToNat]
  omega

theorem at24cxxReadLenFrom_simulates (address : UInt16) (len : UInt8) :
    ∀ left t temp, left + t = len.toNat →
      Simulates storageView (at24cxxReadLenFrom address len left t temp)
        (Storage.readLen address left temp) := by
  intro left
  induction left with
  | zero => exact fun t temp _ => .pure temp
  | succ left ih =>
      intro t temp turns
      rw [at24cxxReadLenFrom, readAddress_eq address len turns]
      exact (at24cxxReadOneByte_simulates _).bind fun value =>
        ih (t + 1) ((temp <<< 8) + value.toUInt32) (by omega)

theorem at24cxxReadLenByte_simulates (address : UInt16) (len : UInt8) :
    Simulates storageView (at24cxxReadLenByte address len)
      (Storage.readLen address len.toNat 0) :=
  at24cxxReadLenFrom_simulates address len len.toNat 0 0 rfl

theorem lenByte_toNat (value : UInt32) {t : Nat} (low : t < 4) :
    (lenByte value t).toNat = value.toNat / 256 ^ t % 256 := by
  have shift : 8 * t % 4294967296 % 32 = 8 * t := by omega
  have mask (shifted : Nat) : shifted &&& 255 = shifted % 256 :=
    @Nat.and_two_pow_sub_one_eq_mod shifted 8
  rw [lenByte, UInt32.toNat_toUInt8, UInt32.toNat_and, UInt32.toNat_shiftRight, UInt32.toNat_ofNat',
    shift, Nat.shiftRight_eq_div_pow, Nat.pow_mul]
  exact (congrArg (· % 256) (mask _)).trans (Nat.mod_mod _ _)

/-- Joining what was split gives the value back, behind whatever was joined before. -/
theorem joinDown_lenByte (value : UInt32) {cells : Nat → UInt8} {left : Nat} (few : left ≤ 4)
    (split : ∀ t < left, cells t = lenByte value t) (temp : UInt32) :
    (joinDown cells left temp).toNat =
      (temp.toNat * 256 ^ left + value.toNat % 256 ^ left) % 4294967296 := by
  induction left generalizing temp with
  | zero =>
      have bound := temp.toNat_lt
      rw [joinDown, pow_zero, Nat.mod_one, Nat.mul_one, Nat.add_zero, Nat.mod_eq_of_lt bound]
  | succ left ih =>
      have rest := ih (by omega) (fun t below => split t (by omega))
        ((temp <<< 8) + (cells left).toUInt32)
      have byte : (cells left).toNat = value.toNat / 256 ^ left % 256 := by
        rw [split left (by omega), lenByte_toNat value (by omega)]
      have taken : ((temp <<< 8) + (cells left).toUInt32).toNat =
          (temp.toNat * 256 % 4294967296 + (cells left).toNat) % 4294967296 := by
        rw [UInt32.toNat_add, UInt32.toNat_shiftLeft, UInt8.toNat_toUInt32, Nat.shiftLeft_eq]
        rfl
      have wraps : (temp.toNat * 256 % 4294967296 + (cells left).toNat) % 4294967296 ≡
          temp.toNat * 256 + (cells left).toNat [MOD 4294967296] :=
        (Nat.mod_modEq _ _).trans ((Nat.mod_modEq _ _).add_right _)
      have digits : value.toNat % 256 ^ (left + 1) =
          value.toNat % 256 ^ left + 256 ^ left * (cells left).toNat := by
        rw [byte, Nat.mod_pow_succ]
      rw [joinDown, rest, taken]
      refine ((wraps.mul_right _).add_right _).trans ?_
      have sum : (temp.toNat * 256 + (cells left).toNat) * 256 ^ left + value.toNat % 256 ^ left =
          temp.toNat * 256 ^ (left + 1) + value.toNat % 256 ^ (left + 1) := by
        rw [digits, pow_succ]
        ring
      exact congrArg (· % 4294967296) sum

section Access

variable (address : UInt16)

def Untouched (count : Nat) (before after : I2cController (Eeprom × Rtc)) : Prop :=
  ∀ cell : UInt16, count ≤ (cell - address).toNat →
    (storageView after).eeprom cell = (storageView before).eeprom cell

variable {address}

theorem untouched_of_written {count : Nat} {before after : I2cController (Eeprom × Rtc)}
    {source : Nat → UInt8}
    (written : (storageView after).eeprom =
      writeSpan (storageView before).eeprom address source count) :
    Untouched address count before after := by
  intro cell outside
  rw [written, writeSpan, if_neg (by omega)]

theorem lenByte_access (value : UInt32) {len : UInt8} (few : len.toNat ≤ 4)
    (bus : I2cController (Eeprom × Rtc)) :
    let written := ((at24cxxWriteLenByte address value len).run bus).2
    let read := (at24cxxReadLenByte address len).run written
    read.1.toNat = value.toNat % 256 ^ len.toNat ∧
      Untouched address len.toNat bus written ∧ Untouched address len.toNat bus read.2 := by
  obtain ⟨-, stored⟩ := at24cxxWriteLenByte_simulates address value len bus
  obtain ⟨answer, kept⟩ := at24cxxReadLenByte_simulates address len
    ((at24cxxWriteLenByte address value len).run bus).2
  have cells (t : Nat) (below : t < len.toNat) :
      (storageView ((at24cxxWriteLenByte address value len).run bus).2).eeprom
        (address + UInt16.ofNat t) = lenByte value t := by
    rw [stored]
    exact writeSpan_inside _ _ _ (by omega) below
  refine ⟨?_, untouched_of_written (congrArg Storage.eeprom stored),
    untouched_of_written (?_ : _ = writeSpan _ address (lenByte value) _)⟩
  · rw [answer]
    refine (joinDown_lenByte value few cells 0).trans ?_
    rw [UInt32.toNat_zero, Nat.zero_mul, Nat.zero_add]
    exact Nat.mod_eq_of_lt (Nat.lt_of_le_of_lt (Nat.mod_le _ _) value.toNat_lt)
  · rw [kept]
    exact congrArg Storage.eeprom stored

theorem block_access (pBuffer into : Nat → UInt8) (count : UInt16)
    (bus : I2cController (Eeprom × Rtc)) :
    let written := ((at24cxxWrite address pBuffer count).run bus).2
    let read := (at24cxxRead address into count).run written
    (∀ index < count.toNat, read.1 index = pBuffer index) ∧
      Untouched address count.toNat bus written ∧ Untouched address count.toNat bus read.2 := by
  have bound := count.toNat_lt
  obtain ⟨-, stored⟩ := at24cxxWrite_simulates address pBuffer count bus
  obtain ⟨answer, kept⟩ := at24cxxRead_simulates address into count
    ((at24cxxWrite address pBuffer count).run bus).2
  refine ⟨?_, untouched_of_written (congrArg Storage.eeprom stored),
    untouched_of_written (?_ : _ = writeSpan _ address pBuffer _)⟩
  · intro index inside
    rw [answer]
    have place := @Buffer.copy_inside UInt8 into (fun index => (storageView
      ((at24cxxWrite address pBuffer count).run bus).2).eeprom (address + UInt16.ofNat index))
      0 count.toNat index inside
    rw [Nat.zero_add] at place
    refine place.trans ?_
    rw [stored]
    exact writeSpan_inside _ _ _ (by omega) inside
  · rw [kept]
    exact congrArg Storage.eeprom stored

/-- Values and blocks come back from the chip as they were written, at every address, and what is
written stays inside its cells. -/
theorem eeprom_round_trips (address : UInt16) (bus : I2cController (Eeprom × Rtc)) :
    (∀ (value : UInt32) (len : UInt8), len.toNat ≤ 4 →
      let written := ((at24cxxWriteLenByte address value len).run bus).2
      let read := (at24cxxReadLenByte address len).run written
      read.1.toNat = value.toNat % 256 ^ len.toNat ∧
        Untouched address len.toNat bus written ∧ Untouched address len.toNat bus read.2) ∧
    ∀ (pBuffer into : Nat → UInt8) (count : UInt16),
      let written := ((at24cxxWrite address pBuffer count).run bus).2
      let read := (at24cxxRead address into count).run written
      (∀ index < count.toNat, read.1 index = pBuffer index) ∧
        Untouched address count.toNat bus written ∧ Untouched address count.toNat bus read.2 :=
  ⟨fun value _ few => lenByte_access value few bus,
    fun pBuffer into count => block_access pBuffer into count bus⟩

def emptyChips : I2cController (Eeprom × Rtc) :=
  ⟨(⟨fun _ => 0xFF, 0, .idle⟩, ⟨fun _ => 0, 0, .idle⟩), false⟩

/-- Three bytes of a value at the end of the chip, the last of them in its first cell. -/
theorem eeprom_round_trips_wrapped :
    ((at24cxxReadLenByte 65534 3).run ((at24cxxWriteLenByte 65534 0x12345678 3).run
      emptyChips).2).1.toNat = 0x345678 :=
  ((eeprom_round_trips 65534 emptyChips).1 0x12345678 3 (by decide)).1

end Access

end SmartMeter
