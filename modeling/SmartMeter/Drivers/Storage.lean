import SmartMeter.Drivers.ExrtcCore
import SmartMeter.Library.Buffer
import SmartMeter.Library.StateSimulation

/-!
What the two chips on the bus hold, without pointers and bus phases, and the effect of
each driver function on it.
-/

namespace SmartMeter

open I2cBus StateSimulation

structure Storage where
  eeprom : UInt16 → UInt8
  rtc : UInt8 → UInt8

def storageView (bus : I2cController (Eeprom × Rtc)) : Storage :=
  ⟨bus.target.1.cells, bus.target.2.cells⟩

def writeSpan (cells : UInt16 → UInt8) (base : UInt16) (source : Nat → UInt8) (count : Nat) :
    UInt16 → UInt8 :=
  fun address =>
    if (address - base).toNat < count then source (address - base).toNat else cells address

def clockRegisters (registers : UInt8 → UInt8) (time : TimeDef) : UInt8 → UInt8 :=
  let registers := Function.update registers 0 time.second
  let registers := Function.update registers 1 time.minute
  let registers := Function.update registers 2 (time.hour ||| 0x80)
  let registers := Function.update registers 3 time.week
  let registers := Function.update registers 4 time.day
  let registers := Function.update registers 5 time.month
  Function.update registers 6 time.year

def clockTime (registers : UInt8 → UInt8) : TimeDef :=
  ⟨registers 0, registers 1, registers 2 &&& 0x7F, registers 3, registers 4, registers 5, registers 6⟩

def savedTime (time : TimeDef) (index : Nat) : UInt8 :=
  #[time.year, time.month, time.day, time.hour, time.minute, time.second, time.week].getD index 0

def restoredTime (bytes : Nat → UInt8) : TimeDef where
  year := bytes 0
  month := bytes 1
  day := bytes 2
  hour := bytes 3
  minute := bytes 4
  second := bytes 5
  week := bytes 6

namespace Storage

def readByte (address : UInt16) : StateM Storage UInt8 := do
  return (← get).eeprom address

def writeByte (address : UInt16) (value : UInt8) : StateM Storage Unit :=
  modify fun storage => { storage with eeprom := Function.update storage.eeprom address value }

def readBlock (address : UInt16) (buffer : Nat → UInt8) (offset count : Nat) :
    StateM Storage (Nat → UInt8) := do
  let eeprom := (← get).eeprom
  return Buffer.copy buffer offset (fun index => eeprom (address + UInt16.ofNat index)) count

def writeBlock (address : UInt16) (source : Nat → UInt8) (count : Nat) : StateM Storage Unit :=
  modify fun storage => { storage with eeprom := writeSpan storage.eeprom address source count }

def setClock (time : TimeDef) : StateM Storage Bool := do
  modify fun storage =>
    if rtcUnlocked storage.rtc then { storage with rtc := clockRegisters storage.rtc time }
    else storage
  return true

def readClock : StateM Storage (TimeDef × Bool) := do
  return (clockTime (← get).rtc, true)

def saveTime (time : TimeDef) : StateM Storage Unit :=
  writeBlock 0 (savedTime time) 7

def readTime : StateM Storage TimeDef := do
  return restoredTime (← readBlock 0 (fun _ => 0) 0 7)

def saveClock : StateM Storage (TimeDef × TimeDef) := do
  let (time, _) ← readClock
  saveTime time
  return (time, ← readTime)

end Storage

theorem at24c512_address (pointer address : UInt16) :
    at24c512.shiftIn (at24c512.shiftIn pointer (address >>> 8).toUInt8) (address % 256).toUInt8 =
      address := by
  apply UInt16.toNat_inj.mp
  have bound := address.toNat_lt
  simp only [at24c512, UInt16.toNat_add, UInt16.toNat_mul, UInt8.toNat_toUInt16,
    UInt16.toNat_toUInt8, UInt16.toNat_shiftRight, UInt16.toNat_mod, UInt16.reduceToNat,
    Nat.shiftRight_eq_div_pow, Nat.reduceMod, Nat.reducePow]
  omega

@[simp] theorem at24c512_store (cells : UInt16 → UInt8) (pointer : UInt16) (byte : UInt8) :
    at24c512.store cells pointer byte = Function.update cells pointer byte := rfl

section Selection

variable (eeprom : Eeprom) (rtc : Rtc)

@[simp] theorem eeprom_select_write :
    Target.select eeprom 0xA0 = ({ eeprom with phase := .pointing 2 }, true) := rfl

@[simp] theorem eeprom_select_read :
    Target.select eeprom 0xA1 = ({ eeprom with phase := .reading }, true) := rfl

@[simp] theorem eeprom_select_rtc :
    Target.select eeprom rtcAddress = ({ eeprom with phase := .idle }, false) := rfl

@[simp] theorem eeprom_select_rtc_read :
    Target.select eeprom (rtcAddress + 1) = ({ eeprom with phase := .idle }, false) := rfl

@[simp] theorem rtc_select_write :
    Target.select rtc rtcAddress = ({ rtc with phase := .pointing 1 }, true) := rfl

@[simp] theorem rtc_select_read :
    Target.select rtc (rtcAddress + 1) = ({ rtc with phase := .reading }, true) := rfl

@[simp] theorem rtc_select_eeprom :
    Target.select rtc 0xA0 = ({ rtc with phase := .idle }, false) := rfl

@[simp] theorem rtc_select_eeprom_read :
    Target.select rtc 0xA1 = ({ rtc with phase := .idle }, false) := rfl

end Selection

theorem at24cxxReadOneByte_simulates (address : UInt16) :
    Simulates storageView (at24cxxReadOneByte address) (Storage.readByte address) := by
  rintro ⟨⟨eeprom, rtc⟩, nak⟩
  simp -implicitDefEqProofs [at24cxxReadOneByte, Storage.readByte, storageView, at24c512_address]

theorem at24cxxWriteOneByte_simulates (address : UInt16) (value : UInt8) :
    Simulates storageView (at24cxxWriteOneByte address value)
      (Storage.writeByte address value) := by
  rintro ⟨⟨eeprom, rtc⟩, nak⟩
  simp -implicitDefEqProofs [at24cxxWriteOneByte, Storage.writeByte, storageView, at24c512_address]

@[simp] theorem writeSpan_zero (cells : UInt16 → UInt8) (base : UInt16) (source : Nat → UInt8) :
    writeSpan cells base source 0 = cells := by
  funext address
  simp [writeSpan]

theorem writeSpan_succ (cells : UInt16 → UInt8) (base : UInt16) (source : Nat → UInt8)
    {count : Nat} (bound : count < 65536) :
    writeSpan (Function.update cells base (source 0)) (base + 1) (fun index => source (index + 1))
      count = writeSpan cells base source (count + 1) := by
  funext address
  have addressBound := address.toNat_lt
  have baseBound := base.toNat_lt
  simp only [writeSpan, Function.update_apply]
  by_cases first : address = base
  · subst first
    have far : (address - (address + 1)).toNat = 65535 := by
      simp only [UInt16.toNat_sub, UInt16.toNat_add, UInt16.reduceToNat]
      omega
    have past : ¬(address - (address + 1)).toNat < count := by omega
    have same : (address - address).toNat = 0 := by
      rw [UInt16.sub_self]
      rfl
    rw [if_neg past, if_pos rfl, same, if_pos (Nat.succ_pos count)]
  · have apart : address.toNat ≠ base.toNat := fun same => first (UInt16.toNat_inj.mp same)
    have shift : (address - base).toNat = (address - (base + 1)).toNat + 1 := by
      simp only [UInt16.toNat_sub, UInt16.toNat_add, UInt16.reduceToNat]
      omega
    simp [shift, first]

theorem writeSpan_inside (cells : UInt16 → UInt8) (base : UInt16) (source : Nat → UInt8)
    {count index : Nat} (bound : count ≤ 65536) (inside : index < count) :
    writeSpan cells base source count (base + UInt16.ofNat index) = source index := by
  have offset : (base + UInt16.ofNat index - base).toNat = index := by
    have baseBound := base.toNat_lt
    simp only [UInt16.toNat_sub, UInt16.toNat_add, UInt16.toNat_ofNat']
    omega
  rw [writeSpan, offset, if_pos inside]

theorem writeSpan_apply (cells : UInt16 → UInt8) (base : UInt16) (source : Nat → UInt8)
    {count : Nat} (address : UInt16) (fits : base.toNat + count ≤ 65536) :
    writeSpan cells base source count address =
      if base.toNat ≤ address.toNat ∧ address.toNat < base.toNat + count then
        source (address.toNat - base.toNat)
      else cells address := by
  have addressBound := address.toNat_lt
  have difference : (address - base).toNat =
      (65536 - base.toNat + address.toNat) % 65536 := UInt16.toNat_sub _ _
  unfold writeSpan
  by_cases inside : base.toNat ≤ address.toNat ∧ address.toNat < base.toNat + count
  · have offset : (address - base).toNat = address.toNat - base.toNat := by omega
    rw [if_pos inside, if_pos (by omega), offset]
  · have past : ¬(address - base).toNat < count := by omega
    rw [if_neg inside, if_neg past]

theorem writeSpan_outside (cells : UInt16 → UInt8) (base : UInt16) (source : Nat → UInt8)
    {count : Nat} {address : UInt16} (fits : base.toNat + count ≤ 65536)
    (outside : address.toNat < base.toNat ∨ base.toNat + count ≤ address.toNat) :
    writeSpan cells base source count address = cells address := by
  rw [writeSpan_apply _ _ _ _ fits, if_neg (by omega)]

theorem writeSpan_eq_iff (cells : UInt16 → UInt8) (base : UInt16) (first second : Nat → UInt8)
    {count : Nat} (bound : count ≤ 65536) :
    writeSpan cells base first count = writeSpan cells base second count ↔
      ∀ index < count, first index = second index := by
  constructor
  · intro same index inside
    have cell := congrFun same (base + UInt16.ofNat index)
    rw [writeSpan_inside _ _ _ bound inside, writeSpan_inside _ _ _ bound inside] at cell
    exact cell
  · intro agree
    funext address
    unfold writeSpan
    split
    · rename_i inside
      exact agree _ inside
    · rfl

theorem at24cxxWriteFrom_simulates (source : Nat → UInt8) :
    ∀ left address index, left ≤ 65536 →
      Simulates storageView (at24cxxWriteFrom left address index source)
        (Storage.writeBlock address (fun offset => source (index + offset)) left) := by
  intro left
  induction left with
  | zero =>
      intro address index _ bus
      simp [at24cxxWriteFrom, Storage.writeBlock]
  | succ left ih =>
      intro address index bound
      have step := (at24cxxWriteOneByte_simulates address (source index)).bind
        (fun _ => ih (address + 1) (index + 1) (by omega))
      intro bus
      have ends := step bus
      have spans := writeSpan_succ (storageView bus).eeprom address
        (fun offset => source (index + offset)) (by omega : left < 65536)
      simp only [Nat.add_zero, ← Nat.add_assoc] at spans
      simpa [at24cxxWriteFrom, Storage.writeBlock, Storage.writeByte, Nat.add_right_comm, spans]
        using ends

theorem at24cxxWrite_simulates (address : UInt16) (source : Nat → UInt8) (count : UInt16) :
    Simulates storageView (at24cxxWrite address source count)
      (Storage.writeBlock address source count.toNat) := by
  have bound := count.toNat_lt
  simpa [at24cxxWrite] using
    at24cxxWriteFrom_simulates source count.toNat address 0 (by omega)

theorem at24cxxReadFrom_simulates :
    ∀ left address offset buffer,
      Simulates storageView (at24cxxReadFrom left address offset buffer)
        (Storage.readBlock address buffer offset left) := by
  intro left
  induction left with
  | zero =>
      intro address offset buffer bus
      simp [at24cxxReadFrom, Storage.readBlock, Buffer.copy]
  | succ left ih =>
      intro address offset buffer
      have step := (at24cxxReadOneByte_simulates address).bind
        (fun value => ih (address + 1) (offset + 1) (Function.update buffer offset value))
      intro bus
      have ends := step bus
      have next (index : Nat) : address + 1 + UInt16.ofNat index =
          address + UInt16.ofNat (index + 1) := by
        rw [UInt16.ofNat_add, UInt16.add_comm (UInt16.ofNat index), UInt16.add_assoc]
        rfl
      have first : address + UInt16.ofNat 0 = address := UInt16.add_zero address
      refine ⟨ends.1.trans ?_, ends.2⟩
      change Buffer.copy
          (Function.update buffer offset ((storageView bus).eeprom address)) (offset + 1)
          (fun index => (storageView bus).eeprom (address + 1 + UInt16.ofNat index)) left =
        Buffer.copy buffer offset
          (fun index => (storageView bus).eeprom (address + UInt16.ofNat index)) (left + 1)
      rw [← Buffer.copy_first]
      simp only [next, first]

theorem at24cxxRead_simulates (address : UInt16) (buffer : Nat → UInt8) (count : UInt16) :
    Simulates storageView (at24cxxRead address buffer count)
      (Storage.readBlock address buffer 0 count.toNat) :=
  at24cxxReadFrom_simulates count.toNat address 0 buffer

theorem rtcUnlocked_update (registers : UInt8 → UInt8) {register : UInt8} (value : UInt8)
    (notFirst : register ≠ ctr1) (notSecond : register ≠ ctr2) :
    rtcUnlocked (Function.update registers register value) = rtcUnlocked registers := by
  simp [rtcUnlocked, notFirst.symm, notSecond.symm]

theorem rtcChip_store_unlocked {registers : UInt8 → UInt8} (register value : UInt8)
    (unlocked : rtcUnlocked registers = true) :
    rtcChip.store registers register value = Function.update registers register value := by
  simp [Layout.store, rtcChip, unlocked]

theorem rtcChip_store_locked {registers : UInt8 → UInt8} {register : UInt8} (value : UInt8)
    (notFirst : register ≠ ctr1) (notSecond : register ≠ ctr2)
    (locked : rtcUnlocked registers = false) :
    rtcChip.store registers register value = registers := by
  simp [Layout.store, rtcChip, notFirst, notSecond, locked]

@[simp] theorem rtcChip_shiftIn (pointer byte : UInt8) : rtcChip.shiftIn pointer byte = byte := rfl

@[simp] theorem rtcChip_next (pointer : UInt8) : rtcChip.next pointer = pointer + 1 := rfl

/-- Every clock register is stored or every one is dropped: the lock bits are not among them. -/
theorem rtcWriteDate_simulates (time : TimeDef) :
    Simulates storageView (rtcWriteDate time) (Storage.setClock time) := by
  rintro ⟨⟨eeprom, rtc⟩, nak⟩
  have ends : (rtcWriteDate time).run ⟨(eeprom, rtc), nak⟩ =
      pure (true, ⟨({ eeprom with phase := .idle }, ⟨rtcChip.store (rtcChip.store (rtcChip.store
        (rtcChip.store (rtcChip.store (rtcChip.store (rtcChip.store rtc.cells 0 time.second)
        1 time.minute) 2 (time.hour ||| 0x80)) 3 time.week) 4 time.day) 5 time.month) 6 time.year,
        7, .idle⟩), false⟩) := by
    simp -implicitDefEqProofs [rtcWriteDate]
  rw [ends]
  cases unlocked : rtcUnlocked rtc.cells with
  | true =>
      simp (disch := first | decide | simp (disch := decide) only [rtcUnlocked_update, unlocked])
        only [rtcChip_store_unlocked]
      simp [Storage.setClock, storageView, clockRegisters, unlocked]
  | false =>
      simp (disch := first | decide | exact unlocked) only [rtcChip_store_locked]
      simp [Storage.setClock, storageView, unlocked]

theorem rtcReadDate_simulates (time : TimeDef) :
    Simulates storageView (rtcReadDate time) Storage.readClock := by
  rintro ⟨⟨eeprom, rtc⟩, nak⟩
  simp -implicitDefEqProofs [rtcReadDate, Storage.readClock, storageView, clockTime]

theorem saveTime_simulates (time : TimeDef) :
    Simulates storageView (saveTime time) (Storage.saveTime time) :=
  at24cxxWrite_simulates 0 (savedTime time) 7

theorem readTime_simulates : Simulates storageView readTime Storage.readTime := by
  unfold readTime Storage.readTime
  exact (at24cxxRead_simulates 0 (fun _ => 0) 7).bind fun bytes => .pure (restoredTime bytes)

theorem exrtcSaveTurn_simulates (sysTime : TimeDef) :
    Simulates storageView (exrtcSaveTurn sysTime) Storage.saveClock := by
  unfold exrtcSaveTurn Storage.saveClock
  refine (rtcReadDate_simulates sysTime).bind ?_
  rintro ⟨time, _⟩
  refine (saveTime_simulates time).bind fun _ => ?_
  exact readTime_simulates.bind fun readBack => .pure (time, readBack)

theorem saveClock_state (storage : Storage) :
    (Storage.saveClock.run storage).2 = { storage with
      eeprom := writeSpan storage.eeprom 0 (savedTime (clockTime storage.rtc)) 7 } := rfl

end SmartMeter
