import SmartMeter.Drivers.Storage
import SmartMeter.Meter.CalibrationLoop

/-!
The voltage correction in its three places: the EEPROM, `calib_para` and the chip's register
`WARTU`. `Meter_init` brings it from the first to the other two, `CalibVoltage` writes the
first.
-/

namespace SmartMeter

open StateSimulation

def storedCorrection (storage : Storage) : UInt32 :=
  joined (storage.eeprom 0x14) (storage.eeprom 0x15) (storage.eeprom 0x16) (storage.eeprom 0x17)

structure Correction where
  stored : UInt32
  loaded : UInt32
  active : UInt32
deriving Repr, DecidableEq

def MeterTask.correction (task : MeterTask) : Correction where
  stored := storedCorrection (storageView task.i2c)
  loaded := task.calibPara.wartuPara
  active := task.registers wartu

structure CorrectionAgrees (final : MeterTask) : Prop where
  active : final.correction.active = final.correction.stored
  loaded : final.correction.loaded = final.correction.stored
  reboot : ∀ boot : MeterTask, boot.i2c = final.i2c →
    (startMeter.run boot).2.correction.active = final.correction.active

def LeavesAgreeing (task : MeterTask) : Prop :=
  ∀ fuel final, uart1TaskCalibration fuel task = some final → CorrectionAgrees final

/-- The address that the chip finds in a request is the one that was to be sent, and a read
request is none to write. -/
def Addressable (addr : UInt16) : Prop :=
  (((addr &&& 0x0F00) >>> 4).toUInt8 + racWrite) &&& 0x0F = racWrite ∧
    ((((addr &&& 0x0F00) >>> 4).toUInt8 + racWrite) &&& 0xF0).toUInt16 <<< 4 +
      (addr &&& 0x00FF).toUInt8.toUInt16 = addr ∧
    (((addr &&& 0x0F00) >>> 4).toUInt8 + racRead) &&& 0x0F ≠ racWrite

instance (addr : UInt16) : Decidable (Addressable addr) :=
  inferInstanceAs (Decidable (_ ∧ _))

theorem chipReceive_write {addr : UInt16} (known : Addressable addr) (data : UInt32)
    (registers : UInt16 → UInt32) :
    chipReceive registers (requestBuf addr racWrite (littleEndian data)) =
      Function.update registers addr data := by
  obtain ⟨write, place, _⟩ := known
  have value : registerData (requestBuf addr racWrite (littleEndian data)) = data := joined_bytes data
  unfold chipReceive
  rw [if_pos ⟨rfl, write, rfl⟩, value]
  exact congrArg (fun address => Function.update registers address data) place

theorem chipReceive_read {addr : UInt16} (known : Addressable addr)
    (registers : UInt16 → UInt32) :
    chipReceive registers (requestBuf addr racRead [0x01, 0x00, 0x00, 0x00]) = registers :=
  if_neg fun frame => known.2.2 frame.2.1

section Effects

variable (task : MeterTask)

theorem sendReadRequest_registers {addr : UInt16} (known : Addressable addr) :
    ((sendReadRequest addr).run task).2.registers = task.registers :=
  chipReceive_read known task.registers

theorem sendReadRequest_rest (addr : UInt16) :
    ((sendReadRequest addr).run task).2.i2c = task.i2c ∧
      ((sendReadRequest addr).run task).2.calibPara = task.calibPara ∧
      ((sendReadRequest addr).run task).2.uart = task.uartAfter 1 :=
  ⟨rfl, rfl, rfl⟩

theorem writeV9261fReg_state (addr : UInt16) (data : UInt32) :
    ((writeV9261fReg addr data).run task).2 =
      ((sendReadRequest addr).run ((sendWriteRequest addr data).run task).2).2 := by
  rw [writeV9261fReg, run_bind, run_bind]
  rfl

theorem writeV9261fReg_registers {addr : UInt16} (known : Addressable addr) (data : UInt32) :
    ((writeV9261fReg addr data).run task).2.registers = Function.update task.registers addr data := by
  rw [writeV9261fReg_state, sendReadRequest_registers _ known]
  exact chipReceive_write known data task.registers

theorem writeV9261fReg_rest (addr : UInt16) (data : UInt32) :
    ((writeV9261fReg addr data).run task).2.i2c = task.i2c ∧
      ((writeV9261fReg addr data).run task).2.calibPara = task.calibPara :=
  ⟨rfl, rfl⟩

def writtenRegisters (registers : UInt16 → UInt32) (writes : List (UInt16 × UInt32)) :
    UInt16 → UInt32 :=
  writes.foldl (fun registers write => Function.update registers write.1 write.2) registers

theorem writeAll_effect {writes : List (UInt16 × UInt32)} (known : ∀ write ∈ writes, Addressable write.1) :
    ((writeAll writes).run task).2.registers = writtenRegisters task.registers writes ∧
      ((writeAll writes).run task).2.i2c = task.i2c ∧
      ((writeAll writes).run task).2.calibPara = task.calibPara := by
  induction writes generalizing task with
  | nil => exact ⟨rfl, rfl, rfl⟩
  | cons write rest ih =>
      obtain ⟨addr, data⟩ := write
      obtain ⟨registers, i2c, calibPara⟩ := ih ((writeV9261fReg addr data).run task).2
        fun other inside => known other (List.mem_cons_of_mem _ inside)
      rw [writeV9261fReg_registers task (known (addr, data) List.mem_cons_self)] at registers
      obtain ⟨sameI2c, samePara⟩ := writeV9261fReg_rest task addr data
      rw [writeAll, run_bind]
      exact ⟨registers, i2c.trans sameI2c, calibPara.trans samePara⟩

theorem onI2c_run {α : Type} (program : StateM (I2cController (Eeprom × Rtc)) α) :
    (MeterTask.onI2c program).run task =
      pure ((program.run task.i2c).1, { task with i2c := (program.run task.i2c).2 }) := rfl

theorem readParameters (i2c : I2cController (Eeprom × Rtc)) :
    parameterAt ((at24cxxRead 0x10 (fun _ => 0) 28).run i2c).1 4 = storedCorrection (storageView i2c) ∧
      storageView ((at24cxxRead 0x10 (fun _ => 0) 28).run i2c).2 = storageView i2c := by
  obtain ⟨value, state⟩ := at24cxxRead_simulates 0x10 (fun _ => 0) 28 i2c
  refine ⟨?_, ?_⟩
  · have bytes : ((Storage.readBlock 0x10 (fun _ => 0) 0 28).run (storageView i2c)).1 =
        Buffer.copy (fun _ => 0) 0 (fun index => (storageView i2c).eeprom (0x10 + UInt16.ofNat index)) 28 :=
      rfl
    rw [value]
    refine (congrArg (parameterAt · 4) bytes).trans ?_
    simp only [parameterAt, Buffer.copy_apply]
    rfl
  · rw [state]
    rfl

theorem writtenRegisters_wartu (registers : UInt16 → UInt32) (calibPara : CalibPara) :
    writtenRegisters registers (errorRegWrites calibPara) wartu = calibPara.wartuPara := by
  have apart : wartu ≠ wapt ∧ wartu ≠ wwapt ∧ wartu ≠ egyth ∧ wartu ≠ cth := by decide
  obtain ⟨first, second, third, fourth⟩ := apart
  simp [writtenRegisters, errorRegWrites, Function.update_of_ne, first, second, third, fourth]

theorem errorRegWrites_addressable (calibPara : CalibPara) :
    ∀ write ∈ errorRegWrites calibPara, Addressable write.1 := by
  have known : ∀ addr ∈ [warti, wartu, wapt, wwapt, egyth, cth], Addressable addr := by
    simp only [List.forall_mem_cons]
    exact ⟨by decide, by decide, by decide, by decide, by decide, by decide, List.forall_mem_nil _⟩
  intro write inside
  exact known write.1 (List.mem_map_of_mem inside)

theorem meterErrorRegParaInit_state {answer : (Nat → UInt8) × I2cController (Eeprom × Rtc)}
    (reads : (at24cxxRead 0x10 (fun _ => 0) 28).run task.i2c = answer) :
    (meterErrorRegParaInit.run task).2 = ((writeAll (errorRegWrites (calibParaOf answer.1))).run
      { task with i2c := answer.2, calibPara := calibParaOf answer.1 }).2 := by
  unfold meterErrorRegParaInit
  rw [run_bind, run_bind, onI2c_run, reads]
  rfl

theorem meterErrorRegParaInit_correction :
    (meterErrorRegParaInit.run task).2.correction =
      ⟨task.correction.stored, task.correction.stored, task.correction.stored⟩ := by
  obtain ⟨parameter, storage⟩ := readParameters task.i2c
  generalize reads : (at24cxxRead 0x10 (fun _ => 0) 28).run task.i2c = answer at parameter storage
  rw [meterErrorRegParaInit_state task reads]
  obtain ⟨registers, i2c, calibPara⟩ := writeAll_effect
    { task with i2c := answer.2, calibPara := calibParaOf answer.1 }
    (errorRegWrites_addressable (calibParaOf answer.1))
  unfold MeterTask.correction
  rw [registers, i2c, calibPara, writtenRegisters_wartu, storage]
  have loaded : (calibParaOf answer.1).wartuPara = storedCorrection (storageView task.i2c) := parameter
  rw [loaded]

theorem controlRegWrites_addressable : ∀ write ∈ controlRegWrites, Addressable write.1 := by
  have known : ∀ addr ∈ [analogControlReg0Add, analogControlReg1Add, analogControlReg2Add,
      meterControlReg1Add, meterControlReg0Add, systemConfigRegAdd, bpfPara], Addressable addr := by
    simp only [List.forall_mem_cons]
    exact ⟨by decide, by decide, by decide, by decide, by decide, by decide, by decide,
      List.forall_mem_nil _⟩
  intro write inside
  exact known write.1 (List.mem_map_of_mem inside)

theorem meterControlRegParaInit_stored :
    storageView (meterControlRegParaInit.run task).2.i2c = storageView task.i2c := by
  obtain ⟨_, i2c, _⟩ := writeAll_effect task controlRegWrites_addressable
  rw [meterControlRegParaInit, i2c]

/-- `Meter_init` loads what the EEPROM holds and hands it to the chip. -/
theorem meterInit_correction :
    (meterInit.run task).2.correction =
      ⟨task.correction.stored, task.correction.stored, task.correction.stored⟩ := by
  have known : Addressable meterControlReg0Add := by decide
  have other : wartu ≠ meterControlReg0Add := by decide
  have before := meterErrorRegParaInit_correction (meterControlRegParaInit.run task).2
  have stored : (meterControlRegParaInit.run task).2.correction.stored = task.correction.stored :=
    congrArg storedCorrection (meterControlRegParaInit_stored task)
  rw [stored] at before
  generalize last : (meterErrorRegParaInit.run (meterControlRegParaInit.run task).2).2 = middle at before
  have ends : (meterInit.run task).2 = ((writeV9261fReg meterControlReg0Add 0xEC000080).run middle).2 := by
    rw [← last, meterInit, run_bind, run_bind, run_bind, StateT.run_pure, pure_state]
  obtain ⟨i2c, calibPara⟩ := writeV9261fReg_rest middle meterControlReg0Add 0xEC000080
  rw [ends, ← before]
  unfold MeterTask.correction
  rw [writeV9261fReg_registers middle known, i2c, calibPara, Function.update_of_ne other]

theorem storedCorrection_write (i2c : I2cController (Eeprom × Rtc)) (word : UInt32) :
    storedCorrection (storageView
      ((at24cxxWrite 0x14 (fun index => (bigEndian word).getD index 0) 4).run i2c).2) = word := by
  obtain ⟨_, state⟩ := at24cxxWrite_simulates 0x14 (fun index => (bigEndian word).getD index 0) 4 i2c
  have cell (index : Nat) (inside : index < 4) := writeSpan_inside (storageView i2c).eeprom 0x14
    (fun index => (bigEndian word).getD index 0) (by omega : 4 ≤ 65536) inside
  rw [state]
  change joined (writeSpan _ 0x14 _ 4 (0x14 + UInt16.ofNat 0)) (writeSpan _ 0x14 _ 4 (0x14 + UInt16.ofNat 1))
    (writeSpan _ 0x14 _ 4 (0x14 + UInt16.ofNat 2)) (writeSpan _ 0x14 _ 4 (0x14 + UInt16.ofNat 3)) = word
  rw [cell 0 (by omega), cell 1 (by omega), cell 2 (by omega), cell 3 (by omega)]
  exact joined_bytes word

theorem calibrate_state (addr : UInt16) (scale : UInt32) (para : CalibPara → UInt32) (cell : UInt16)
    (standardValue : UInt8) {task read : MeterTask} (reads : ((sendReadRequest addr).run task).2 = read) :
    ((calibrate addr scale para cell standardValue).run task).2 =
      { read with i2c := ((at24cxxWrite cell (fun index => (bigEndian (standardValue.toUInt32 * scale -
        registerData read.uart.readRegBackBuf + para read.calibPara)).getD index 0) 4).run read.i2c).2 } := by
  subst reads
  rw [calibrate, readV9261fReg, run_bind, run_bind]
  rfl

/-- `CalibVoltage` stores a new correction, whatever it returns. -/
theorem calibVoltage_correction :
    ((calibVoltage 220).run task).2.correction =
      ⟨(220 : UInt8).toUInt32 * 2093372 - registerData (task.uartAfter 1).readRegBackBuf +
          task.correction.loaded, task.correction.loaded, task.correction.active⟩ := by
  have known : Addressable aartu := by decide
  have registers := sendReadRequest_registers task known
  obtain ⟨i2c, calibPara, uart⟩ := sendReadRequest_rest task aartu
  generalize reads : ((sendReadRequest aartu).run task).2 = read at registers i2c calibPara uart
  have state := calibrate_state aartu 2093372 CalibPara.wartuPara 0x14 220 reads
  have stored := storedCorrection_write task.i2c ((220 : UInt8).toUInt32 * 2093372 -
    registerData (task.uartAfter 1).readRegBackBuf + task.calibPara.wartuPara)
  rw [i2c, calibPara, uart] at state
  unfold calibVoltage MeterTask.correction
  rw [state]
  simp only [stored, registers]

end Effects

theorem delay_correction (task : MeterTask) (ticks : Nat) :
    ((tlsOsTimeDelay ticks).run task).2.correction = task.correction := rfl

theorem startMeter_correction (task : MeterTask) :
    (startMeter.run task).2.correction =
      ⟨task.correction.stored, task.correction.stored, task.correction.stored⟩ := by
  rw [startMeter, run_bind, meterInit_correction, delay_correction]

theorem recalibrate_correction (task : MeterTask) :
    (recalibrate.run task).2.correction =
      ⟨task.correction.stored, task.correction.stored, task.correction.stored⟩ := by
  rw [recalibrate, run_bind, delay_correction, meterInit_correction]

theorem attempt_correction (task : MeterTask) (count : Nat) :
    ∃ correction, (task.attempt count).correction = ⟨correction, correction, correction⟩ := by
  cases count with
  | zero =>
      rw [MeterTask.attempt, startMeter_correction]
      exact ⟨_, rfl⟩
  | succ count =>
      rw [MeterTask.attempt, recalibrate_correction]
      exact ⟨_, rfl⟩

theorem nominal_iff (reading correction : UInt32) :
    (220 : UInt8).toUInt32 * 2093372 - reading + correction = correction ↔
      reading.toNat = nominalReading := by
  have nominal : ((220 : UInt8).toUInt32 * 2093372).toNat = nominalReading := rfl
  rw [← nominal, UInt32.toNat_inj]
  generalize (220 : UInt8).toUInt32 * 2093372 = standard
  have bounds := And.intro standard.toNat_lt (And.intro reading.toNat_lt correction.toNat_lt)
  rw [← UInt32.toNat_inj, ← UInt32.toNat_inj, UInt32.toNat_add, UInt32.toNat_sub]
  omega

theorem correctionAgrees_iff (task : MeterTask) (count : Nat) :
    CorrectionAgrees ((calibVoltage 220).run (task.attempt count)).2 ↔
      task.reading count = nominalReading := by
  obtain ⟨correction, before⟩ := attempt_correction task count
  have after := calibVoltage_correction (task.attempt count)
  rw [before] at after
  rw [← attempt_reading, ← nominal_iff _ correction]
  constructor
  · rintro ⟨active, _, _⟩
    rw [after] at active
    exact active.symm
  · intro same
    rw [same] at after
    refine ⟨?_, ?_, ?_⟩
    · rw [after]
    · rw [after]
    · intro boot storage
      have cells : boot.correction.stored =
          ((calibVoltage 220).run (task.attempt count)).2.correction.stored := by
        unfold MeterTask.correction
        rw [storage]
      rw [startMeter_correction, cells, after]

/-- The accepting call stores a correction that nothing uses before the next start, and that
is another one unless the reading was exactly nominal. -/
theorem calibration_leavesAgreeing_iff (task : MeterTask) :
    LeavesAgreeing task ↔
      ∀ count, FirstAccepted task count → task.reading count = nominalReading := by
  constructor
  · intro agrees count first
    obtain ⟨fuel, ends⟩ := (uart1TaskCalibration_ends_iff task _).mpr ⟨count, first, rfl⟩
    exact (correctionAgrees_iff task count).mp (agrees fuel _ ends)
  · intro nominal fuel final ends
    obtain ⟨count, first, rfl⟩ := (uart1TaskCalibration_ends_iff task final).mp ⟨fuel, ends⟩
    exact (correctionAgrees_iff task count).mpr (nominal count first)

/-- A reading about one in a thousand too low. -/
theorem closeReading_not_leavesAgreeing : ¬LeavesAgreeing (silentTask 460000000) := by
  have accepted : Accepted (460000000 : UInt32).toNat := ⟨by decide, by decide⟩
  intro agrees
  obtain ⟨fuel, ends⟩ := (uart1TaskCalibration_ends_iff (silentTask 460000000) _).mpr
    ⟨0, silentTask_firstAccepted accepted, rfl⟩
  have nominal := (correctionAgrees_iff (silentTask 460000000) 0).mp (agrees fuel _ ends)
  rw [silentTask_reading] at nominal
  exact absurd nominal (by decide)

end SmartMeter
