import SmartMeter.Drivers.MeterCore
import SmartMeter.Library.StateSimulation
import SmartMeter.Uart.ResponseRecovery

/-!
What the calibration loop reads and when it ends. The receiver sees nothing of the task but
its delays, so the readings are those of the chip's answers alone.
-/

namespace SmartMeter

open StateSimulation

def MeterTask.uartAfter (task : MeterTask) : Nat → Uart1
  | 0 => task.uart
  | delays + 1 => (task.arrivals delays).foldl uart1IrqHandler (task.uartAfter delays)

/-- The program makes this many delays and leaves the receiver alone otherwise. -/
def Waits {α : Type} (delays : Nat) (program : StateM MeterTask α) : Prop :=
  ∀ task : MeterTask, (program.run task).2.uart = task.uartAfter delays ∧
    ∀ index, (program.run task).2.arrivals index = task.arrivals (index + delays)

theorem uartAfter_add {first second : MeterTask} {delays : Nat}
    (uart : second.uart = first.uartAfter delays)
    (arrivals : ∀ index, second.arrivals index = first.arrivals (index + delays)) (more : Nat) :
    second.uartAfter more = first.uartAfter (delays + more) := by
  induction more with
  | zero => exact uart
  | succ more ih =>
      rw [MeterTask.uartAfter, ih, arrivals, Nat.add_comm more]
      rfl

section Waits

variable {α β : Type}

theorem waits_pure (value : α) : Waits 0 (pure value : StateM MeterTask α) :=
  fun _ => ⟨rfl, fun _ => rfl⟩

theorem Waits.bind {first : StateM MeterTask α} {second : α → StateM MeterTask β}
    {early late : Nat} (one : Waits early first) (two : ∀ value, Waits late (second value)) :
    Waits (early + late) (first >>= second) := by
  intro task
  obtain ⟨uart, arrivals⟩ := one task
  obtain ⟨uart', arrivals'⟩ := two (first.run task).1 (first.run task).2
  rw [run_bind]
  refine ⟨?_, ?_⟩
  · rw [uart', uartAfter_add uart arrivals]
  · intro index
    rw [arrivals', arrivals, Nat.add_assoc, Nat.add_comm late]

theorem waits_delay (ticks : Nat) : Waits 1 (tlsOsTimeDelay ticks) :=
  fun _ => ⟨rfl, fun _ => rfl⟩

theorem waits_onI2c (program : StateM (I2cController (Eeprom × Rtc)) α) :
    Waits 0 (MeterTask.onI2c program) :=
  fun _ => ⟨rfl, fun _ => rfl⟩

theorem waits_writeV9261fReg (addr : UInt16) (data : UInt32) : Waits 2 (writeV9261fReg addr data) :=
  fun _ => ⟨rfl, fun _ => rfl⟩

theorem waits_writeAll (writes : List (UInt16 × UInt32)) : Waits (2 * writes.length) (writeAll writes) := by
  induction writes with
  | nil => exact waits_pure ()
  | cons write rest ih =>
      have both : Waits (2 + 2 * rest.length) (writeAll (write :: rest)) :=
        (waits_writeV9261fReg write.1 write.2).bind fun _ => ih
      rwa [List.length_cons, Nat.mul_add, Nat.add_comm]

theorem waits_setCalibPara (loaded : CalibPara) :
    Waits 0 (modify fun task : MeterTask => { task with calibPara := loaded }) :=
  fun _ => ⟨rfl, fun _ => rfl⟩

theorem waits_meterControlRegParaInit : Waits 14 meterControlRegParaInit := by
  have size : 14 = 2 * controlRegWrites.length := rfl
  rw [size]
  exact waits_writeAll controlRegWrites

theorem waits_meterErrorRegParaInit : Waits 12 meterErrorRegParaInit := by
  have all : Waits (0 + (0 + 12)) meterErrorRegParaInit := by
    unfold meterErrorRegParaInit
    exact (waits_onI2c _).bind fun _ => (waits_setCalibPara _).bind fun _ => waits_writeAll _
  exact all

theorem waits_meterInit : Waits 28 meterInit := by
  have all : Waits (14 + (12 + (2 + 0))) meterInit := by
    unfold meterInit
    exact waits_meterControlRegParaInit.bind fun _ => waits_meterErrorRegParaInit.bind fun _ =>
      (waits_writeV9261fReg _ _).bind fun _ => waits_pure _
  exact all

theorem waits_startMeter : Waits 29 startMeter := by
  have all : Waits (1 + 28) startMeter := by
    unfold startMeter
    exact (waits_delay 1).bind fun _ => waits_meterInit
  exact all

theorem waits_recalibrate : Waits 29 recalibrate := by
  have all : Waits (28 + 1) recalibrate := by
    unfold recalibrate
    exact waits_meterInit.bind fun _ => waits_delay 50
  exact all

theorem waits_calibrate (addr : UInt16) (scale : UInt32) (para : CalibPara → UInt32) (cell : UInt16)
    (standardValue : UInt8) : Waits 1 (calibrate addr scale para cell standardValue) :=
  fun _ => ⟨rfl, fun _ => rfl⟩

end Waits

theorem joined_bytes (word : UInt32) :
    joined (word >>> 24).toUInt8 (word >>> 16).toUInt8 (word >>> 8).toUInt8 word.toUInt8 = word := by
  have bound := word.toNat_lt
  apply UInt32.toNat_inj.mp
  simp only [joined, UInt32.toNat_add, UInt32.toNat_shiftLeft, UInt8.toNat_toUInt32,
    UInt32.toNat_toUInt8, UInt32.toNat_shiftRight, UInt32.reduceToNat, Nat.shiftRight_eq_div_pow,
    Nat.shiftLeft_eq, Nat.reduceMod, Nat.reducePow]
  omega

theorem floatOfU32_zero : floatOfU32 0 = 0 := rfl

theorem floatOfU32_pos {value : UInt32} (some : value ≠ 0) : 1 ≤ floatOfU32 value := by
  have positive : value.toNat ≠ 0 := fun zero => some (UInt32.toNat_inj.mp zero)
  have top : 2 ^ value.toNat.log2 ≤ value.toNat := Nat.log2_self_le positive
  have small : 2 ^ (value.toNat.log2 + 1 - 24) ≤ 2 ^ value.toNat.log2 :=
    Nat.pow_le_pow_right (by omega) (by omega)
  have unit : 0 < 2 ^ (value.toNat.log2 + 1 - 24) := Nat.two_pow_pos _
  have below : 1 ≤ value.toNat / 2 ^ (value.toNat.log2 + 1 - 24) :=
    (Nat.one_le_div_iff unit).mpr (Nat.le_trans small top)
  unfold floatOfU32
  dsimp only
  split
  · exact Nat.mul_pos below unit
  · exact Nat.mul_pos (Nat.succ_pos _) unit

/-- The quotient is an integer before it becomes a float. -/
theorem belowOnePercent_iff (value : UInt32) :
    belowOnePercent (floatOfU32 value) = true ↔ value = 0 := by
  constructor
  · intro below
    by_contra some
    have large := floatOfU32_pos some
    have less : floatOfU32 value * 2 ^ 59 < 5764607523034235 := of_decide_eq_true below
    omega
  · rintro rfl
    simp [belowOnePercent, floatOfU32_zero]

theorem quotient_eq_zero_iff {standard value : UInt32} (some : standard ≠ 0) :
    (standard - value) / standard = 0 ↔ 0 < value.toNat ∧ value.toNat ≤ standard.toNat := by
  have positive : standard.toNat ≠ 0 := fun zero => some (UInt32.toNat_inj.mp zero)
  have first := standard.toNat_lt
  have second := value.toNat_lt
  rw [← UInt32.toNat_inj, UInt32.toNat_div, UInt32.toNat_sub]
  change _ / _ = 0 ↔ _
  rw [Nat.div_eq_zero_iff]
  omega

theorem calibrate_eq_zero_iff (addr : UInt16) (scale : UInt32) (para : CalibPara → UInt32)
    (cell : UInt16) (standardValue : UInt8) (some : standardValue.toUInt32 * scale ≠ 0)
    (task : MeterTask) :
    ((calibrate addr scale para cell standardValue).run task).1 = 0 ↔
      0 < (registerData (task.uartAfter 1).readRegBackBuf).toNat ∧
        (registerData (task.uartAfter 1).readRegBackBuf).toNat ≤
          (standardValue.toUInt32 * scale).toNat := by
  rw [← quotient_eq_zero_iff some, ← belowOnePercent_iff]
  change (if belowOnePercent _ then (0 : UInt8) else 1) = 0 ↔ _
  split
  · exact iff_of_true rfl (by assumption)
  · exact iff_of_false (by decide) (by assumption)

def nominalReading : Nat := 220 * 2093372

/-- The reading of the loop's call `count`, each of these coming 30 delays after the one before. -/
def MeterTask.reading (task : MeterTask) (count : Nat) : Nat :=
  (registerData (task.uartAfter (30 * (count + 1))).readRegBackBuf).toNat

def Accepted (reading : Nat) : Prop :=
  0 < reading ∧ reading ≤ nominalReading

/-- The task when the loop calls `CalibVoltage`, all calls before having been refused. -/
def MeterTask.attempt (task : MeterTask) : Nat → MeterTask
  | 0 => (startMeter.run task).2
  | count + 1 => (recalibrate.run ((calibVoltage 220).run (task.attempt count)).2).2

theorem attempt_waits (task : MeterTask) (count : Nat) :
    (task.attempt count).uart = task.uartAfter (30 * count + 29) ∧
      ∀ index, (task.attempt count).arrivals index = task.arrivals (index + (30 * count + 29)) := by
  induction count with
  | zero =>
      rw [MeterTask.attempt]
      exact waits_startMeter task
  | succ count ih =>
      have turn : Waits (1 + 29) (calibVoltage 220 >>= fun _ => recalibrate) :=
        (waits_calibrate _ _ _ _ _).bind fun _ => waits_recalibrate
      obtain ⟨uart, arrivals⟩ := turn (task.attempt count)
      rw [run_bind] at uart arrivals
      rw [MeterTask.attempt]
      refine ⟨?_, ?_⟩
      · have size : 30 * (count + 1) + 29 = 30 * count + 29 + (1 + 29) := by omega
        rw [size, ← uartAfter_add ih.1 ih.2]
        exact uart
      · intro index
        have size : index + (30 * (count + 1) + 29) = index + (1 + 29) + (30 * count + 29) := by omega
        rw [size, ← ih.2]
        exact arrivals index

theorem attempt_reading (task : MeterTask) (count : Nat) :
    (registerData ((task.attempt count).uartAfter 1).readRegBackBuf).toNat = task.reading count := by
  obtain ⟨uart, arrivals⟩ := attempt_waits task count
  have size : 30 * (count + 1) = 30 * count + 29 + 1 := by omega
  rw [uartAfter_add uart arrivals, MeterTask.reading, size]

theorem calibVoltage_eq_zero_iff (task : MeterTask) (count : Nat) :
    ((calibVoltage 220).run (task.attempt count)).1 = 0 ↔ Accepted (task.reading count) := by
  rw [← attempt_reading]
  exact calibrate_eq_zero_iff _ _ _ _ 220 (by decide) _

theorem calibrationLoop_eq_some_iff (task final : MeterTask) (fuel start : Nat) :
    calibrationLoop fuel (task.attempt start) = some final ↔
      ∃ count, start ≤ count ∧ count < start + fuel ∧ Accepted (task.reading count) ∧
        (∀ earlier, start ≤ earlier → earlier < count → ¬Accepted (task.reading earlier)) ∧
        final = ((calibVoltage 220).run (task.attempt count)).2 := by
  induction fuel generalizing start with
  | zero =>
      refine iff_of_false nofun ?_
      rintro ⟨count, lower, upper, _⟩
      omega
  | succ fuel ih =>
      rw [calibrationLoop]
      by_cases accepted : Accepted (task.reading start)
      · rw [if_pos ((calibVoltage_eq_zero_iff task start).mpr accepted)]
        constructor
        · intro ends
          exact ⟨start, Nat.le_refl _, by omega, accepted, fun _ _ _ => by omega,
            (Option.some.inj ends).symm⟩
        · rintro ⟨count, lower, _, _, first, rfl⟩
          by_cases same : start = count
          · rw [same]
          · exact absurd accepted (first start (Nat.le_refl _) (by omega))
      · rw [if_neg (mt (calibVoltage_eq_zero_iff task start).mp accepted)]
        refine (ih (start + 1)).trans ?_
        constructor
        · rintro ⟨count, lower, upper, holds, first, ends⟩
          refine ⟨count, by omega, by omega, holds, fun earlier lower' before => ?_, ends⟩
          by_cases same : earlier = start
          · rw [same]
            exact accepted
          · exact first earlier (by omega) before
        · rintro ⟨count, lower, upper, holds, first, ends⟩
          have other : start ≠ count := fun same => accepted (same ▸ holds)
          exact ⟨count, by omega, by omega, holds, fun earlier _ before => first earlier (by omega) before,
            ends⟩

structure FirstAccepted (task : MeterTask) (count : Nat) : Prop where
  accepted : Accepted (task.reading count)
  refused : ∀ earlier < count, ¬Accepted (task.reading earlier)

theorem uart1TaskCalibration_ends_iff (task final : MeterTask) :
    (∃ fuel, uart1TaskCalibration fuel task = some final) ↔
      ∃ count, FirstAccepted task count ∧
        final = ((calibVoltage 220).run (task.attempt count)).2 := by
  constructor
  · rintro ⟨fuel, ends⟩
    obtain ⟨count, _, _, accepted, refused, last⟩ :=
      (calibrationLoop_eq_some_iff task final fuel 0).mp ends
    exact ⟨count, ⟨accepted, fun earlier before => refused earlier (Nat.zero_le _) before⟩, last⟩
  · rintro ⟨count, ⟨accepted, refused⟩, last⟩
    exact ⟨count + 1, (calibrationLoop_eq_some_iff task final (count + 1) 0).mpr
      ⟨count, Nat.zero_le _, by omega, accepted, fun earlier _ before => refused earlier before, last⟩⟩

def blankTask : MeterTask where
  i2c := ⟨⟨⟨fun _ => 0, 0, .idle⟩, ⟨fun _ => 0, 0, .idle⟩⟩, false⟩
  uart := uart1Init blankRing fun _ => 0
  writeRegBuf := fun _ => 0
  readRegBuf := fun _ => 0
  calibPara := ⟨0, 0, 0, 0, 0, 0, 0⟩
  registers := fun _ => 0
  sent := []
  arrivals := fun _ => []

def silentTask (reading : UInt32) : MeterTask :=
  { blankTask with
    uart := uart1Init blankRing fun index => (0xFE :: 0x11 :: 0x01 :: littleEndian reading).getD index 0 }

theorem uartAfter_of_silence {task : MeterTask} (silence : ∀ index, task.arrivals index = [])
    (delays : Nat) : task.uartAfter delays = task.uart := by
  induction delays with
  | zero => rfl
  | succ delays ih => rw [MeterTask.uartAfter, ih, silence, List.foldl_nil]

theorem silentTask_reading (reading : UInt32) (count : Nat) :
    (silentTask reading).reading count = reading.toNat := by
  rw [MeterTask.reading, uartAfter_of_silence fun _ => rfl]
  exact congrArg UInt32.toNat (joined_bytes reading)

theorem silentTask_firstAccepted {reading : UInt32} (accepted : Accepted reading.toNat) :
    FirstAccepted (silentTask reading) 0 := by
  refine ⟨?_, fun earlier before => absurd before (Nat.not_lt_zero earlier)⟩
  rw [silentTask_reading]
  exact accepted

end SmartMeter
