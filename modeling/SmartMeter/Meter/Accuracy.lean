import SmartMeter.Meter.CalibrationLoop

/-!
What a calibration result says about the reading. `err/standardvoltage` divides before the
conversion to `float`, and the signed difference counts as a large unsigned number when the
reading is above the standard.
-/

namespace SmartMeter

def WithinOnePercent (standard reading : Nat) : Prop :=
  100 * ((standard : Int) - reading).natAbs < standard

def JudgesAccuracy (result : UInt8) (standard reading : Nat) : Prop :=
  result = 0 ↔ WithinOnePercent standard reading

/-- The reading is zero, or at most the standard value and less than one percent below it, or
above it and at least one percent away; the standard value that the code computes wraps at
32 bits. -/
def AccuracyFits (standard reading : Nat) : Prop :=
  reading = 0 ∨
    reading ≤ standard % 2 ^ 32 ∧ 100 * (standard - reading) < standard ∨
    standard % 2 ^ 32 < reading ∧ standard ≤ 100 * ((standard : Int) - reading).natAbs

def measured (addr : UInt16) (task : MeterTask) : Nat :=
  (registerData ((readV9261fReg addr).run task).1).toNat

/-- When the task leaves the loop the reading is within one percent of the nominal value. -/
def LeavesAccurate (task : MeterTask) : Prop :=
  ∀ fuel final, uart1TaskCalibration fuel task = some final →
    WithinOnePercent nominalReading (registerData final.uart.readRegBackBuf).toNat

theorem judges_iff {standard reading : Nat} {result : UInt8} (some : 0 < standard)
    (accepts : result = 0 ↔ 0 < reading ∧ reading ≤ standard % 2 ^ 32) :
    JudgesAccuracy result standard reading ↔ AccuracyFits standard reading := by
  unfold JudgesAccuracy AccuracyFits WithinOnePercent
  rw [accepts]
  have wraps : standard % 2 ^ 32 ≤ standard := Nat.mod_le _ _
  generalize standard % 2 ^ 32 = computed at *
  omega

theorem calibrate_judges_iff (addr : UInt16) {scale : UInt32} (para : CalibPara → UInt32)
    (cell : UInt16) {standardValue : UInt8} {units : Nat} (same : scale.toNat = units)
    (some : 0 < standardValue.toNat * units) (wrapped : standardValue.toNat * units % 2 ^ 32 ≠ 0)
    (task : MeterTask) :
    JudgesAccuracy ((calibrate addr scale para cell standardValue).run task).1
        (standardValue.toNat * units) (measured addr task) ↔
      AccuracyFits (standardValue.toNat * units) (measured addr task) := by
  have value : (standardValue.toUInt32 * scale).toNat = standardValue.toNat * units % 2 ^ 32 := by
    rw [UInt32.toNat_mul, UInt8.toNat_toUInt32, same]
  have standard : standardValue.toUInt32 * scale ≠ 0 := by
    intro zero
    rw [zero] at value
    exact wrapped value.symm
  refine judges_iff some ?_
  rw [← value]
  exact calibrate_eq_zero_iff addr scale para cell standardValue standard task

theorem leavesAccurate_iff (task : MeterTask) :
    LeavesAccurate task ↔
      ∀ count, FirstAccepted task count → 100 * (nominalReading - task.reading count) < nominalReading := by
  have last (count : Nat) : (registerData
      ((calibVoltage 220).run (task.attempt count)).2.uart.readRegBackBuf).toNat = task.reading count :=
    attempt_reading task count
  have percent (count : Nat) (accepted : Accepted (task.reading count)) :
      WithinOnePercent nominalReading (task.reading count) ↔
        100 * (nominalReading - task.reading count) < nominalReading := by
    obtain ⟨_, upper⟩ := accepted
    unfold WithinOnePercent
    omega
  constructor
  · intro accurate count first
    obtain ⟨fuel, ends⟩ := (uart1TaskCalibration_ends_iff task _).mpr ⟨count, first, rfl⟩
    have within := accurate fuel _ ends
    rw [last] at within
    exact (percent count first.accepted).mp within
  · intro close fuel final ends
    obtain ⟨count, first, rfl⟩ := (uart1TaskCalibration_ends_iff task final).mp ⟨fuel, ends⟩
    rw [last]
    exact (percent count first.accepted).mpr (close count first)

theorem voltageStandard_ne_zero :
    ∀ standard : Fin 256, standard.val ≠ 0 → standard.val * 2093372 % 2 ^ 32 ≠ 0 := by
  decide +kernel

theorem currentStandard_ne_zero :
    ∀ standard : Fin 256, standard.val ≠ 0 → standard.val * 55840000 % 2 ^ 32 ≠ 0 := by
  decide +kernel

/-- Readings up to 100 percent too low are accepted and readings slightly too high are not. -/
theorem calibration_accurate_iff (standardValue : UInt8) (some : standardValue ≠ 0)
    (task : MeterTask) :
    (JudgesAccuracy ((calibVoltage standardValue).run task).1 (standardValue.toNat * 2093372)
        (measured aartu task) ↔
      AccuracyFits (standardValue.toNat * 2093372) (measured aartu task)) ∧
    (JudgesAccuracy ((calibCurrent standardValue).run task).1 (standardValue.toNat * 55840000)
        (measured aarti task) ↔
      AccuracyFits (standardValue.toNat * 55840000) (measured aarti task)) ∧
    (LeavesAccurate task ↔ ∀ count, FirstAccepted task count →
      100 * (nominalReading - task.reading count) < nominalReading) := by
  have positive : standardValue.toNat ≠ 0 := fun zero => some (UInt8.toNat_inj.mp zero)
  have small := standardValue.toNat_lt
  have voltsFit := voltageStandard_ne_zero ⟨standardValue.toNat, small⟩ positive
  have amperesFit := currentStandard_ne_zero ⟨standardValue.toNat, small⟩ positive
  refine ⟨?_, ?_, leavesAccurate_iff task⟩
  · unfold calibVoltage
    have units : (2093372 : UInt32).toNat = 2093372 := rfl
    have some : 0 < standardValue.toNat * 2093372 :=
      Nat.mul_pos (Nat.pos_of_ne_zero positive) (by decide)
    exact calibrate_judges_iff aartu CalibPara.wartuPara 0x14 units some voltsFit task
  · unfold calibCurrent
    have units : (55840000 : UInt32).toNat = 55840000 := rfl
    have some : 0 < standardValue.toNat * 55840000 :=
      Nat.mul_pos (Nat.pos_of_ne_zero positive) (by decide)
    exact calibrate_judges_iff aarti CalibPara.wartiPara 0x10 units some amperesFit task

theorem calibration_accurate_iff_blank :
    (220 : UInt8) ≠ 0 ∧
      JudgesAccuracy ((calibVoltage 220).run blankTask).1 (220 * 2093372) (measured aartu blankTask) :=
  ⟨by decide, (calibration_accurate_iff 220 (by decide) blankTask).1.mpr (.inl rfl)⟩

theorem lowReading_not_judgesAccuracy :
    measured aartu (silentTask 1) = 1 ∧
      ¬JudgesAccuracy ((calibVoltage 220).run (silentTask 1)).1 (220 * 2093372)
        (measured aartu (silentTask 1)) := by
  have reading : measured aartu (silentTask 1) = 1 := rfl
  have result : ((calibVoltage 220).run (silentTask 1)).1 = 0 :=
    (calibrate_eq_zero_iff aartu 2093372 CalibPara.wartuPara 0x14 220 (by decide) (silentTask 1)).mpr
      (by decide)
  refine ⟨reading, ?_⟩
  rw [reading, result]
  intro judges
  have within : WithinOnePercent (220 * 2093372) 1 := judges.mp rfl
  exact absurd within (by unfold WithinOnePercent; omega)

end SmartMeter
