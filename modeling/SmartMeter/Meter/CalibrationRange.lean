import SmartMeter.Meter.StoredCalibration

/-!
The arithmetic of `CalibVoltage` and `CalibCurrent` by the rules of C. A byte is promoted to
`int`, whose operations have no value when the result does not fit; those on `u32` are modular.
The compiled code of `calibrate` wraps in both cases.
-/

namespace SmartMeter

open StateSimulation

def FitsInt (value : Int) : Prop :=
  -0x80000000 ≤ value ∧ value ≤ 0x7FFFFFFF

instance (value : Int) : Decidable (FitsInt value) :=
  inferInstanceAs (Decidable (_ ∧ _))

/-- The result of an operation on `int`. -/
def intResult (value : Int) : Option Int :=
  if FitsInt value then some value else none

def toU32 (value : Int) : UInt32 :=
  UInt32.ofNat (value % 0x100000000).toNat

def toS32 (word : UInt32) : Int :=
  if word.toNat ≤ 0x7FFFFFFF then word.toNat else word.toNat - 0x100000000

/-- `(u32)((byte & 0x000000ff) << bits)`, the place value being that of the shift. -/
def checkedPlace (byte : UInt8) (place : Int) : Option UInt32 :=
  (intResult (byte.toNat * place)).map toU32

def checkedReading (buf : Nat → UInt8) : Option UInt32 := do
  let b3 ← checkedPlace (buf 6) 0x1000000
  let b2 ← checkedPlace (buf 5) 0x10000
  let b1 ← checkedPlace (buf 4) 0x100
  let b0 ← checkedPlace (buf 3) 1
  return b3 + b2 + b1 + b0

def checkedStandard (channel : Channel) (standard : UInt8) : Option UInt32 :=
  (intResult (standard.toNat * channel.scale.toNat)).map toU32

def checkedErrRam (channel : Channel) (standard : UInt8) (task : MeterTask) : Option UInt32 := do
  let value ← checkedReading (task.uartAfter 1).readRegBackBuf
  let standard ← checkedStandard channel standard
  let err := toS32 (standard - value)
  let errRam ← intResult (err + toS32 (channel.para task.calibPara))
  return toU32 errRam

def nextReading (task : MeterTask) : UInt32 :=
  registerData (task.uartAfter 1).readRegBackBuf

def correctionValue (channel : Channel) (standard : UInt8) (task : MeterTask) : Int :=
  standard.toNat * channel.scale.toNat - (nextReading task).toNat + toS32 (channel.para task.calibPara)

def twosComplement (value : Int) : List UInt8 :=
  [0x1000000, 0x10000, 0x100, 1].map fun place => UInt8.ofNat (value / place % 256).toNat

structure CalibratesExactly (channel : Channel) (standard : UInt8) (task : MeterTask) : Prop where
  product : ∃ product, checkedStandard channel standard = some product ∧
    product.toNat = standard.toNat * channel.scale.toNat
  noOverflow : checkedErrRam channel standard task = some (errRam channel standard task)
  stored : ∀ index < 4, (storageView ((channel.calib standard).run task).2.i2c).eeprom
      (channel.cell + UInt16.ofNat index) =
    (twosComplement (correctionValue channel standard task)).getD index 0

theorem toU32_toNat (value : Int) : ((toU32 value).toNat : Int) = value % 0x100000000 := by
  have bound : (value % 0x100000000).toNat < 4294967296 := by omega
  rw [toU32, UInt32.toNat_ofNat_of_lt' bound]
  omega

theorem toS32_mod (word : UInt32) : toS32 word % 0x100000000 = word.toNat := by
  have bound := word.toNat_lt
  unfold toS32
  split <;> omega

theorem toS32_eq {word : UInt32} {value : Int} (fits : FitsInt value)
    (same : (word.toNat : Int) = value % 0x100000000) : toS32 word = value := by
  unfold FitsInt at fits
  unfold toS32
  split <;> omega

theorem bigEndian_eq_twosComplement {word : UInt32} {value : Int}
    (same : (word.toNat : Int) = value % 0x100000000) : bigEndian word = twosComplement value := by
  have bound := word.toNat_lt
  have byte (shifted : UInt8) (place : Int) (low : (shifted.toNat : Int) = value / place % 256) :
      shifted = UInt8.ofNat (value / place % 256).toNat := by
    apply UInt8.toNat_inj.mp
    rw [UInt8.toNat_ofNat']
    omega
  have first := byte (word >>> 24).toUInt8 0x1000000
  have second := byte (word >>> 16).toUInt8 0x10000
  have third := byte (word >>> 8).toUInt8 0x100
  have fourth := byte word.toUInt8 1
  simp only [UInt32.toNat_toUInt8, UInt32.toNat_shiftRight, UInt32.reduceToNat,
    Nat.shiftRight_eq_div_pow, Nat.reduceMod, Nat.reducePow] at first second third fourth
  unfold bigEndian twosComplement
  rw [first (by omega), second (by omega), third (by omega), fourth (by omega)]
  rfl


theorem joined_toNat (b3 b2 b1 b0 : UInt8) : (joined b3 b2 b1 b0).toNat =
    b3.toNat * 0x1000000 + b2.toNat * 0x10000 + b1.toNat * 0x100 + b0.toNat := by
  have top := b3.toNat_lt
  have high := b2.toNat_lt
  have low := b1.toNat_lt
  have bottom := b0.toNat_lt
  simp only [joined, UInt32.toNat_add, UInt32.toNat_shiftLeft, UInt8.toNat_toUInt32,
    UInt32.reduceToNat, Nat.shiftLeft_eq, Nat.reduceMod, Nat.reducePow]
  omega

theorem checkedPlace_eq {byte : UInt8} {place : Int} {shifted : UInt32}
    (fits : FitsInt (byte.toNat * place)) (same : (shifted.toNat : Int) = byte.toNat * place) :
    checkedPlace byte place = some shifted := by
  unfold checkedPlace intResult
  rw [if_pos fits, Option.map_some, Option.some_inj]
  apply UInt32.toNat_inj.mp
  have result := toU32_toNat (byte.toNat * place)
  have bound := shifted.toNat_lt
  omega

theorem shifted_toNat (byte : UInt8) (bits : UInt32) (factor : Nat)
    (place : 1 <<< (bits.toNat % 32) = factor) (fits : byte.toNat * factor < 4294967296) :
    (byte.toUInt32 <<< bits).toNat = byte.toNat * factor := by
  subst place
  rw [Nat.one_shiftLeft] at fits ⊢
  rw [UInt32.toNat_shiftLeft, UInt8.toNat_toUInt32, Nat.shiftLeft_eq]
  exact Nat.mod_eq_of_lt fits

theorem checkedReading_eq {buf : Nat → UInt8} (low : (registerData buf).toNat ≤ 0x7FFFFFFF) :
    checkedReading buf = some (registerData buf) := by
  have value := joined_toNat (buf 6) (buf 5) (buf 4) (buf 3)
  unfold registerData at low
  have bounds := And.intro (buf 6).toNat_lt (And.intro (buf 5).toNat_lt (buf 4).toNat_lt)
  have bottom := (buf 3).toNat_lt
  have b3 : checkedPlace (buf 6) 0x1000000 = some ((buf 6).toUInt32 <<< 24) := by
    refine checkedPlace_eq ⟨by omega, by omega⟩ ?_
    rw [shifted_toNat (buf 6) 24 0x1000000 rfl (by omega), Int.natCast_mul]
    rfl
  have b2 : checkedPlace (buf 5) 0x10000 = some ((buf 5).toUInt32 <<< 16) := by
    refine checkedPlace_eq ⟨by omega, by omega⟩ ?_
    rw [shifted_toNat (buf 5) 16 0x10000 rfl (by omega), Int.natCast_mul]
    rfl
  have b1 : checkedPlace (buf 4) 0x100 = some ((buf 4).toUInt32 <<< 8) := by
    refine checkedPlace_eq ⟨by omega, by omega⟩ ?_
    rw [shifted_toNat (buf 4) 8 0x100 rfl (by omega), Int.natCast_mul]
    rfl
  have b0 : checkedPlace (buf 3) 1 = some (buf 3).toUInt32 := by
    refine checkedPlace_eq ⟨by omega, by omega⟩ ?_
    rw [UInt8.toNat_toUInt32, Int.mul_one]
  unfold checkedReading
  rw [b3, b2, b1, b0]
  rfl

section Call

variable {channel : Channel} {standard : UInt8} {task : MeterTask}

theorem product_fits_iff :
    FitsInt (standard.toNat * channel.scale.toNat) ↔
      (channel = .current → standard.toNat ≤ 38) := by
  have bound := standard.toNat_lt
  cases channel with
  | voltage =>
      have scale : Channel.voltage.scale.toNat = 2093372 := rfl
      rw [scale]
      unfold FitsInt
      simp only [reduceCtorEq, false_implies, iff_true]
      omega
  | current =>
      have scale : Channel.current.scale.toNat = 55840000 := rfl
      rw [scale]
      unfold FitsInt
      simp only [true_implies]
      omega

/-- Wrapped or not, the word that is stored is the value modulo 2^32. -/
theorem errRam_mod (channel : Channel) (standard : UInt8) (task : MeterTask) :
    ((errRam channel standard task).toNat : Int) =
      correctionValue channel standard task % 0x100000000 := by
  have para := toS32_mod (channel.para task.calibPara)
  have reading := (nextReading task).toNat_lt
  unfold correctionValue errRam
  change ((standard.toUInt32 * channel.scale - nextReading task +
    channel.para task.calibPara).toNat : Int) = _
  rw [UInt32.toNat_add, UInt32.toNat_sub, UInt32.toNat_mul, UInt8.toNat_toUInt32]
  rw [← Int.natCast_mul]
  generalize standard.toNat * channel.scale.toNat = product
  omega

theorem calib_stored (channel : Channel) (standard : UInt8) (task : MeterTask) {index : Nat}
    (inside : index < 4) :
    (storageView ((channel.calib standard).run task).2.i2c).eeprom
        (channel.cell + UInt16.ofNat index) =
      (twosComplement (correctionValue channel standard task)).getD index 0 := by
  have fits : channel.start + 4 ≤ 28 := by cases channel <;> decide
  have address : channel.cell + UInt16.ofNat index =
      0x10 + UInt16.ofNat (channel.start + index) := by
    rw [Channel.cell_eq, UInt16.add_assoc, UInt16.ofNat_add]
  rw [address, calib_eeprom, rewritten_inside _ _ fits inside,
    bigEndian_eq_twosComplement (errRam_mod channel standard task)]

theorem checkedStandard_eq (fits : FitsInt (standard.toNat * channel.scale.toNat)) :
    checkedStandard channel standard = some (standard.toUInt32 * channel.scale) ∧
      (standard.toUInt32 * channel.scale).toNat = standard.toNat * channel.scale.toNat := by
  have exact_product : (standard.toUInt32 * channel.scale).toNat =
      standard.toNat * channel.scale.toNat := by
    unfold FitsInt at fits
    rw [UInt32.toNat_mul, UInt8.toNat_toUInt32, Nat.mod_eq_of_lt (by omega)]
  refine ⟨?_, exact_product⟩
  unfold checkedStandard intResult
  rw [if_pos fits, Option.map_some, Option.some_inj]
  apply UInt32.toNat_inj.mp
  have result := toU32_toNat (standard.toNat * channel.scale.toNat)
  unfold FitsInt at fits
  omega

theorem checkedErrRam_eq (low : (nextReading task).toNat ≤ 0x7FFFFFFF)
    (product : FitsInt (standard.toNat * channel.scale.toNat))
    (fits : FitsInt (correctionValue channel standard task)) :
    checkedErrRam channel standard task = some (errRam channel standard task) := by
  obtain ⟨computed, exact_product⟩ := checkedStandard_eq product
  have err : toS32 (standard.toUInt32 * channel.scale - nextReading task) =
      standard.toNat * channel.scale.toNat - (nextReading task).toNat := by
    unfold FitsInt at product
    refine toS32_eq ⟨by omega, by omega⟩ ?_
    rw [UInt32.toNat_sub, exact_product]
    omega
  unfold checkedErrRam
  rw [checkedReading_eq low, computed]
  simp only [Option.bind_eq_bind, Option.bind_some]
  change (intResult (toS32 (standard.toUInt32 * channel.scale - nextReading task) +
    toS32 (channel.para task.calibPara))).bind (fun errRam => some (toU32 errRam)) = _
  unfold correctionValue at fits
  rw [err, intResult, if_pos fits, Option.bind_some, Option.some_inj]
  apply UInt32.toNat_inj.mp
  have word := errRam_mod channel standard task
  have result := toU32_toNat (correctionValue channel standard task)
  unfold correctionValue at result word
  omega

/-- The bytes are right for every product, the product itself only within `int`. -/
theorem calibratesExactly_iff (low : (nextReading task).toNat < 0x80000000)
    (fits : FitsInt (correctionValue channel standard task)) :
    CalibratesExactly channel standard task ↔ (channel = .current → standard.toNat ≤ 38) := by
  rw [← product_fits_iff]
  constructor
  · rintro ⟨⟨product, computed, _⟩, _, _⟩
    by_cases fit : FitsInt (standard.toNat * channel.scale.toNat)
    · exact fit
    · rw [checkedStandard, intResult, if_neg fit] at computed
      cases computed
  · intro product
    obtain ⟨computed, exact_product⟩ := checkedStandard_eq product
    exact ⟨⟨_, computed, exact_product⟩, checkedErrRam_eq (by omega) product fits,
      fun _ inside => calib_stored channel standard task inside⟩

end Call

theorem calibratesExactly_iff_voltage :
    CalibratesExactly .voltage 220 (silentTask 460000000) ↔
      (Channel.voltage = .current → (220 : UInt8).toNat ≤ 38) :=
  calibratesExactly_iff (by decide) (by decide)

/-- 39 units of current are 2177760000, more than an `int` holds. -/
theorem current39_not_calibratesExactly :
    (39 : UInt8) ≠ 0 ∧ (nextReading (silentTask 100000000)).toNat < 0x80000000 ∧
      FitsInt (correctionValue .current 39 (silentTask 100000000)) ∧
      ¬CalibratesExactly .current 39 (silentTask 100000000) := by
  refine ⟨by decide, by decide, by decide, ?_⟩
  rintro ⟨⟨product, computed, _⟩, _, _⟩
  have overflow : checkedStandard .current 39 = none := by decide
  rw [overflow] at computed
  cases computed

end SmartMeter
