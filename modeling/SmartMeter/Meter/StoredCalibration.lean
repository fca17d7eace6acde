import SmartMeter.Meter.Correction

/-!
The corrections in the EEPROM over whole calibration sessions: what `CalibVoltage` and
`CalibCurrent` store there, and what the next `MeterErrorRegPara_init` finds.
-/

namespace SmartMeter

open StateSimulation

inductive Channel
  | voltage
  | current
deriving Repr, DecidableEq

namespace Channel

def resultRegister : Channel → UInt16
  | voltage => aartu
  | current => aarti

def scale : Channel → UInt32
  | voltage => 2093372
  | current => 55840000

def para : Channel → CalibPara → UInt32
  | voltage => CalibPara.wartuPara
  | current => CalibPara.wartiPara

def cell : Channel → UInt16
  | voltage => 0x14
  | current => 0x10

def calib : Channel → UInt8 → StateM MeterTask UInt8
  | voltage => calibVoltage
  | current => calibCurrent

def start : Channel → Nat
  | voltage => 4
  | current => 0

def setPara (channel : Channel) (calibPara : CalibPara) (word : UInt32) : CalibPara :=
  match channel with
  | voltage => { calibPara with wartuPara := word }
  | current => { calibPara with wartiPara := word }

theorem calib_eq (channel : Channel) (standard : UInt8) :
    channel.calib standard =
      calibrate channel.resultRegister channel.scale channel.para channel.cell standard := by
  cases channel <;> rfl

theorem cell_eq (channel : Channel) : channel.cell = 0x10 + UInt16.ofNat channel.start := by
  cases channel <;> rfl

end Channel

def errRam (channel : Channel) (standard : UInt8) (task : MeterTask) : UInt32 :=
  standard.toUInt32 * channel.scale - registerData (task.uartAfter 1).readRegBackBuf +
    channel.para task.calibPara

def calibrations : List (Channel × UInt8) → StateM MeterTask Unit
  | [] => pure ()
  | (channel, standard) :: rest => do
      let _ ← channel.calib standard
      calibrations rest

def errRams : List (Channel × UInt8) → MeterTask → List (Channel × UInt32)
  | [], _ => []
  | (channel, standard) :: rest, task =>
      (channel, errRam channel standard task) ::
        errRams rest ((channel.calib standard).run task).2

def lastOf (channel : Channel) (words : List (Channel × UInt32)) : Option UInt32 :=
  ((words.filter fun word => word.1 = channel).map Prod.snd).getLast?

def storedPara (task : MeterTask) : CalibPara :=
  calibParaOf fun index => (storageView task.i2c).eeprom (0x10 + UInt16.ofNat index)

section Cells

variable (cells : UInt16 → UInt8) (word : UInt32)

def rewritten (start : Nat) (index : Nat) : UInt8 :=
  writeSpan cells (0x10 + UInt16.ofNat start) (fun offset => (bigEndian word).getD offset 0) 4
    (0x10 + UInt16.ofNat index)

theorem block_address {index : Nat} (inside : index < 28) :
    (0x10 + UInt16.ofNat index).toNat = 16 + index := by
  rw [UInt16.toNat_add, UInt16.toNat_ofNat']
  have base : (0x10 : UInt16).toNat = 16 := rfl
  omega

theorem rewritten_inside {start offset : Nat} (fits : start + 4 ≤ 28) (inside : offset < 4) :
    rewritten cells word start (start + offset) = (bigEndian word).getD offset 0 := by
  have at_start := @block_address start (by omega)
  have at_byte := @block_address (start + offset) (by omega)
  unfold rewritten
  rw [writeSpan_apply _ _ _ _ (by omega), at_start, at_byte, if_pos (by omega)]
  congr 1
  omega

theorem rewritten_outside {start index : Nat} (fits : start + 4 ≤ 28) (inside : index < 28)
    (outside : index < start ∨ start + 4 ≤ index) :
    rewritten cells word start index = cells (0x10 + UInt16.ofNat index) := by
  have at_start := @block_address start (by omega)
  have at_byte := block_address inside
  exact writeSpan_outside _ _ _ (by omega) (by omega)

theorem parameterAt_rewritten {start : Nat} (fits : start + 4 ≤ 28) :
    parameterAt (rewritten cells word start) start = word := by
  have first := @rewritten_inside cells word start 0 fits (by omega)
  rw [Nat.add_zero] at first
  unfold parameterAt
  rw [first, rewritten_inside cells word fits (by omega), rewritten_inside cells word fits (by omega),
    rewritten_inside cells word fits (by omega)]
  exact joined_bytes word

theorem parameterAt_apart {start other : Nat} (fits : start + 4 ≤ 28) (inside : other + 4 ≤ 28)
    (apart : other + 4 ≤ start ∨ start + 4 ≤ other) :
    parameterAt (rewritten cells word start) other =
      parameterAt (fun index => cells (0x10 + UInt16.ofNat index)) other := by
  unfold parameterAt
  rw [rewritten_outside cells word fits (by omega) (by omega),
    rewritten_outside cells word fits (by omega) (by omega),
    rewritten_outside cells word fits (by omega) (by omega),
    rewritten_outside cells word fits (by omega) (by omega)]

/-- A store changes its own parameter and no other. -/
theorem calibParaOf_rewritten (channel : Channel) :
    calibParaOf (rewritten cells word channel.start) =
      channel.setPara (calibParaOf fun index => cells (0x10 + UInt16.ofNat index)) word := by
  cases channel with
  | voltage =>
      simp (disch := omega) only [calibParaOf, Channel.start, Channel.setPara,
        parameterAt_rewritten, parameterAt_apart]
  | current =>
      simp (disch := omega) only [calibParaOf, Channel.start, Channel.setPara,
        parameterAt_rewritten, parameterAt_apart]

end Cells

theorem calib_i2c (channel : Channel) (standard : UInt8) (task : MeterTask) :
    ((channel.calib standard).run task).2.i2c =
      ((at24cxxWrite channel.cell (fun index =>
        (bigEndian (errRam channel standard task)).getD index 0) 4).run task.i2c).2 := by
  obtain ⟨i2c, calibPara, uart⟩ := sendReadRequest_rest task channel.resultRegister
  generalize reads : ((sendReadRequest channel.resultRegister).run task).2 = read at i2c calibPara uart
  have state := calibrate_state channel.resultRegister channel.scale channel.para channel.cell
    standard reads
  rw [i2c, calibPara, uart] at state
  rw [Channel.calib_eq, state]
  rfl

/-- The EEPROM after a call, cell by cell. -/
theorem calib_eeprom (channel : Channel) (standard : UInt8) (task : MeterTask) (index : Nat) :
    (storageView ((channel.calib standard).run task).2.i2c).eeprom (0x10 + UInt16.ofNat index) =
      rewritten (storageView task.i2c).eeprom (errRam channel standard task) channel.start index := by
  obtain ⟨_, written⟩ := at24cxxWrite_simulates channel.cell
    (fun index => (bigEndian (errRam channel standard task)).getD index 0) 4 task.i2c
  rw [calib_i2c, written, Channel.cell_eq]
  rfl

theorem calib_storedPara (channel : Channel) (standard : UInt8) (task : MeterTask) :
    storedPara ((channel.calib standard).run task).2 =
      channel.setPara (storedPara task) (errRam channel standard task) := by
  unfold storedPara
  simp only [calib_eeprom]
  exact calibParaOf_rewritten (storageView task.i2c).eeprom (errRam channel standard task) channel

/-- The abstract EEPROM: a record that each store updates. -/
def store (calibPara : CalibPara) (word : Channel × UInt32) : CalibPara :=
  word.1.setPara calibPara word.2

theorem calibrations_storedPara (calls : List (Channel × UInt8)) (task : MeterTask) :
    storedPara ((calibrations calls).run task).2 = (errRams calls task).foldl store (storedPara task) := by
  induction calls generalizing task with
  | nil => rfl
  | cons call rest ih =>
      obtain ⟨channel, standard⟩ := call
      rw [calibrations, run_bind, ih, calib_storedPara]
      rfl

theorem lastOf_cons (channel : Channel) (word : Channel × UInt32) (rest : List (Channel × UInt32)) :
    lastOf channel (word :: rest) =
      (lastOf channel rest).or (if word.1 = channel then some word.2 else none) := by
  unfold lastOf
  by_cases same : word.1 = channel
  · simp [same, List.getLast?_cons]
  · simp [same]

theorem foldl_store (words : List (Channel × UInt32)) (calibPara : CalibPara) :
    words.foldl store calibPara = { calibPara with
      wartuPara := (lastOf .voltage words).getD calibPara.wartuPara
      wartiPara := (lastOf .current words).getD calibPara.wartiPara } := by
  induction words generalizing calibPara with
  | nil => rfl
  | cons word rest ih =>
      obtain ⟨channel, data⟩ := word
      rw [List.foldl_cons, ih, lastOf_cons, lastOf_cons]
      cases channel with
      | voltage => cases lastOf .voltage rest <;> simp [store, Channel.setPara]
      | current => cases lastOf .current rest <;> simp [store, Channel.setPara]

theorem meterErrorRegParaInit_calibPara (task : MeterTask) :
    (meterErrorRegParaInit.run task).2.calibPara = storedPara task := by
  obtain ⟨value, _⟩ := at24cxxRead_simulates 0x10 (fun _ => 0) 28 task.i2c
  have bytes : ((Storage.readBlock 0x10 (fun _ => 0) 0 28).run (storageView task.i2c)).1 =
      Buffer.copy (fun _ => 0) 0
        (fun index => (storageView task.i2c).eeprom (0x10 + UInt16.ofNat index)) 28 := rfl
  generalize reads : (at24cxxRead 0x10 (fun _ => 0) 28).run task.i2c = answer at value
  rw [meterErrorRegParaInit_state task reads]
  obtain ⟨_, _, calibPara⟩ := writeAll_effect
    { task with i2c := answer.2, calibPara := calibParaOf answer.1 }
    (errorRegWrites_addressable (calibParaOf answer.1))
  have block : answer.1 = Buffer.copy (fun _ => 0) 0
      (fun index => (storageView task.i2c).eeprom (0x10 + UInt16.ofNat index)) 28 := value.trans bytes
  rw [calibPara, block]
  unfold storedPara calibParaOf parameterAt
  simp only [Buffer.copy_apply]
  rfl

/-- What a session stored last for each channel is what the next start works with. -/
theorem calibrations_survive (calls : List (Channel × UInt8)) (task : MeterTask) :
    (meterErrorRegParaInit.run ((calibrations calls).run task).2).2.calibPara =
        { storedPara task with
          wartuPara := (lastOf .voltage (errRams calls task)).getD (storedPara task).wartuPara
          wartiPara := (lastOf .current (errRams calls task)).getD (storedPara task).wartiPara } ∧
      ∀ word : UInt32, parameterAt (fun index => (bigEndian word).getD index 0) 0 = word := by
  refine ⟨?_, joined_bytes⟩
  rw [meterErrorRegParaInit_calibPara, calibrations_storedPara, foldl_store]

end SmartMeter
