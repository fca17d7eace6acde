import Mathlib.Algebra.GroupWithZero.Nat
import SmartMeter.Drivers.ExrtcCore
import SmartMeter.Drivers.Uart1Core

/-!
`wm_meter.c` and the calibration loop of `Uart1TaskProc`. The task talks to the metering chip
over UART1 and keeps its parameters in the EEPROM. Whatever the receiver gets comes in during
the task's delays; the chip takes every frame the task sends.
-/

namespace SmartMeter

open I2cBus

def aap : UInt16 := 0x0119
def aartu : UInt16 := 0x011B
def aarti : UInt16 := 0x011C
def bpfPara : UInt16 := 0x0125
def warti : UInt16 := 0x012C
def wapt : UInt16 := 0x012E
def wwapt : UInt16 := 0x012F
def wartu : UInt16 := 0x0132
def systemConfigRegAdd : UInt16 := 0x0180
def egyth : UInt16 := 0x0181
def cth : UInt16 := 0x0182
def meterControlReg0Add : UInt16 := 0x0183
def meterControlReg1Add : UInt16 := 0x0184
def analogControlReg0Add : UInt16 := 0x0185
def analogControlReg1Add : UInt16 := 0x0186
def analogControlReg2Add : UInt16 := 0x0187

def racWrite : UInt8 := 0x02
def racRead : UInt8 := 0x01

/-- The `s32` fields as bit patterns: they are only added and sent. -/
structure CalibPara where
  wartiPara : UInt32
  wartuPara : UInt32
  waptPara : UInt32
  wwaptPara : UInt32
  egythPara : UInt32
  cthPara : UInt32
  wartmPara : UInt32
deriving Repr, DecidableEq

/-- `arrivals` are the receive interrupts of the delays to come, `registers` what the chip
holds of the registers written to it, `sent` what was given to the transmitter of UART1. -/
structure MeterTask where
  i2c : I2cController (Eeprom × Rtc)
  uart : Uart1
  writeRegBuf : Nat → UInt8
  readRegBuf : Nat → UInt8
  calibPara : CalibPara
  registers : UInt16 → UInt32
  sent : List (List UInt8)
  arrivals : Nat → List RxInterrupt

def MeterTask.onI2c {α : Type} (program : StateM (I2cController (Eeprom × Rtc)) α) :
    StateM MeterTask α := do
  let answer := program.run (← get).i2c
  modify fun task => { task with i2c := answer.2 }
  return answer.1

def requestBuf (addr : UInt16) (rac : UInt8) (data : List UInt8) (index : Nat) : UInt8 :=
  let bytes : List UInt8 :=
    0xFE :: (((addr &&& 0x0F00) >>> 4).toUInt8 + rac) :: (addr &&& 0x00FF).toUInt8 :: data
  let check := ~~~Buffer.byteSum (fun index => bytes.getD index 0) 7 + 0x33
  (bytes ++ [check]).getD index 0

def littleEndian (data : UInt32) : List UInt8 :=
  [data.toUInt8, (data >>> 8).toUInt8, (data >>> 16).toUInt8, (data >>> 24).toUInt8]

def bigEndian (data : UInt32) : List UInt8 :=
  [(data >>> 24).toUInt8, (data >>> 16).toUInt8, (data >>> 8).toUInt8, data.toUInt8]

/-- The four bytes put together, the first one on top. -/
def joined (b3 b2 b1 b0 : UInt8) : UInt32 :=
  b3.toUInt32 <<< 24 + b2.toUInt32 <<< 16 + b1.toUInt32 <<< 8 + b0.toUInt32

def registerData (buf : Nat → UInt8) : UInt32 :=
  joined (buf 6) (buf 5) (buf 4) (buf 3)

/-- What the chip does with a frame: a write request with a correct check byte is carried out. -/
def chipReceive (registers : UInt16 → UInt32) (buf : Nat → UInt8) : UInt16 → UInt32 :=
  if buf 0 = 0xFE ∧ buf 1 &&& 0x0F = racWrite ∧ buf 7 = ~~~Buffer.byteSum buf 7 + 0x33 then
    Function.update registers ((buf 1 &&& 0xF0).toUInt16 <<< 4 + (buf 2).toUInt16) (registerData buf)
  else registers

def tlsUartWrite (buf : Nat → UInt8) (writesize : Nat) : StateM MeterTask Unit :=
  modify fun task =>
    { task with
      registers := chipReceive task.registers buf
      sent := task.sent ++ [Buffer.toList buf writesize] }

def tlsOsTimeDelay (_ticks : Nat) : StateM MeterTask Unit :=
  modify fun task =>
    { task with
      uart := (task.arrivals 0).foldl uart1IrqHandler task.uart
      arrivals := fun index => task.arrivals (index + 1) }

def checkRegDataWrited (regData readRegBackBuf : Nat → UInt8) : UInt8 :=
  let err := [3, 4, 5, 6].foldl
    (fun (err : UInt8) index => if regData index = readRegBackBuf index then err + 0 else err + 1) 0
  if err > 0 then 1 else 0

def sendWriteRequest (addr : UInt16) (data : UInt32) : StateM MeterTask Unit := do
  modify fun task => { task with writeRegBuf := requestBuf addr racWrite (littleEndian data) }
  tlsUartWrite (← get).writeRegBuf 8
  tlsOsTimeDelay 20

/-- The code that `WriteV9261fReg` and `ReadV9261fReg` share. -/
def sendReadRequest (addr : UInt16) : StateM MeterTask Unit := do
  modify fun task => { task with readRegBuf := requestBuf addr racRead [0x01, 0x00, 0x00, 0x00] }
  tlsUartWrite (← get).readRegBuf 8
  tlsOsTimeDelay 20

/-- The result is the verdict, which the source only prints. -/
def writeV9261fReg (addr : UInt16) (data : UInt32) : StateM MeterTask UInt8 := do
  sendWriteRequest addr data
  sendReadRequest addr
  return checkRegDataWrited (← get).writeRegBuf (← get).uart.readRegBackBuf

/-- The pointer that is returned is that of `ReadRegBackBuf`, whatever has arrived. -/
def readV9261fReg (addr : UInt16) : StateM MeterTask (Nat → UInt8) := do
  sendReadRequest addr
  return (← get).uart.readRegBackBuf

/-- `ReadVoltage`, `ReadCurrent` and `ReadEnergy` differ in the register and the divisor; the
result is the value they print. -/
def readMeasured (addr : UInt16) (divisor : UInt32) : StateM MeterTask UInt32 := do
  let meter ← readV9261fReg addr
  return registerData meter / divisor

def readVoltage : StateM MeterTask UInt32 := readMeasured aartu 0x331B9
def readCurrent : StateM MeterTask UInt32 := readMeasured aarti 0xDA20
def readEnergy : StateM MeterTask UInt32 := readMeasured aap 0xDA20

/-- The value of `(float)value`. A 32-bit integer rounds to an integer of 24 significant
bits, to the even one of two equally near. -/
def floatOfU32 (value : UInt32) : Nat :=
  let unit := 2 ^ (value.toNat.log2 + 1 - 24)
  let below := value.toNat / unit
  let rest := value.toNat % unit
  if 2 * rest < unit ∨ 2 * rest = unit ∧ below % 2 = 0 then below * unit else (below + 1) * unit

/-- `fabs(precision) < 0.01`: the double constant is 5764607523034235 / 2^59. -/
def belowOnePercent (precision : Nat) : Bool :=
  precision * 2 ^ 59 < 5764607523034235

/-- `CalibVoltage` and `CalibCurrent`: the register read, the units of the standard value, the
correction in use and the EEPROM address of the correction. `err` is an `s32` that the division
by the `u32` standard turns into a `u32` again. -/
def calibrate (addr : UInt16) (scale : UInt32) (para : CalibPara → UInt32) (cell : UInt16)
    (standardValue : UInt8) : StateM MeterTask UInt8 := do
  let meter ← readV9261fReg addr
  let value := registerData meter
  let standard := standardValue.toUInt32 * scale
  let err := standard - value
  let errRam := err + para (← get).calibPara
  MeterTask.onI2c (at24cxxWrite cell (fun index => (bigEndian errRam).getD index 0) 4)
  let precision := floatOfU32 (err / standard)
  return if belowOnePercent precision then 0 else 1

def calibVoltage : UInt8 → StateM MeterTask UInt8 := calibrate aartu 2093372 CalibPara.wartuPara 0x14
def calibCurrent : UInt8 → StateM MeterTask UInt8 := calibrate aarti 55840000 CalibPara.wartiPara 0x10

def writeAll : List (UInt16 × UInt32) → StateM MeterTask Unit
  | [] => pure ()
  | (addr, data) :: rest => do
      let _ ← writeV9261fReg addr data
      writeAll rest

def controlRegWrites : List (UInt16 × UInt32) :=
  [(analogControlReg0Add, 0xFF201740), (analogControlReg1Add, 0x30000000),
    (analogControlReg2Add, 0x00040000), (meterControlReg1Add, 0x0A0B0000),
    (meterControlReg0Add, 0x0C000080), (systemConfigRegAdd, 0x01FB0004), (bpfPara, 0x811D2BA7)]

def meterControlRegParaInit : StateM MeterTask Unit :=
  writeAll controlRegWrites

def parameterAt (bytes : Nat → UInt8) (start : Nat) : UInt32 :=
  joined (bytes start) (bytes (start + 1)) (bytes (start + 2)) (bytes (start + 3))

def calibParaOf (bytes : Nat → UInt8) : CalibPara where
  wartiPara := parameterAt bytes 0
  wartuPara := parameterAt bytes 4
  waptPara := parameterAt bytes 8
  wwaptPara := parameterAt bytes 12
  egythPara := parameterAt bytes 16
  cthPara := parameterAt bytes 20
  wartmPara := parameterAt bytes 24

def errorRegWrites (calibPara : CalibPara) : List (UInt16 × UInt32) :=
  [(warti, calibPara.wartiPara), (wartu, calibPara.wartuPara), (wapt, calibPara.waptPara),
    (wwapt, calibPara.wwaptPara), (egyth, calibPara.egythPara), (cth, calibPara.cthPara)]

def meterErrorRegParaInit : StateM MeterTask Unit := do
  let bytes ← MeterTask.onI2c (at24cxxRead 0x10 (fun _ => 0) 28)
  modify fun task => { task with calibPara := calibParaOf bytes }
  writeAll (errorRegWrites (calibParaOf bytes))

def meterInit : StateM MeterTask Unit := do
  meterControlRegParaInit
  meterErrorRegParaInit
  let _ ← writeV9261fReg meterControlReg0Add 0xEC000080

def startMeter : StateM MeterTask Unit := do
  tlsOsTimeDelay 1
  meterInit

def recalibrate : StateM MeterTask Unit := do
  meterInit
  tlsOsTimeDelay 50

/-- `while(CalibVoltage(220))` with at most `fuel` calls; `none` if it has not ended by then. -/
def calibrationLoop : Nat → MeterTask → Option MeterTask
  | 0, _ => none
  | fuel + 1, task =>
      let called := (calibVoltage 220).run task
      if called.1 = 0 then some called.2
      else calibrationLoop fuel (recalibrate.run called.2).2

/-- `Uart1TaskProc` up to the end of the loop, after `Uart1Init`. -/
def uart1TaskCalibration (fuel : Nat) (task : MeterTask) : Option MeterTask :=
  calibrationLoop fuel (startMeter.run task).2

end SmartMeter
