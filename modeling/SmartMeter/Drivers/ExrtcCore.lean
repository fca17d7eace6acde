import SmartMeter.Drivers.E2promCore

/-! The clock chip and the part of `wm_exrtc.c` that writes its registers, reads and saves the time. -/

namespace SmartMeter

open I2cBus

def rtcAddress : UInt8 := 0x64
def ctr1 : UInt8 := 0x0F
def ctr2 : UInt8 := 0x10

def rtcUnlocked (registers : UInt8 → UInt8) : Bool :=
  registers ctr2 &&& 0x80 == 0x80 && registers ctr1 &&& 0x84 == 0x84

/-- `WRTC1` is bit 7 of `CTR2`, `WRTC2` and `WRTC3` are the bits 0x84 of `CTR1`. The two
registers that hold these bits can always be written, the others only with all three set. -/
def rtcChip : Layout UInt8 where
  address := rtcAddress
  width := 1
  shiftIn := fun _ byte => byte
  next := fun pointer => pointer + 1
  writable := fun registers pointer =>
    pointer == ctr1 || pointer == ctr2 || rtcUnlocked registers

abbrev Rtc := Device rtcChip

structure TimeDef where
  second : UInt8
  minute : UInt8
  hour : UInt8
  week : UInt8
  day : UInt8
  month : UInt8
  year : UInt8
deriving Repr, DecidableEq

section

variable {σ : Type} [Target σ]

def writeRtcEnable : StateM (I2cController σ) Bool := do
  tlsI2cWriteByte rtcAddress 1
  if (← tlsI2cWaitAck) = wmFailed then
    tlsI2cStop
    return false
  tlsI2cWriteByte ctr2 0
  let _ ← tlsI2cWaitAck
  tlsI2cWriteByte 0x80 0
  let _ ← tlsI2cWaitAck
  tlsI2cStop
  tlsI2cWriteByte rtcAddress 1
  let _ ← tlsI2cWaitAck
  tlsI2cWriteByte ctr1 0
  let _ ← tlsI2cWaitAck
  tlsI2cWriteByte 0x84 0
  let _ ← tlsI2cWaitAck
  tlsI2cStop
  return true

def writeRtcDisable : StateM (I2cController σ) Bool := do
  tlsI2cWriteByte rtcAddress 1
  if (← tlsI2cWaitAck) ≠ wmSuccess then
    tlsI2cStop
    return false
  tlsI2cWriteByte ctr1 0
  let _ ← tlsI2cWaitAck
  tlsI2cWriteByte 0x00 0
  let _ ← tlsI2cWaitAck
  tlsI2cWriteByte 0x00 0
  let _ ← tlsI2cWaitAck
  tlsI2cStop
  return true

/-- `WriteRTC_Enable` and `WriteRTC_Disable` are commented out in this function of the source. -/
def rtcWriteDate (psRTC : TimeDef) : StateM (I2cController σ) Bool := do
  tlsI2cWriteByte rtcAddress 1
  if (← tlsI2cWaitAck) ≠ wmSuccess then
    tlsI2cStop
    return false
  tlsI2cWriteByte 0 0
  let _ ← tlsI2cWaitAck
  tlsI2cWriteByte psRTC.second 0
  let _ ← tlsI2cWaitAck
  tlsI2cWriteByte psRTC.minute 0
  let _ ← tlsI2cWaitAck
  tlsI2cWriteByte (psRTC.hour ||| 0x80) 0
  let _ ← tlsI2cWaitAck
  tlsI2cWriteByte psRTC.week 0
  let _ ← tlsI2cWaitAck
  tlsI2cWriteByte psRTC.day 0
  let _ ← tlsI2cWaitAck
  tlsI2cWriteByte psRTC.month 0
  let _ ← tlsI2cWaitAck
  tlsI2cWriteByte psRTC.year 0
  let _ ← tlsI2cWaitAck
  tlsI2cStop
  return true

def rtcFlagWriteDate (flag : UInt8) : StateM (I2cController σ) Bool := do
  let rtcFlag : UInt8 := 0x2C
  let _ ← writeRtcEnable
  tlsI2cWriteByte rtcAddress 1
  if (← tlsI2cWaitAck) ≠ wmSuccess then
    tlsI2cStop
    return false
  tlsI2cWriteByte rtcFlag 0
  let _ ← tlsI2cWaitAck
  tlsI2cWriteByte flag 0
  let _ ← tlsI2cWaitAck
  tlsI2cStop
  let _ ← writeRtcDisable
  return true

def rtcReadDate (psRTC : TimeDef) : StateM (I2cController σ) (TimeDef × Bool) := do
  tlsI2cWriteByte rtcAddress 1
  if (← tlsI2cWaitAck) ≠ wmSuccess then
    tlsI2cStop
    return (psRTC, false)
  tlsI2cWriteByte 0 0
  let _ ← tlsI2cWaitAck
  tlsI2cWriteByte (rtcAddress + 1) 1
  let _ ← tlsI2cWaitAck
  let second ← tlsI2cReadByte 1 0
  let minute ← tlsI2cReadByte 1 0
  let hour ← tlsI2cReadByte 1 0
  let week ← tlsI2cReadByte 1 0
  let day ← tlsI2cReadByte 1 0
  let month ← tlsI2cReadByte 1 0
  let year ← tlsI2cReadByte 0 1
  return (⟨second, minute, hour &&& 0x7F, week, day, month, year⟩, true)

def i2cWriteSerialFrom : Nat → Nat → (Nat → UInt8) → StateM (I2cController σ) Unit
  | 0, _, _ => pure ()
  | left + 1, index, ps => do
      tlsI2cWriteByte (ps index) 0
      i2cWriteSerialFrom left (index + 1) ps

-- The test reads `!tls_i2c_wait_ack()`, and `WM_SUCCESS` is zero.
def i2cWriteSerial (deviceAddress address length : UInt8) (ps : Nat → UInt8) :
    StateM (I2cController σ) Bool := do
  if deviceAddress = rtcAddress then
    let _ ← writeRtcEnable
  tlsI2cWriteByte deviceAddress 1
  if (← tlsI2cWaitAck) = 0 then
    tlsI2cStop
    return false
  tlsI2cWriteByte address 0
  let _ ← tlsI2cWaitAck
  i2cWriteSerialFrom length.toNat 0 ps
  tlsI2cStop
  if deviceAddress = rtcAddress then
    let _ ← writeRtcDisable
  return true

def saveTime (time : TimeDef) : StateM (I2cController σ) Unit :=
  let datatmp := #[time.year, time.month, time.day, time.hour, time.minute, time.second, time.week]
  at24cxxWrite 0 (fun index => datatmp.getD index 0) 7

def readTime : StateM (I2cController σ) TimeDef := do
  let datatmp ← at24cxxRead 0 (fun _ => 0) 7
  return {
    year := datatmp 0
    month := datatmp 1
    day := datatmp 2
    hour := datatmp 3
    minute := datatmp 4
    second := datatmp 5
    week := datatmp 6
  }

/-- One turn of the endless loop of `exrtc_save`; the globals `sysTime` and `ReadTime`
are passed in and out. -/
def exrtcSaveTurn (sysTime : TimeDef) : StateM (I2cController σ) (TimeDef × TimeDef) := do
  let (sysTime, _) ← rtcReadDate sysTime
  saveTime sysTime
  let readBack ← readTime
  return (sysTime, readBack)

end

end SmartMeter
