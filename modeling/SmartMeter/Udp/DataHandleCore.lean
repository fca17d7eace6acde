import SmartMeter.Drivers.ExrtcCore
import SmartMeter.Platform.GpioCore
import SmartMeter.Library.Buffer

/-!
`wm_datahandle.c`: the frame test, the two command switches and the two acknowledgement
builders, over the board they act on. A `char *` is the bytes found at each offset from
it, so that offsets outside the object are read as the code reads them. `memory` is what
the processor finds from address 0 on.
-/

namespace SmartMeter

open I2cBus

abbrev CharPtr := Int → UInt8

structure Board where
  i2c : I2cController (Eeprom × Rtc)
  gpio : Gpio
  udpAck : Nat → UInt8
  udpAckLen : UInt8

def onI2c {α : Type} (program : StateM (I2cController (Eeprom × Rtc)) α) : StateM Board α := do
  let answer := program.run (← get).i2c
  modify fun board => { board with i2c := answer.2 }
  return answer.1

def onGpio {α : Type} (program : StateM Gpio α) : StateM Board α := do
  let answer := program.run (← get).gpio
  modify fun board => { board with gpio := answer.2 }
  return answer.1

def wflag : UInt8 := 0xAA
def rflag : UInt8 := 0x55

def relayAdd : Nat := 0x01
def timeAdd : Nat := 0x02
def activePositiveAdd : Nat := 0x03
def activeNegativeAdd : Nat := 0x04
def activeTotalAdd : Nat := 0x05
def reactivePositiveAdd : Nat := 0x06
def reactiveNegativeAdd : Nat := 0x07
def reactiveTotalAdd : Nat := 0x08
def positiveTotalAdd : Nat := 0x09
def negativeTotalAdd : Nat := 0x0A
def energyTotalAdd : Nat := 0x0B
def instantCurrentAdd : Nat := 0x0C
def instantVoltageAdd : Nat := 0x0D
def instantPowerAdd : Nat := 0x0E
def clearAll : Nat := 0x0F
def screenTimeAdd : Nat := 0x10
def billTimeAdd : Nat := 0x11
-- wm_drivers.h first defines NominalVoltage as 0xEF and later again as the value here.
def nominalVoltage : Nat := 0x1B734F8D
def nominalCurrent : Nat := 0xF0
def votageGain : Nat := 0xF1
def current1Gain : Nat := 0xF2
def current2Gain : Nat := 0xF3
def simulateVoltage : Nat := 0xF4
def simulateCurrent1 : Nat := 0xF5
def simulateCurrent2 : Nat := 0xF6
def pulseConstant : Nat := 0xF7
def startCurrent : Nat := 0xF8
def ib100_10 : Nat := 0xF9
def ib100_05L : Nat := 0xFA
def ib1_10 : Nat := 0xFB
def instantVoltage : Nat := 0xFC
def instantCurrent1 : Nat := 0xFD
def instantCurrent2 : Nat := 0xFE
def instantPower : Nat := 0xFF

def writeAck (deviceAdd isOK : UInt8) : StateM Board Unit :=
  modify fun board =>
    let ack := Function.update board.udpAck 0 0x5A
    let ack := Function.update ack 1 wflag
    let ack := Function.update ack 2 deviceAdd
    let ack := Function.update ack 3 isOK
    let check := ack 0 + ack 1 + ack 2 + ack 3
    let ack := Function.update ack 4 (~~~check + 0x33)
    let ack := Function.update ack 5 0xA5
    { board with udpAck := ack, udpAckLen := 6 }

def readAck (deviceAdd isOK : UInt8) (data : Nat → UInt8) (dataLen : UInt8) : StateM Board Unit :=
  modify fun board =>
    let ack := Function.update board.udpAck 0 0x5A
    let ack := Function.update ack 1 rflag
    let ack := Function.update ack 2 deviceAdd
    let ack := Function.update ack 3 isOK
    let ack := Buffer.copy ack 4 data dataLen.toNat
    let check := Buffer.byteSum ack (dataLen.toNat + 4)
    let ack := Function.update ack (dataLen.toNat + 4) (~~~check + 0x33)
    let ack := Function.update ack (dataLen.toNat + 5) 0xA5
    { board with udpAck := ack, udpAckLen := dataLen + 6 }

inductive WriteArm
  | relay
  | time
  | clear (base count : UInt16)
  | oneByte (cell : UInt16)
  | twoBytes (first second : UInt16)
  | billTime
  | empty
deriving DecidableEq

-- The labels are `int` constants; the u8 address is promoted before it is compared.
def writeCases : List (Nat × WriteArm) := [
  (relayAdd, .relay),
  (timeAdd, .time),
  (activePositiveAdd, .clear 0x0041 4),
  (activeNegativeAdd, .clear 0x0045 4),
  (activeTotalAdd, .clear 0x0049 4),
  (reactivePositiveAdd, .clear 0x004d 4),
  (reactiveNegativeAdd, .clear 0x0051 4),
  (reactiveTotalAdd, .clear 0x0055 4),
  (positiveTotalAdd, .clear 0x0059 4),
  (negativeTotalAdd, .clear 0x005d 4),
  (energyTotalAdd, .clear 0x0061 4),
  (instantCurrentAdd, .clear 0x0065 4),
  (instantVoltageAdd, .clear 0x0069 4),
  (instantPowerAdd, .clear 0x006d 4),
  (clearAll, .clear 0x0041 48),
  (screenTimeAdd, .oneByte 0x0071),
  (billTimeAdd, .billTime),
  (nominalVoltage, .twoBytes 0x0090 0x0091),
  (nominalCurrent, .oneByte 0x0092),
  (votageGain, .oneByte 0x0093),
  (current1Gain, .oneByte 0x0094),
  (current2Gain, .oneByte 0x0095),
  (simulateVoltage, .empty),
  (simulateCurrent1, .empty),
  (simulateCurrent2, .empty),
  (pulseConstant, .twoBytes 0x00A2 0x00A3),
  (startCurrent, .empty),
  (ib100_10, .empty),
  (ib100_05L, .empty),
  (ib1_10, .empty),
  (instantVoltage, .twoBytes 0x00B2 0x00B3),
  (instantCurrent1, .oneByte 0x00B4),
  (instantCurrent2, .oneByte 0x00B5),
  (instantPower, .twoBytes 0x00B6 0x00B7)]

def writeArm (deviceAdd : UInt8) : Option WriteArm :=
  writeCases.lookup deviceAdd.toNat

def clampField (limit fallback value : UInt8) : UInt8 :=
  if value > limit then fallback else value

-- The seven checks stand twice in the source, once for each of the two time commands.
def timeWrite (temp : CharPtr) : TimeDef where
  second := clampField 0x59 0x00 (temp 3)
  minute := clampField 0x59 0x00 (temp 4)
  hour := clampField 0x23 0x00 (temp 5)
  week := clampField 0x07 0x01 (temp 6)
  day := clampField 0x31 0x01 (temp 7)
  month := clampField 0x12 0x01 (temp 8)
  year := clampField 0x50 0x00 (temp 9)

def billTimeWrite (temp : CharPtr) (index : Nat) : UInt8 :=
  #[clampField 0x59 0x00 (temp 3), clampField 0x59 0x00 (temp 4), clampField 0x23 0x00 (temp 5),
    clampField 0x07 0x01 (temp 6), clampField 0x31 0x01 (temp 7), clampField 0x12 0x01 (temp 8),
    clampField 0x50 0x00 (temp 9)].getD index 0

def runWriteArm (memory : Nat → UInt8) (temp : CharPtr) (deviceAdd : UInt8) :
    WriteArm → StateM Board Unit
  | .relay => do
      onGpio (userRelayCtrl (temp 3))
      if (← onGpio getRelayStatus) = temp 3 then writeAck deviceAdd 1
      else writeAck deviceAdd 0
  | .time => do
      let _ ← onI2c (rtcWriteDate (timeWrite temp))
      writeAck deviceAdd 1
  | .clear base count => do
      -- `AT24CXX_Write(base,0x00,count)`: the second argument is the source pointer.
      onI2c (at24cxxWrite base memory count)
      writeAck deviceAdd 1
  | .oneByte cell => do
      onI2c (at24cxxWriteOneByte cell (temp 3))
      if (← onI2c (at24cxxReadOneByte cell)) = temp 3 then writeAck deviceAdd 1
      else writeAck deviceAdd 0
  | .twoBytes first second => do
      onI2c (at24cxxWriteOneByte first (temp 3))
      onI2c (at24cxxWriteOneByte second (temp 4))
      if (← onI2c (at24cxxReadOneByte first)) = temp 3 then
        if (← onI2c (at24cxxReadOneByte second)) = temp 4 then writeAck deviceAdd 1
        else writeAck deviceAdd 0
      else writeAck deviceAdd 0
  | .billTime => do
      onI2c (at24cxxWrite 0x0072 (billTimeWrite temp) 7)
      writeAck deviceAdd 1
  | .empty => pure ()

def writeMeter (memory : Nat → UInt8) (data : CharPtr) : StateM Board Unit :=
  match writeArm (data 2) with
  | some arm => runWriteArm memory data (data 2) arm
  | none => pure ()

inductive ReadArm
  | relay
  | block (base : UInt16) (count : UInt8)
deriving DecidableEq

def readCases : List (Nat × ReadArm) := [
  (relayAdd, .relay),
  (timeAdd, .block 0x0000 7),
  (activePositiveAdd, .block 0x0041 4),
  (activeNegativeAdd, .block 0x0045 4),
  (activeTotalAdd, .block 0x0049 4),
  (reactivePositiveAdd, .block 0x004d 4),
  (reactiveNegativeAdd, .block 0x0051 4),
  (reactiveTotalAdd, .block 0x0055 4),
  (positiveTotalAdd, .block 0x0059 4),
  (negativeTotalAdd, .block 0x005d 4),
  (energyTotalAdd, .block 0x0061 4),
  (instantCurrentAdd, .block 0x0065 4),
  (instantVoltageAdd, .block 0x0069 4),
  (instantPowerAdd, .block 0x006d 4),
  (clearAll, .block 0x0011 48),
  (screenTimeAdd, .block 0x0071 1),
  (billTimeAdd, .block 0x0072 7),
  (instantVoltage, .block 0x0069 4),
  (instantCurrent1, .block 0x0065 4),
  (instantCurrent2, .block 0x0065 4)]

def readArm (deviceAdd : UInt8) : Option ReadArm :=
  readCases.lookup deviceAdd.toNat

-- `tempData` starts uninitialised; every arm fills the bytes it sends.
def runReadArm (deviceAdd : UInt8) : ReadArm → StateM Board Unit
  | .relay => do
      let status ← onGpio getRelayStatus
      readAck deviceAdd 1 (fun _ => status) 1
  | .block base count => do
      let tempData ← onI2c (at24cxxRead base (fun _ => 0) count.toUInt16)
      readAck deviceAdd 1 tempData count

def readMeter (data : CharPtr) : StateM Board Unit :=
  match readArm (data 2) with
  | some arm => runReadArm (data 2) arm
  | none => pure ()

inductive Handler
  | writeMeter
  | readMeter
deriving Repr, DecidableEq

def checkOut (temp : CharPtr) (count : Nat) : UInt8 :=
  ~~~Buffer.byteSum (fun index => temp index) count + 0x33

/-- The tests of `Data_Handle`, in its order. `Length` is a u8 that is promoted to `int`
where 1 or 2 is taken off, so the offsets are -1 and -2 for a zero length. -/
def dispatch (temp : CharPtr) (length : UInt8) : Option Handler :=
  if temp 0 = 0x5A ∧ temp ((length.toNat : Int) - 1) = 0xA5 ∧
      temp ((length.toNat : Int) - 2) = checkOut temp (length.toNat - 2) then
    if temp 1 = wflag then some .writeMeter
    else if temp 1 = rflag then some .readMeter
    else none
  else none

def dataHandle (memory : Nat → UInt8) (data : CharPtr) (length : UInt8) : StateM Board Unit :=
  match dispatch data length with
  | some .writeMeter => writeMeter memory data
  | some .readMeter => readMeter data
  | none => pure ()

structure Call where
  memory : Nat → UInt8
  data : CharPtr
  length : UInt8

def Call.handler (call : Call) : Option Handler :=
  dispatch call.data call.length

def Call.address (call : Call) : UInt8 :=
  call.data 2

def Board.handle (board : Board) (call : Call) : Board :=
  ((dataHandle call.memory call.data call.length).run board).2

def bytesAt (bytes : List UInt8) : CharPtr :=
  fun offset => if offset < 0 then 0 else bytes.getD offset.toNat 0

def Board.holding (eeprom : UInt16 → UInt8) (rtc : UInt8 → UInt8) : Board where
  i2c := ⟨(⟨eeprom, 0, .idle⟩, ⟨rtc, 0, .idle⟩), false⟩
  gpio := ⟨⟨0, 0, 0, 0⟩, ⟨0, 0, 0, 0⟩⟩
  udpAck := fun _ => 0
  udpAckLen := 0

def Board.blank : Board :=
  .holding (fun _ => 0) (fun _ => 0)

end SmartMeter
