import SmartMeter.Drivers.LcdCore
import SmartMeter.Library.Buffer
import SmartMeter.Library.StateSimulation
import SmartMeter.Library.ThreeWire

/-!
The display controller HT1622 behind the pins that `wm_lcd.c` drives, and those functions of
`wm_lcd.c` that write to it, each as the changes of the pins that it makes.
-/

namespace SmartMeter

open ThreeWire StateSimulation

def lcdBg : Nat := 25

/-- `mode` and `address` hold the bits that have come so far; a write gathers the four bits
of the next cell in `data`. Commands, and reads, change no cell. -/
inductive Ht1622Phase
  | mode (bits : List Bool)
  | address (bits : List Bool)
  | data (pointer : BitVec 6) (bits : List Bool)
  | other
deriving DecidableEq

structure Ht1622 where
  phase : Ht1622Phase
  ram : BitVec 6 → BitVec 4

/-- The highest bit comes first in an address, the lowest in a cell. -/
def addressOf (bits : List Bool) : BitVec 6 :=
  bits.foldl (fun value bit => value.shiftConcat bit) 0

def cellOf (bits : List Bool) : BitVec 4 :=
  bits.foldr (fun bit value => value.shiftConcat bit) 0

def Ht1622.clock (chip : Ht1622) (bit : Bool) : Ht1622 :=
  match chip.phase with
  | .mode bits =>
      if bits.length < 2 then { chip with phase := .mode (bits ++ [bit]) }
      else if bits ++ [bit] = [true, false, true] then { chip with phase := .address [] }
      else { chip with phase := .other }
  | .address bits =>
      if bits.length < 5 then { chip with phase := .address (bits ++ [bit]) }
      else { chip with phase := .data (addressOf (bits ++ [bit])) [] }
  | .data pointer bits =>
      if bits.length < 3 then { chip with phase := .data pointer (bits ++ [bit]) }
      else { phase := .data (pointer + 1) []
             ram := Function.update chip.ram pointer (cellOf (bits ++ [bit])) }
  | .other => chip

instance : ThreeWire.Device Ht1622 where
  reset := fun chip => { chip with phase := .mode [] }
  clock := Ht1622.clock

abbrev PinWrite := Nat × UInt8

def tlsGpioWrites : List PinWrite → StateM Gpio Unit
  | [] => pure ()
  | (pin, value) :: rest => do
      tlsGpioWrite pin value
      tlsGpioWrites rest

def bitWrites (bit : Bool) : List PinWrite :=
  [(lcdData, if bit then 1 else 0), (lcdWr, 0), (lcdWr, 1)]

def bitsHL : Nat → UInt8 → List Bool
  | 0, _ => []
  | cnt + 1, dat => decide (dat &&& 0x80 ≠ 0) :: bitsHL cnt (dat <<< 1)

def bitsLH : Nat → UInt8 → List Bool
  | 0, _ => []
  | cnt + 1, dat => decide (dat &&& 0x01 ≠ 0) :: bitsLH cnt (dat >>> 1)

def frameWrites (bits : List Bool) : List PinWrite :=
  (lcdCs, 0) :: bits.flatMap bitWrites ++ [(lcdCs, 1)]

def sendcmdWrites (command : UInt8) : List PinWrite :=
  frameWrites (bitsHL 3 0x80 ++ bitsHL 9 command)

def w1622QWrites (addr dat : UInt8) : List PinWrite :=
  frameWrites (bitsHL 3 0xA0 ++ bitsHL 6 (addr <<< 2) ++ bitsLH 4 dat)

def w1622ByteWrites (seg dat : UInt8) : List PinWrite :=
  let addr := seg * 2
  w1622QWrites addr dat ++ w1622QWrites (addr + 1) (dat >>> 4)

/-- The pointer stays where it is, and the eight turns do not depend on the count. -/
def w1622SuccessWrites (seg _cnt : UInt8) (p : Nat → UInt8) : List PinWrite :=
  let addr := seg * 2
  frameWrites (bitsHL 3 0xA0 ++ bitsHL 6 (addr <<< 2) ++
    (List.replicate 8 (p 0)).flatMap fun byte => bitsLH 4 byte ++ bitsLH 4 (byte >>> 4))

/-- `cleandisp` and `disp_All` send the same byte for every segment. -/
def fillWrites (byte : UInt8) : List PinWrite :=
  frameWrites (bitsHL 3 0xA0 ++ bitsHL 6 0 ++
    (List.replicate 32 byte).flatMap fun byte => bitsLH 4 byte ++ bitsLH 4 byte)

def gpioLevel (gpio : Gpio) (pin : Nat) : Bool :=
  (gpio.bank pin).data.getLsbD (if wmIoPb00 ≤ pin then pin - wmIoPb00 else pin)

def lcdWires (gpio : Gpio) : Wires :=
  ⟨gpioLevel gpio lcdCs, gpioLevel gpio lcdWr, gpioLevel gpio lcdData⟩

structure LcdBoard where
  lcd : Lcd
  seen : Bool
  chip : Ht1622

namespace LcdBoard

def line (board : LcdBoard) : ThreeWire.Line Ht1622 :=
  ⟨lcdWires board.lcd.gpio, board.seen, board.chip⟩

def write (board : LcdBoard) (write : PinWrite) : LcdBoard :=
  let gpio := ((tlsGpioWrite write.1 write.2).run board.lcd.gpio).2
  let line := board.line.see (lcdWires gpio)
  { lcd := { board.lcd with gpio }, seen := line.seen, chip := line.device }

def send (writes : List PinWrite) : StateM LcdBoard Unit :=
  modify fun board => writes.foldl write board

def onLcd (program : StateM Lcd Unit) : StateM LcdBoard Unit :=
  modify fun board => { board with lcd := (program.run board.lcd).2 }

def setDispram (dispram : Nat → UInt8) : StateM LcdBoard Unit :=
  modify fun board => { board with lcd := { board.lcd with dispram } }

def w1622Success (seg cnt : UInt8) (p : Nat → UInt8) : StateM LcdBoard Unit :=
  send (w1622SuccessWrites seg cnt p)

def dispRenew : StateM LcdBoard Unit := do
  w1622Success 0 32 (← get).lcd.dispram

def dispWith (change : UInt8 → UInt8) (seg : Nat) : StateM LcdBoard Unit := do
  let dispram := (← get).lcd.dispram
  setDispram (Function.update dispram seg (change (dispram seg)))
  send (w1622ByteWrites (UInt8.ofNat seg) (change (dispram seg)))

def dispOn (com : UInt8) (seg : Nat) : StateM LcdBoard Unit :=
  dispWith (fun byte => byte ||| 1 <<< com) seg

def dispOff (com : UInt8) (seg : Nat) : StateM LcdBoard Unit :=
  dispWith (fun byte => byte &&& ~~~(1 <<< com)) seg

def fill (byte : UInt8) : StateM LcdBoard Unit := do
  send (fillWrites byte)
  setDispram (Buffer.fill (← get).lcd.dispram byte 32)

def cleandisp : StateM LcdBoard Unit := fill 0
def dispAll : StateM LcdBoard Unit := fill 0xFF

def rc32k : UInt8 := 0x18
def sysEn : UInt8 := 0x01
def lcdOn : UInt8 := 0x03

def ht1622Init : StateM LcdBoard Unit := do
  send [(lcdBg, 1)]
  setDispram (Buffer.fill (← get).lcd.dispram 0 32)
  send (sendcmdWrites rc32k)
  send (sendcmdWrites sysEn)
  send (sendcmdWrites lcdOn)

def lcdGpio : StateM Gpio Unit := do
  tlsGpioCfg lcdWr .output .pullLow
  tlsGpioCfg lcdCs .output .pullLow
  tlsGpioCfg lcdData .output .pullLow
  tlsGpioCfg lcdBg .output .pullLow

/-- The controller may be in any state when the pins become outputs. -/
def lcdInit : StateM LcdBoard Unit := do
  onLcd (modify fun lcd => { lcd with gpio := (lcdGpio.run lcd.gpio).2 })
  ht1622Init
  cleandisp

end LcdBoard

end SmartMeter
