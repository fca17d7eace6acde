import SmartMeter.Drivers.ExrtcCore
import SmartMeter.Platform.GpioCore

/-!
`wm_lcd.c`: the picture kept in `dispram`, the serial line to the display controller and
the digits of the clock.
-/

namespace SmartMeter

def lcdData : Nat := 1
def lcdWr : Nat := 22
def lcdCs : Nat := 23

structure Lcd where
  dispram : Nat → UInt8
  gpio : Gpio

def sendBitHL : Nat → UInt8 → StateM Gpio Unit
  | 0, _ => pure ()
  | cnt + 1, dat => do
      tlsGpioWrite lcdData (if dat &&& 0x80 ≠ 0 then 1 else 0)
      tlsGpioWrite lcdWr 0
      tlsGpioWrite lcdWr 1
      sendBitHL cnt (dat <<< 1)

def sendBitLH : Nat → UInt8 → StateM Gpio Unit
  | 0, _ => pure ()
  | cnt + 1, dat => do
      tlsGpioWrite lcdData (if dat &&& 0x01 ≠ 0 then 1 else 0)
      tlsGpioWrite lcdWr 0
      tlsGpioWrite lcdWr 1
      sendBitLH cnt (dat >>> 1)

def w1622Q (addr dat : UInt8) : StateM Gpio Unit := do
  tlsGpioWrite lcdCs 0
  sendBitHL 3 0xA0
  sendBitHL 6 (addr <<< 2)
  sendBitLH 4 dat
  tlsGpioWrite lcdCs 1

def w1622Byte (seg : Nat) (dat : UInt8) : StateM Gpio Unit := do
  let addr := UInt8.ofNat seg * 2
  w1622Q addr dat
  w1622Q (addr + 1) (dat >>> 4)

def dispWith (change : UInt8 → UInt8) (seg : Nat) : StateM Lcd Unit := do
  modify fun lcd => { lcd with dispram := Function.update lcd.dispram seg (change (lcd.dispram seg)) }
  let lcd ← get
  set { lcd with gpio := ((w1622Byte seg (lcd.dispram seg)).run lcd.gpio).2 }

def dispOn (com : UInt8) (seg : Nat) : StateM Lcd Unit :=
  dispWith (fun byte => byte ||| 1 <<< com) seg

def dispOff (com : UInt8) (seg : Nat) : StateM Lcd Unit :=
  dispWith (fun byte => byte &&& ~~~(1 <<< com)) seg

def drive (on : Bool) (com : UInt8) (seg : Nat) : StateM Lcd Unit :=
  if on then dispOn com seg else dispOff com seg

/-- The segments of one digit: `a` at the top, then clockwise, `g` in the middle. -/
structure Glyph where
  a : Bool
  b : Bool
  c : Bool
  d : Bool
  e : Bool
  f : Bool
  g : Bool
deriving DecidableEq

-- Coms 2, 3, 4 of the pin, then coms 5, 4, 2, 3 of the pin beside it: the order of the calls
-- in every arm of the source.
def driveGlyph (pin beside : Nat) (glyph : Glyph) : StateM Lcd Unit := do
  drive glyph.a 2 pin
  drive glyph.b 3 pin
  drive glyph.c 4 pin
  drive glyph.d 5 beside
  drive glyph.e 4 beside
  drive glyph.f 2 beside
  drive glyph.g 3 beside

/-- The seventeen arms that the switches of `show1num` to `show8num` have in common. -/
def numArms : List Glyph := [
  ⟨true, true, true, true, true, true, false⟩,
  ⟨false, true, true, false, false, false, false⟩,
  ⟨true, true, false, true, true, false, true⟩,
  ⟨true, true, true, true, false, false, true⟩,
  ⟨false, true, true, false, false, true, true⟩,
  ⟨true, false, true, true, false, true, true⟩,
  ⟨true, false, true, true, true, true, true⟩,
  ⟨true, true, true, false, false, false, false⟩,
  ⟨true, true, true, true, true, true, true⟩,
  ⟨true, true, true, true, false, true, true⟩,
  ⟨true, true, true, false, true, true, true⟩,
  ⟨false, false, true, true, true, true, true⟩,
  ⟨true, false, false, true, true, true, false⟩,
  ⟨false, true, true, true, true, false, true⟩,
  ⟨true, false, false, true, true, true, true⟩,
  ⟨true, false, false, false, true, true, true⟩,
  ⟨false, false, false, false, false, false, true⟩]

def showNum (pin beside : Nat) (num : UInt8) : StateM Lcd Unit :=
  match numArms[num.toNat]? with
  | some glyph => driveGlyph pin beside glyph
  | none => pure ()

def show1num : UInt8 → StateM Lcd Unit := showNum 22 23
def show2num : UInt8 → StateM Lcd Unit := showNum 20 21
def show3num : UInt8 → StateM Lcd Unit := showNum 18 19
def show4num : UInt8 → StateM Lcd Unit := showNum 16 17
def show5num : UInt8 → StateM Lcd Unit := showNum 14 15
def show6num : UInt8 → StateM Lcd Unit := showNum 7 6
def show7num : UInt8 → StateM Lcd Unit := showNum 9 8
def show8num : UInt8 → StateM Lcd Unit := showNum 11 10

def showLightMH : StateM Lcd Unit := do
  dispOn 1 16
  dispOn 5 16

def showRightMH : StateM Lcd Unit := do
  dispOn 5 7
  dispOn 1 7

def darkGlyph : Glyph := ⟨false, false, false, false, false, false, false⟩

def showClrtime : StateM Lcd Unit := do
  driveGlyph 22 23 darkGlyph
  driveGlyph 20 21 darkGlyph
  driveGlyph 18 19 darkGlyph
  driveGlyph 16 17 darkGlyph
  driveGlyph 14 15 darkGlyph
  driveGlyph 7 6 darkGlyph
  driveGlyph 9 8 darkGlyph
  driveGlyph 11 10 darkGlyph
  dispOff 5 22
  dispOff 5 20
  dispOff 5 18
  dispOff 5 16
  dispOff 5 14
  dispOff 5 7
  dispOff 5 9
  dispOff 1 16
  dispOff 1 7

def showTimeFlag : StateM Lcd Unit := do
  dispOn 1 9
  dispOn 1 10

def showTime (hour minute second : UInt8) : StateM Lcd Unit := do
  showClrtime
  show3num (hour / 10)
  show4num (hour % 10)
  showLightMH
  show5num (minute / 10)
  show6num (minute % 10)
  showRightMH
  show7num (second / 10)
  show8num (second % 10)

def showDate (year month day : UInt8) : StateM Lcd Unit := do
  showClrtime
  show1num (year / 10)
  show2num (year % 10)
  show3num 16
  show4num (month / 10)
  show5num (month % 10)
  show6num 16
  show7num (day / 10)
  show8num (day % 10)

def hexToDec (hex : UInt8) : UInt8 :=
  let hhex := (hex &&& 0xF0) >>> 4
  let lhex := hex &&& 0x0F
  hhex * 10 + lhex

-- One turn of the endless loop of `LCD_display` shows the time that was read, then its date.
def lcdDisplayTime (time : TimeDef) : StateM Lcd Unit := do
  showTimeFlag
  showTime (hexToDec time.hour) (hexToDec time.minute) (hexToDec time.second)

def lcdDisplayDate (time : TimeDef) : StateM Lcd Unit :=
  showDate (hexToDec time.year) (hexToDec time.month) (hexToDec time.day)

end SmartMeter
