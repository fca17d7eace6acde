import Mathlib.Logic.Function.Basic

/-!
`wm_gpio.c` without interrupts, and the relay driver `wm_relay.c` on top of it. The
`GPIO_DATA` register is plain storage: an output pin follows what is written to its bit.
-/

namespace SmartMeter

def wmIoPb00 : Nat := 16
def wmIoPb18 : Nat := 34

inductive GpioDir
  | output
  | input
deriving DecidableEq

inductive GpioAttr
  | floating
  | pullHigh
  | pullLow
deriving DecidableEq

structure GpioBank where
  data : BitVec 32
  dataEn : BitVec 32
  dir : BitVec 32
  pullEn : BitVec 32
deriving DecidableEq

structure Gpio where
  bankA : GpioBank
  bankB : GpioBank
deriving DecidableEq

def Gpio.bank (gpio : Gpio) (gpioPin : Nat) : GpioBank :=
  if wmIoPb00 ≤ gpioPin then gpio.bankB else gpio.bankA

def Gpio.setBank (gpio : Gpio) (gpioPin : Nat) (bank : GpioBank) : Gpio :=
  if wmIoPb00 ≤ gpioPin then { gpio with bankB := bank } else { gpio with bankA := bank }

def pinBit (gpioPin : Nat) : BitVec 32 :=
  BitVec.twoPow 32 (if wmIoPb00 ≤ gpioPin then gpioPin - wmIoPb00 else gpioPin)

def tlsGpioCfg (gpioPin : Nat) (dir : GpioDir) (attr : GpioAttr) : StateM Gpio Unit := do
  let bank := (← get).bank gpioPin
  let bank := match dir with
    | .output => { bank with dir := bank.dir ||| pinBit gpioPin }
    | .input => { bank with dir := bank.dir &&& ~~~pinBit gpioPin }
  let bank := match attr with
    | .floating => { bank with pullEn := bank.pullEn ||| pinBit gpioPin }
    | _ => { bank with pullEn := bank.pullEn &&& ~~~pinBit gpioPin }
  modify fun gpio => gpio.setBank gpioPin bank

def tlsGpioRead (gpioPin : Nat) : StateM Gpio UInt8 := do
  let bank := (← get).bank gpioPin
  let regEn := bank.dataEn
  modify fun gpio => gpio.setBank gpioPin { bank with dataEn := regEn ||| pinBit gpioPin }
  let reg := ((← get).bank gpioPin).data
  modify fun gpio => gpio.setBank gpioPin { gpio.bank gpioPin with dataEn := regEn }
  return if reg &&& pinBit gpioPin ≠ 0 then 1 else 0

def tlsGpioWrite (gpioPin : Nat) (value : UInt8) : StateM Gpio Unit := do
  let bank := (← get).bank gpioPin
  let regEn := bank.dataEn
  modify fun gpio => gpio.setBank gpioPin { bank with dataEn := regEn ||| pinBit gpioPin }
  let reg := ((← get).bank gpioPin).data
  let written := if value ≠ 0 then reg ||| pinBit gpioPin else reg &&& ~~~pinBit gpioPin
  modify fun gpio => gpio.setBank gpioPin { gpio.bank gpioPin with data := written }
  modify fun gpio => gpio.setBank gpioPin { gpio.bank gpioPin with dataEn := regEn }

def userRelayCtrl (status : UInt8) : StateM Gpio Unit := do
  tlsGpioCfg wmIoPb18 .output .floating
  tlsGpioWrite wmIoPb18 status

def getRelayStatus : StateM Gpio UInt8 :=
  tlsGpioRead wmIoPb18

-- Bit 18 of bank B is the level of the relay pin.
def relayOn (gpio : Gpio) : Bool :=
  gpio.bankB.data.getLsbD 18

end SmartMeter
