import SmartMeter.Library.I2cBus

/-!
The polled half of `wm_i2c.c`. The controller's status register is kept as the one
bit the driver branches on, `I2C_SR_NAK`, which only changes with the next transfer; the
`I2C_SR_TIP` waits end when the byte is out. A register file ignores the acknowledge that
the master sends after a byte it has read.
-/

namespace SmartMeter

open I2cBus

def wmSuccess : Int := 0
def wmFailed : Int := -1

structure I2cController (σ : Type) where
  target : σ
  nak : Bool

section

variable {σ : Type} [Target σ]

def tlsI2cStop : StateM (I2cController σ) Unit :=
  modify fun controller => { controller with target := Target.release controller.target }

def tlsI2cWaitAck : StateM (I2cController σ) Int := do
  if (← get).nak then
    tlsI2cStop
    return wmFailed
  else
    return wmSuccess

def tlsI2cWriteByte (data : UInt8) (ifstart : UInt8) : StateM (I2cController σ) Unit :=
  modify fun controller =>
    let answer := if ifstart ≠ 0 then Target.select controller.target data
      else Target.receive controller.target data
    { target := answer.1, nak := !answer.2 }

def tlsI2cReadByte (_ifack : UInt8) (ifstop : UInt8) : StateM (I2cController σ) UInt8 := do
  let answer := Target.transmit (← get).target
  modify fun controller => { controller with target := answer.1 }
  if ifstop ≠ 0 then
    tlsI2cStop
  return answer.2

variable (bus : I2cController σ)

@[simp] theorem tlsI2cStop_run :
    tlsI2cStop.run bus = pure ((), { bus with target := Target.release bus.target }) := rfl

@[simp] theorem tlsI2cWaitAck_run (target : σ) :
    tlsI2cWaitAck.run (⟨target, false⟩ : I2cController σ) =
      pure (wmSuccess, ⟨target, false⟩) := rfl

@[simp] theorem tlsI2cWriteByte_start (data : UInt8) :
    (tlsI2cWriteByte data 1).run bus =
      pure ((), ⟨(Target.select bus.target data).1, !(Target.select bus.target data).2⟩) := rfl

@[simp] theorem tlsI2cWriteByte_next (data : UInt8) :
    (tlsI2cWriteByte data 0).run bus =
      pure ((), ⟨(Target.receive bus.target data).1, !(Target.receive bus.target data).2⟩) := rfl

@[simp] theorem tlsI2cReadByte_next (ifack : UInt8) :
    (tlsI2cReadByte ifack 0).run bus =
      pure ((Target.transmit bus.target).2,
        { bus with target := (Target.transmit bus.target).1 }) := rfl

@[simp] theorem tlsI2cReadByte_last (ifack : UInt8) :
    (tlsI2cReadByte ifack 1).run bus =
      pure ((Target.transmit bus.target).2,
        { bus with target := Target.release (Target.transmit bus.target).1 }) := rfl

end

end SmartMeter
