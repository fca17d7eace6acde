import SmartMeter.Library.I2cBus

/-! A two-wire bus with a record of what happens on it. -/

namespace I2cBus

inductive BusEvent
  | start (byte : UInt8) (acked : Bool)
  | write (byte : UInt8) (acked : Bool)
  | read (byte : UInt8)
  | stop
deriving DecidableEq

def BusEvent.acked : BusEvent → Bool
  | .start _ acked | .write _ acked => acked
  | .read _ | .stop => true

structure Logged (σ : Type) where
  target : σ
  log : List BusEvent

def written (events : List BusEvent) : List UInt8 :=
  events.filterMap fun
    | .write byte _ => some byte
    | _ => none

def fetched (events : List BusEvent) : List UInt8 :=
  events.filterMap fun
    | .read byte => some byte
    | _ => none

section Logged

variable {σ : Type} [Target σ]

instance : Target (Logged σ) where
  select := fun line byte =>
    let answer := Target.select line.target byte
    (⟨answer.1, line.log ++ [.start byte answer.2]⟩, answer.2)
  receive := fun line byte =>
    let answer := Target.receive line.target byte
    (⟨answer.1, line.log ++ [.write byte answer.2]⟩, answer.2)
  transmit := fun line =>
    let answer := Target.transmit line.target
    (⟨answer.1, line.log ++ [.read answer.2]⟩, answer.2)
  release := fun line => ⟨Target.release line.target, line.log ++ [.stop]⟩

variable (line : Logged σ) (byte : UInt8)

@[simp] theorem select_logged : Target.select line byte =
    (⟨(Target.select line.target byte).1,
      line.log ++ [.start byte (Target.select line.target byte).2]⟩,
      (Target.select line.target byte).2) := rfl

@[simp] theorem receive_logged : Target.receive line byte =
    (⟨(Target.receive line.target byte).1,
      line.log ++ [.write byte (Target.receive line.target byte).2]⟩,
      (Target.receive line.target byte).2) := rfl

@[simp] theorem release_logged :
    Target.release line = ⟨Target.release line.target, line.log ++ [.stop]⟩ := rfl

end Logged

end I2cBus
