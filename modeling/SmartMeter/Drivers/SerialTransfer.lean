import SmartMeter.Drivers.ExrtcCore
import SmartMeter.Library.BusLog
import SmartMeter.Library.StateSimulation

/-!
`I2CWriteSerial` and `I2CReadSerial` of `wm_exrtc.c` on a bus whose bytes are recorded. Both
take the zero that `tls_i2c_wait_ack` returns for success as a missing acknowledge.
-/

namespace SmartMeter

open I2cBus StateSimulation

section

variable {σ : Type} [Target σ]

/-- The turns of the loop and the read behind it, which ends the transfer. -/
def i2cReadSerialFrom : Nat → Nat → (Nat → UInt8) → StateM (I2cController σ) (Nat → UInt8)
  | 0, index, ps => do
      let data ← tlsI2cReadByte 0 1
      return Function.update ps index data
  | left + 1, index, ps => do
      let data ← tlsI2cReadByte 1 0
      i2cReadSerialFrom left (index + 1) (Function.update ps index data)

-- `--length > 0` on an `u8`: a length of zero wraps to 255 turns.
def i2cReadSerial (deviceAddress address length : UInt8) (ps : Nat → UInt8) :
    StateM (I2cController σ) (Bool × (Nat → UInt8)) := do
  tlsI2cWriteByte deviceAddress 1
  if (← tlsI2cWaitAck) = 0 then
    tlsI2cStop
    return (false, ps)
  tlsI2cWriteByte address 0
  let _ ← tlsI2cWaitAck
  tlsI2cWriteByte (deviceAddress + 1) 1
  let _ ← tlsI2cWaitAck
  let ps ← i2cReadSerialFrom (length - 1).toNat 0 ps
  return (true, ps)

def writeTransfer (deviceAddress address length : UInt8) (ps : Nat → UInt8) :
    StateM (I2cController σ) Bool := do
  tlsI2cWriteByte deviceAddress 1
  if (← tlsI2cWaitAck) = 0 then
    tlsI2cStop
    return false
  tlsI2cWriteByte address 0
  let _ ← tlsI2cWaitAck
  i2cWriteSerialFrom length.toNat 0 ps
  tlsI2cStop
  return true

def openTransfer (deviceAddress : UInt8) : StateM (I2cController σ) Unit := do
  if deviceAddress = rtcAddress then
    let _ ← writeRtcEnable

def closeTransfer (deviceAddress : UInt8) (done : Bool) : StateM (I2cController σ) Bool := do
  if done && deviceAddress = rtcAddress then
    let _ ← writeRtcDisable
  return done

theorem i2cWriteSerial_eq (deviceAddress address length : UInt8) (ps : Nat → UInt8) :
    (i2cWriteSerial deviceAddress address length ps : StateM (I2cController σ) Bool) = (do
      openTransfer deviceAddress
      let done ← writeTransfer deviceAddress address length ps
      closeTransfer deviceAddress done) := by
  unfold i2cWriteSerial openTransfer writeTransfer closeTransfer
  by_cases rtc : deviceAddress = rtcAddress
  · simp only [rtc, if_true, bind_assoc, pure_bind]
    refine bind_congr fun _ => bind_congr fun _ => bind_congr fun answer => ?_
    split <;> simp
  · simp [rtc]

end

section Laws

variable {σ : Type} [Target σ]

def addressed (bus : I2cController (Logged σ)) (deviceAddress : UInt8) : Bool :=
  (Target.select bus.target.target deviceAddress).2

def opened (bus : I2cController (Logged σ)) (deviceAddress : UInt8) : I2cController (Logged σ) :=
  ((openTransfer deviceAddress).run bus).2

def eventsSince (before after : I2cController (Logged σ)) : List BusEvent :=
  after.target.log.drop before.target.log.length

variable (bus : I2cController (Logged σ)) (deviceAddress address length : UInt8) (ps : Nat → UInt8)

def writeEvents : List BusEvent :=
  eventsSince (opened bus deviceAddress)
    ((writeTransfer deviceAddress address length ps).run (opened bus deviceAddress)).2

def readEvents : List BusEvent :=
  eventsSince bus ((i2cReadSerial deviceAddress address length ps).run bus).2

/-- The first byte that is written is the register address. -/
structure WriteLaw : Prop where
  accepted : addressed (opened bus deviceAddress) deviceAddress = true → 1 ≤ length.toNat →
    ((i2cWriteSerial deviceAddress address length ps).run bus).1 = true
  exactly : addressed (opened bus deviceAddress) deviceAddress = true →
    (written (writeEvents bus deviceAddress address length ps)).drop 1 =
      (List.range length.toNat).map ps
  refused : addressed (opened bus deviceAddress) deviceAddress = false →
    ((i2cWriteSerial deviceAddress address length ps).run bus).1 = false ∧
      .stop ∈ writeEvents bus deviceAddress address length ps ∧
      (written (writeEvents bus deviceAddress address length ps)).drop 1 = []

structure ReadLaw : Prop where
  accepted : addressed bus deviceAddress = true → 1 ≤ length.toNat →
    ((i2cReadSerial deviceAddress address length ps).run bus).1.1 = true
  exactly : addressed bus deviceAddress = true →
    (fetched (readEvents bus deviceAddress address length ps)).length = length.toNat
  refused : addressed bus deviceAddress = false →
    ((i2cReadSerial deviceAddress address length ps).run bus).1.1 = false ∧
      .stop ∈ readEvents bus deviceAddress address length ps ∧
      fetched (readEvents bus deviceAddress address length ps) = []

def afterWrite : I2cController (Logged σ) :=
  ((i2cWriteSerial deviceAddress address length ps).run bus).2

/-- A block that is written and read back into `into`, on a bus that acknowledges every byte. -/
structure SerialLaw (into : Nat → UInt8) : Prop where
  write : WriteLaw bus deviceAddress address length ps
  read : ReadLaw (afterWrite bus deviceAddress address length ps) deviceAddress address length into
  roundTrip :
    let read := (i2cReadSerial deviceAddress address length into).run
      (afterWrite bus deviceAddress address length ps)
    (∀ event ∈ eventsSince bus read.2, event.acked = true) → 1 ≤ length.toNat →
      ((i2cWriteSerial deviceAddress address length ps).run bus).1 = true ∧ read.1.1 = true ∧
        ∀ index < length.toNat, read.1.2 index = ps index

theorem closeTransfer_result (bus : I2cController (Logged σ)) (deviceAddress : UInt8) (done : Bool) :
    ((closeTransfer deviceAddress done).run bus).1 = done := by
  unfold closeTransfer
  split
  · rw [run_bind, StateT.run_pure, pure_value]
  · rfl

theorem i2cWriteSerial_result :
    ((i2cWriteSerial deviceAddress address length ps).run bus).1 =
      ((writeTransfer deviceAddress address length ps).run (opened bus deviceAddress)).1 := by
  rw [i2cWriteSerial_eq, run_bind, run_bind, closeTransfer_result]
  rfl

variable {bus deviceAddress}

/-- An acknowledge that fails to come is followed by a stop condition. -/
theorem start_bind_logged {α : Type} (next : Int → StateM (I2cController (Logged σ)) α) :
    (tlsI2cWriteByte deviceAddress 1 >>= fun _ => tlsI2cWaitAck >>= next).run bus =
      if addressed bus deviceAddress then
        (next wmSuccess).run ⟨⟨(Target.select bus.target.target deviceAddress).1,
          bus.target.log ++ [.start deviceAddress true]⟩, false⟩
      else
        (next wmFailed).run ⟨⟨Target.release (Target.select bus.target.target deviceAddress).1,
          bus.target.log ++ [.start deviceAddress false] ++ [.stop]⟩, true⟩ := by
  rw [run_bind, run_bind, tlsI2cWriteByte_start, select_logged]
  unfold addressed
  cases (Target.select bus.target.target deviceAddress).2 with
  | true => rfl
  | false => rfl

theorem writeTransfer_acked (acked : addressed bus deviceAddress = true) :
    (writeTransfer deviceAddress address length ps).run bus =
      pure (false, ⟨⟨Target.release (Target.select bus.target.target deviceAddress).1,
        bus.target.log ++ [.start deviceAddress true] ++ [.stop]⟩, false⟩) := by
  unfold writeTransfer
  rw [start_bind_logged, if_pos acked]
  rfl

theorem writeTransfer_refused (refused : addressed bus deviceAddress = false) :
    ((writeTransfer deviceAddress address length ps).run bus).1 = true := by
  unfold writeTransfer
  rw [start_bind_logged, refused, if_neg (by decide), if_neg (by decide), run_bind, run_bind,
    run_bind, run_bind, StateT.run_pure, pure_value]

theorem i2cReadSerial_acked (acked : addressed bus deviceAddress = true) :
    (i2cReadSerial deviceAddress address length ps).run bus =
      pure ((false, ps), ⟨⟨Target.release (Target.select bus.target.target deviceAddress).1,
        bus.target.log ++ [.start deviceAddress true] ++ [.stop]⟩, false⟩) := by
  unfold i2cReadSerial
  rw [start_bind_logged, if_pos acked]
  rfl

theorem i2cReadSerial_refused (refused : addressed bus deviceAddress = false) :
    ((i2cReadSerial deviceAddress address length ps).run bus).1.1 = true := by
  unfold i2cReadSerial
  rw [start_bind_logged, refused, if_neg (by decide), if_neg (by decide), run_bind, run_bind,
    run_bind, run_bind, run_bind, StateT.run_pure, pure_value]

theorem writeEvents_acked (acked : addressed (opened bus deviceAddress) deviceAddress = true) :
    writeEvents bus deviceAddress address length ps = [.start deviceAddress true, .stop] := by
  unfold writeEvents eventsSince
  rw [writeTransfer_acked address length ps acked, pure_state, List.append_assoc, List.drop_left]
  rfl

theorem readEvents_acked (acked : addressed bus deviceAddress = true) :
    readEvents bus deviceAddress address length ps = [.start deviceAddress true, .stop] := by
  unfold readEvents eventsSince
  rw [i2cReadSerial_acked address length ps acked, pure_state, List.append_assoc, List.drop_left]
  rfl

/-- The inverted test leaves nothing of the law but empty blocks. -/
theorem serialLaw_iff (into : Nat → UInt8) :
    SerialLaw bus deviceAddress address length ps into ↔
      addressed (opened bus deviceAddress) deviceAddress = true ∧
        addressed (afterWrite bus deviceAddress address length ps) deviceAddress = true ∧
        length = 0 := by
  constructor
  · rintro ⟨write, read, _⟩
    have writeAcked : addressed (opened bus deviceAddress) deviceAddress = true := by
      refine Bool.of_not_eq_false fun refused => ?_
      have result := (write.refused refused).1
      rw [i2cWriteSerial_result, writeTransfer_refused _ _ _ refused] at result
      cases result
    have readAcked : addressed (afterWrite bus deviceAddress address length ps) deviceAddress = true := by
      refine Bool.of_not_eq_false fun refused => ?_
      have result := (read.refused refused).1
      rw [i2cReadSerial_refused _ _ _ refused] at result
      cases result
    refine ⟨writeAcked, readAcked, ?_⟩
    have count := read.exactly readAcked
    rw [readEvents_acked _ _ _ readAcked] at count
    exact UInt8.toNat_inj.mp count.symm
  · rintro ⟨writeAcked, readAcked, rfl⟩
    have none_sent : ¬1 ≤ (0 : UInt8).toNat := by decide
    refine ⟨⟨?_, ?_, ?_⟩, ⟨?_, ?_, ?_⟩, ?_⟩
    · intro _ some_sent
      exact absurd some_sent none_sent
    · intro acked
      rw [writeEvents_acked _ _ _ acked]
      rfl
    · intro refused
      rw [writeAcked] at refused
      cases refused
    · intro _ some_sent
      exact absurd some_sent none_sent
    · intro acked
      rw [readEvents_acked _ _ _ acked]
      rfl
    · intro refused
      rw [readAcked] at refused
      cases refused
    · intro _ _ some_sent
      exact absurd some_sent none_sent

end Laws

def serialBus : I2cController (Logged Rtc) :=
  ⟨⟨⟨fun _ => 0, 0, .idle⟩, []⟩, false⟩

/-- One byte for register 0x11 of a chip that acknowledges everything. -/
theorem serialBus_not_serialLaw : ¬SerialLaw serialBus rtcAddress 0x11 1 (fun _ => 0x5A) fun _ => 0 := by
  intro law
  have acked : addressed (opened serialBus rtcAddress) rtcAddress = true := by decide +kernel
  have result := law.write.accepted acked (by decide)
  rw [i2cWriteSerial_result, writeTransfer_acked _ _ _ acked] at result
  cases result

end SmartMeter
