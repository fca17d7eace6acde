import SmartMeter.Drivers.ExrtcCore
import SmartMeter.Library.Runs
import SmartMeter.Library.StateSimulation
import SmartMeter.Library.UnreliableBus

/-!
The functions of `wm_exrtc.c` that write registers of the clock chip, on a bus where every
byte may remain without acknowledge: when they find the chip unlocked and how they leave it.
-/

namespace SmartMeter

open I2cBus Runs StateSimulation

abbrev RtcBus := I2cController (Unreliable Rtc)

inductive RtcCall
  | writeDate (psRTC : TimeDef)
  | flagWriteDate (flag : UInt8)
  | writeSerial (address length : UInt8) (ps : Nat → UInt8)

def RtcCall.program : RtcCall → StateM RtcBus Bool
  | .writeDate psRTC => rtcWriteDate psRTC
  | .flagWriteDate flag => rtcFlagWriteDate flag
  | .writeSerial address length ps => i2cWriteSerial rtcAddress address length ps

/-- The chip when the call starts its own transfer, `WriteRTC_Enable` behind it if it calls that. -/
def RtcCall.opening (bus : RtcBus) : RtcCall → Unreliable Rtc
  | .writeDate _ => bus.target
  | .flagWriteDate _ | .writeSerial .. => (writeRtcEnable.run bus).2.target

def RtcCall.count : RtcCall → Nat
  | .writeDate _ => 7
  | .flagWriteDate _ => 1
  | .writeSerial _ length _ => length.toNat

/-- The registers as the data bytes of the call's own transfer find them; the byte in front
of these is the register address. -/
def RtcCall.issued (call : RtcCall) (bus : RtcBus) : List (UInt8 → UInt8) :=
  (((call.program.run bus).2.target.seen.map Device.cells).drop
    ((call.opening bus).seen.length + 1)).take call.count

structure KeepsLock (bus : RtcBus) (call : RtcCall) : Prop where
  unlocked : (call.program.run bus).1 = true →
    ∀ registers ∈ call.issued bus, rtcUnlocked registers = true
  locked : rtcUnlocked (call.program.run bus).2.target.target.cells = false

section Polling

variable {α : Type} (bus : RtcBus)

theorem tlsI2cWaitAck_of_release {line : Unreliable Rtc} {ack : Bool}
    (lost : ack = false → Target.release line = line) :
    tlsI2cWaitAck.run (⟨line, !ack⟩ : RtcBus) =
      pure (if ack then wmSuccess else wmFailed, ⟨line, !ack⟩) := by
  cases ack with
  | true => rfl
  | false =>
      change (pure (wmFailed, ⟨Target.release line, true⟩) : Id (Int × RtcBus)) = _
      rw [lost rfl]
      rfl

theorem poll_bind (byte : UInt8) (next : StateM RtcBus α) :
    (tlsI2cWriteByte byte 0 >>= fun _ => tlsI2cWaitAck >>= fun _ => next).run bus =
      next.run ⟨(Target.receive bus.target byte).1, !(Target.receive bus.target byte).2⟩ := by
  have polled := tlsI2cWaitAck_of_release (@release_receive _ _ _ bus.target byte)
  rw [run_bind, run_bind, tlsI2cWriteByte_next]
  simp only [pure_state, polled]

theorem start_bind (next : Int → StateM RtcBus α) :
    (tlsI2cWriteByte rtcAddress 1 >>= fun _ => tlsI2cWaitAck >>= next).run bus =
      (next (if bus.target.acks 0 then wmSuccess else wmFailed)).run
        ⟨(Target.select bus.target rtcAddress).1, !bus.target.acks 0⟩ := by
  have answer : (Target.select bus.target rtcAddress).2 = bus.target.acks 0 := Bool.and_true _
  have polled := tlsI2cWaitAck_of_release (@release_select _ _ _ bus.target rtcAddress)
  rw [answer] at polled
  rw [run_bind, run_bind, tlsI2cWriteByte_start, answer]
  simp only [pure_state, polled, pure_value]

end Polling

def enabled (line : Unreliable Rtc) : Unreliable Rtc :=
  if line.acks 0 then
    (line.transfer rtcAddress [ctr2, 0x80]).transfer rtcAddress [ctr1, 0x84]
  else line.transfer rtcAddress []

def disabled (line : Unreliable Rtc) : Unreliable Rtc :=
  if line.acks 0 then line.transfer rtcAddress [ctr1, 0x00, 0x00]
  else line.transfer rtcAddress []

theorem writeRtcEnable_target (bus : RtcBus) :
    (writeRtcEnable.run bus).2.target = enabled bus.target := by
  unfold writeRtcEnable enabled
  rw [start_bind]
  cases bus.target.acks 0 with
  | false => rfl
  | true =>
      rw [if_neg (by decide), poll_bind, poll_bind, run_bind, start_bind, poll_bind, poll_bind]
      rfl

theorem writeRtcDisable_target (bus : RtcBus) :
    (writeRtcDisable.run bus).2.target = disabled bus.target := by
  unfold writeRtcDisable disabled
  rw [start_bind]
  cases bus.target.acks 0 with
  | false => rfl
  | true =>
      rw [if_neg (by decide), poll_bind, poll_bind, poll_bind]
      rfl

def dateBytes (psRTC : TimeDef) : List UInt8 :=
  [psRTC.second, psRTC.minute, psRTC.hour ||| 0x80, psRTC.week, psRTC.day, psRTC.month, psRTC.year]

theorem rtcWriteDate_run (bus : RtcBus) (psRTC : TimeDef) :
    ((rtcWriteDate psRTC).run bus).1 = bus.target.acks 0 ∧
      ((rtcWriteDate psRTC).run bus).2.target =
        if bus.target.acks 0 then bus.target.transfer rtcAddress (0x00 :: dateBytes psRTC)
        else bus.target.transfer rtcAddress [] := by
  unfold rtcWriteDate
  rw [start_bind]
  cases bus.target.acks 0 with
  | false => exact ⟨rfl, rfl⟩
  | true =>
      rw [if_neg (by decide), poll_bind, poll_bind, poll_bind, poll_bind, poll_bind, poll_bind,
        poll_bind, poll_bind]
      exact ⟨rfl, rfl⟩

theorem rtcFlagWriteDate_run (bus : RtcBus) (flag : UInt8) :
    ((rtcFlagWriteDate flag).run bus).1 = (enabled bus.target).acks 0 ∧
      ((rtcFlagWriteDate flag).run bus).2.target =
        if (enabled bus.target).acks 0 then
          disabled ((enabled bus.target).transfer rtcAddress [0x2C, flag])
        else (enabled bus.target).transfer rtcAddress [] := by
  unfold rtcFlagWriteDate
  dsimp only
  rw [run_bind, start_bind, writeRtcEnable_target]
  cases (enabled bus.target).acks 0 with
  | false => exact ⟨rfl, rfl⟩
  | true =>
      rw [if_neg (by decide), poll_bind, poll_bind, run_bind, run_bind]
      refine ⟨rfl, ?_⟩
      change (writeRtcDisable.run _).2.target = _
      rw [writeRtcDisable_target]
      rfl

theorem i2cWriteSerialFrom_target (left index : Nat) (ps : Nat → UInt8) (bus : RtcBus) :
    ((i2cWriteSerialFrom left index ps).run bus).2.target =
      bus.target.send ((List.range' index left).map ps) := by
  induction left generalizing index bus with
  | zero => rfl
  | succ left ih =>
      rw [i2cWriteSerialFrom, run_bind, ih, tlsI2cWriteByte_next]
      rfl

theorem i2cWriteSerial_run (bus : RtcBus) (address length : UInt8) (ps : Nat → UInt8) :
    ((i2cWriteSerial rtcAddress address length ps).run bus).1 = !(enabled bus.target).acks 0 ∧
      ((i2cWriteSerial rtcAddress address length ps).run bus).2.target =
        if (enabled bus.target).acks 0 then (enabled bus.target).transfer rtcAddress []
        else disabled ((enabled bus.target).transfer rtcAddress
          (address :: (List.range' 0 length.toNat).map ps)) := by
  unfold i2cWriteSerial
  rw [if_pos rfl, run_bind, start_bind, writeRtcEnable_target]
  cases (enabled bus.target).acks 0 with
  | true => exact ⟨rfl, rfl⟩
  | false =>
      rw [if_neg (by decide), poll_bind, run_bind, run_bind]
      refine ⟨rfl, ?_⟩
      change (writeRtcDisable.run _).2.target = _
      rw [writeRtcDisable_target]
      change disabled (Target.release ((i2cWriteSerialFrom length.toNat 0 ps).run _).2.target) = _
      rw [i2cWriteSerialFrom_target]
      rfl

theorem rtcUnlocked_store {registers : UInt8 → UInt8} {pointer : UInt8}
    (apart : pointer ≠ ctr1 ∧ pointer ≠ ctr2) (byte : UInt8) :
    rtcUnlocked (rtcChip.store registers pointer byte) = rtcUnlocked registers := by
  unfold Layout.store
  split
  · simp only [rtcUnlocked, Function.update_of_ne apart.1.symm, Function.update_of_ne apart.2.symm]
  · rfl

theorem rtcUnlocked_stored {registers : UInt8 → UInt8} {pointer : UInt8} {bytes : List UInt8}
    (apart : ∀ index < bytes.length,
      pointer + UInt8.ofNat index ≠ ctr1 ∧ pointer + UInt8.ofNat index ≠ ctr2)
    (acks : Nat → Bool) :
    rtcUnlocked (Device.stored (⟨registers, pointer, .pointing 0⟩ : Rtc) acks bytes) =
      rtcUnlocked registers := by
  induction bytes generalizing registers pointer acks with
  | nil => rfl
  | cons byte rest ih =>
      have first : pointer ≠ ctr1 ∧ pointer ≠ ctr2 := by
        simpa using apart 0 (Nat.zero_lt_succ _)
      rw [stored_data]
      split
      · rw [ih, rtcUnlocked_store first]
        intro index bound
        have next : rtcChip.next pointer + UInt8.ofNat index = pointer + UInt8.ofNat (index + 1) := by
          rw [UInt8.ofNat_add]
          change pointer + 1 + _ = _
          rw [UInt8.add_assoc, UInt8.add_comm 1]
          rfl
        rw [next]
        exact apart (index + 1) (Nat.succ_lt_succ bound)
      · rfl

theorem stored_register (line : Unreliable Rtc) (pointer : UInt8) (bytes : List UInt8) :
    line.stored (pointer :: bytes) =
      if line.acks 0 && line.acks 1 then
        Device.stored (⟨line.target.cells, pointer, .pointing 0⟩ : Rtc)
          (fun index => line.acks (index + 2)) bytes
      else line.target.cells := by
  unfold Unreliable.stored
  cases line.acks 0 with
  | false => rfl
  | true =>
      exact @stored_address UInt8 _ rtcChip line.target.cells line.target.pointer 0
        (fun index => line.acks (index + 1)) pointer bytes

theorem rtcUnlocked_transfer (line : Unreliable Rtc) {address : UInt8} {bytes : List UInt8}
    (apart : ∀ index < bytes.length,
      address + UInt8.ofNat index ≠ ctr1 ∧ address + UInt8.ofNat index ≠ ctr2) (count : Nat) :
    rtcUnlocked (line.stored ((address :: bytes).take count)) = rtcUnlocked line.target.cells := by
  cases count with
  | zero =>
      unfold Unreliable.stored
      split
      · rfl
      · rfl
  | succ count =>
      rw [List.take_succ_cons, stored_register]
      split
      · refine rtcUnlocked_stored (fun index bound => apart index ?_) _
        exact Nat.lt_of_lt_of_le bound (List.length_take_le' count bytes)
      · rfl

theorem transfer_register (line : Unreliable Rtc) (pointer value : UInt8) :
    (line.transfer rtcAddress [pointer, value]).target.cells =
      if line.acks 0 && line.acks 1 && line.acks 2 then
        rtcChip.store line.target.cells pointer value
      else line.target.cells := by
  refine (transfer_cells line _).trans ?_
  rw [stored_register, stored_data]
  cases line.acks 0 && line.acks 1 with
  | false => rfl
  | true => rfl

theorem transfer_nothing (line : Unreliable Rtc) :
    (line.transfer rtcAddress []).target.cells = line.target.cells := by
  refine (transfer_cells line []).trans ?_
  unfold Unreliable.stored
  split
  · rfl
  · rfl

def unlockedByEnable (registers : UInt8 → UInt8) (acks : Nat → Bool) : Bool :=
  if acks 0 then
    (acks 1 && acks 2 || registers ctr2 &&& 0x80 == 0x80) &&
      (acks 3 && acks 4 && acks 5 || registers ctr1 &&& 0x84 == 0x84)
  else rtcUnlocked registers

def sentByEnable (acks : Nat → Bool) : Nat :=
  if acks 0 then 6 else 1

theorem enabled_acks (line : Unreliable Rtc) (index : Nat) :
    (enabled line).acks index = line.acks (index + sentByEnable line.acks) := by
  unfold enabled sentByEnable
  split
  · rw [transfer_acks, transfer_acks]
    rfl
  · rw [transfer_acks]
    rfl

theorem store_control {pointer : UInt8} (control : pointer = ctr1 ∨ pointer = ctr2)
    (registers : UInt8 → UInt8) (byte : UInt8) :
    rtcChip.store registers pointer byte = Function.update registers pointer byte := by
  rcases control with rfl | rfl
  · rfl
  · rfl

theorem rtcUnlocked_enabled (line : Unreliable Rtc) :
    rtcUnlocked (enabled line).target.cells = unlockedByEnable line.target.cells line.acks := by
  unfold enabled unlockedByEnable
  cases first : line.acks 0 with
  | false =>
      simp only [Bool.false_eq_true, if_false]
      rw [transfer_nothing]
  | true =>
      have other : ctr1 ≠ ctr2 := by decide
      simp only [if_true]
      rw [transfer_register, transfer_register, store_control (.inl rfl), store_control (.inr rfl)]
      simp only [transfer_acks, List.length_cons, List.length_nil, first, Bool.true_and]
      cases line.acks 1 && line.acks 2 with
      | false =>
          cases line.acks 3 && line.acks 4 && line.acks 5 with
          | false => rfl
          | true => simp [rtcUnlocked, other.symm]
      | true =>
          cases line.acks 3 && line.acks 4 && line.acks 5 with
          | false => simp [rtcUnlocked, other]
          | true => simp [rtcUnlocked, other.symm]

theorem lock_first (registers : UInt8 → UInt8) (acks : Nat → Bool) :
    rtcUnlocked (Device.stored (⟨rtcChip.store registers ctr1 0x00, rtcChip.next ctr1, .pointing 0⟩ : Rtc)
      acks [0x00]) = false := by
  have next : rtcChip.next ctr1 = ctr2 := rfl
  have other : ctr1 ≠ ctr2 := by decide
  rw [stored_data, next, store_control (.inl rfl), store_control (.inr rfl)]
  split
  · simp [Device.stored, rtcUnlocked, other]
  · simp [rtcUnlocked]

theorem rtcUnlocked_disabled (line : Unreliable Rtc) :
    rtcUnlocked (disabled line).target.cells =
      (rtcUnlocked line.target.cells && !(line.acks 0 && line.acks 1 && line.acks 2)) := by
  unfold disabled
  cases first : line.acks 0 with
  | false =>
      simp only [Bool.false_eq_true, if_false]
      rw [transfer_nothing]
      simp
  | true =>
      simp only [if_true]
      rw [show (line.transfer rtcAddress [ctr1, 0x00, 0x00]).target.cells = _ from
        transfer_cells line _, stored_register, stored_data, first]
      cases line.acks 1 with
      | false => simp
      | true =>
          cases line.acks 2 with
          | false => simp
          | true =>
              simp only [Bool.and_self, if_true, Bool.not_true, Bool.and_false]
              exact lock_first _ _

theorem disabled_seen (line : Unreliable Rtc) :
    ∃ later, (disabled line).seen.map Device.cells = line.seen.map Device.cells ++ later := by
  unfold disabled
  split
  · exact ⟨_, transfer_seen line _⟩
  · exact ⟨_, transfer_seen line _⟩

theorem issued_eq {call : RtcCall} {bus : RtcBus} {bytes : List UInt8}
    {later : List (UInt8 → UInt8)} (size : bytes.length = call.count + 1)
    (seen : (call.program.run bus).2.target.seen.map Device.cells =
      ((call.opening bus).transfer rtcAddress bytes).seen.map Device.cells ++ later) :
    call.issued bus = (List.range call.count).map fun index =>
      (call.opening bus).stored (bytes.take (index + 1)) := by
  unfold RtcCall.issued
  rw [seen, show ((call.opening bus).transfer rtcAddress bytes).seen.map Device.cells = _ from
    transfer_seen _ bytes, size, List.range_succ_eq_map, List.map_cons, List.map_map, List.append_assoc,
    ← List.drop_drop, List.drop_left' (List.length_map _)]
  exact List.take_left' (by simp)

/-- A transfer that leaves the write bits alone finds the chip locked or unlocked throughout. -/
theorem issued_unlocked_iff {call : RtcCall} {bus : RtcBus} {bytes : List UInt8}
    {later : List (UInt8 → UInt8)} (size : bytes.length = call.count + 1)
    (seen : (call.program.run bus).2.target.seen.map Device.cells =
      ((call.opening bus).transfer rtcAddress bytes).seen.map Device.cells ++ later)
    (neutral : ∀ count, rtcUnlocked ((call.opening bus).stored (bytes.take count)) =
      rtcUnlocked (call.opening bus).target.cells) :
    (∀ registers ∈ call.issued bus, rtcUnlocked registers = true) ↔
      call.count = 0 ∨ rtcUnlocked (call.opening bus).target.cells = true := by
  rw [issued_eq size seen]
  constructor
  · intro every
    cases count : call.count with
    | zero => exact .inl rfl
    | succ count' =>
        right
        rw [← neutral 1]
        apply every
        exact List.mem_map.mpr ⟨0, List.mem_range.mpr (by omega), rfl⟩
  · intro either registers inside
    obtain ⟨index, bound, rfl⟩ := List.mem_map.mp inside
    rw [neutral]
    rcases either with zero | unlocked
    · rw [zero] at bound
      simp at bound
    · exact unlocked

/-- `acks` counts from the first byte of the call on; the call's own address byte is the one
behind those of `WriteRTC_Enable`. -/
def LockFits (bus : RtcBus) (call : RtcCall) : Prop :=
  let acks := bus.target.acks
  let registers := bus.target.target.cells
  let own := sentByEnable acks
  match call with
  | .writeDate _ => rtcUnlocked registers = false ∧ acks 0 = false
  | .flagWriteDate _ =>
      if acks own then
        unlockedByEnable registers acks = true ∧ acks (own + 3) && acks (own + 4) && acks (own + 5)
      else unlockedByEnable registers acks = false
  | .writeSerial _ length _ =>
      if acks own then unlockedByEnable registers acks = false
      else if unlockedByEnable registers acks then
        acks (own + length.toNat + 2) && acks (own + length.toNat + 3) && acks (own + length.toNat + 4)
      else length = 0

section Calls

variable (call : RtcCall) (bus : RtcBus)

theorem keepsLock_refused (result : (call.program.run bus).1 = false)
    (target : (call.program.run bus).2.target = (call.opening bus).transfer rtcAddress []) :
    KeepsLock bus call ↔ rtcUnlocked (call.opening bus).target.cells = false := by
  have same : (call.program.run bus).2.target.target.cells = (call.opening bus).target.cells := by
    rw [target, transfer_nothing]
  constructor
  · rintro ⟨_, locked⟩
    rwa [same] at locked
  · intro locked
    refine ⟨fun reported => ?_, by rwa [same]⟩
    rw [result] at reported
    cases reported

theorem keepsLock_reported {bytes : List UInt8} {later : List (UInt8 → UInt8)}
    (result : (call.program.run bus).1 = true) (size : bytes.length = call.count + 1)
    (seen : (call.program.run bus).2.target.seen.map Device.cells =
      ((call.opening bus).transfer rtcAddress bytes).seen.map Device.cells ++ later)
    (neutral : ∀ count, rtcUnlocked ((call.opening bus).stored (bytes.take count)) =
      rtcUnlocked (call.opening bus).target.cells) :
    KeepsLock bus call ↔
      (call.count = 0 ∨ rtcUnlocked (call.opening bus).target.cells = true) ∧
        rtcUnlocked (call.program.run bus).2.target.target.cells = false := by
  rw [← issued_unlocked_iff size seen neutral]
  constructor
  · rintro ⟨unlocked, locked⟩
    exact ⟨unlocked result, locked⟩
  · rintro ⟨unlocked, locked⟩
    exact ⟨fun _ => unlocked, locked⟩

theorem rtcUnlocked_after {line : Unreliable Rtc} {bytes : List UInt8}
    (neutral : ∀ count, rtcUnlocked (line.stored (bytes.take count)) = rtcUnlocked line.target.cells) :
    rtcUnlocked (line.transfer rtcAddress bytes).target.cells = rtcUnlocked line.target.cells := by
  have whole := neutral bytes.length
  rw [List.take_length] at whole
  rw [← whole]
  exact congrArg rtcUnlocked (transfer_cells line bytes)

end Calls

theorem closing_acks (line : Unreliable Rtc) (bytes : List UInt8) (index : Nat) :
    ((enabled line).transfer rtcAddress bytes).acks index =
      line.acks (sentByEnable line.acks + bytes.length + (index + 1)) := by
  rw [transfer_acks, enabled_acks]
  congr 1
  omega

theorem writeDate_keepsLock_iff (bus : RtcBus) (psRTC : TimeDef) :
    KeepsLock bus (.writeDate psRTC) ↔ LockFits bus (.writeDate psRTC) := by
  obtain ⟨result, target⟩ := rtcWriteDate_run bus psRTC
  have apart : ∀ index < (dateBytes psRTC).length,
      (0x00 : UInt8) + UInt8.ofNat index ≠ ctr1 ∧ (0x00 : UInt8) + UInt8.ofNat index ≠ ctr2 := by
    change ∀ index < 7, _
    decide
  have neutral := rtcUnlocked_transfer bus.target apart
  simp only [LockFits]
  cases ack : bus.target.acks 0 with
  | false =>
      simp only [ack, Bool.false_eq_true, if_false] at result target
      refine (keepsLock_refused (.writeDate psRTC) bus result target).trans ?_
      exact (and_iff_left rfl).symm
  | true =>
      simp only [ack, if_true] at result target
      have seen : ((rtcWriteDate psRTC).run bus).2.target.seen.map Device.cells =
          (bus.target.transfer rtcAddress (0x00 :: dateBytes psRTC)).seen.map Device.cells ++ [] := by
        rw [target, List.append_nil]
      refine (keepsLock_reported (.writeDate psRTC) bus result rfl seen neutral).trans ?_
      -- The write bits would have to be set during the transfer and clear after it.
      change (7 = 0 ∨ rtcUnlocked bus.target.target.cells = true) ∧
        rtcUnlocked ((rtcWriteDate psRTC).run bus).2.target.target.cells = false ↔ _
      rw [target, rtcUnlocked_after neutral]
      simp

theorem flagWriteDate_keepsLock_iff (bus : RtcBus) (flag : UInt8) :
    KeepsLock bus (.flagWriteDate flag) ↔ LockFits bus (.flagWriteDate flag) := by
  obtain ⟨result, target⟩ := rtcFlagWriteDate_run bus flag
  have opening : RtcCall.opening bus (.flagWriteDate flag) = enabled bus.target :=
    writeRtcEnable_target bus
  have apart : ∀ index < [flag].length,
      (0x2C : UInt8) + UInt8.ofNat index ≠ ctr1 ∧ (0x2C : UInt8) + UInt8.ofNat index ≠ ctr2 := by
    change ∀ index < 1, _
    decide
  have neutral := rtcUnlocked_transfer (enabled bus.target) apart
  have own := enabled_acks bus.target 0
  rw [Nat.zero_add] at own
  simp only [LockFits, ← own, ← rtcUnlocked_enabled]
  cases ack : (enabled bus.target).acks 0 with
  | false =>
      simp only [ack, Bool.false_eq_true, if_false] at result target
      refine (keepsLock_refused (.flagWriteDate flag) bus result (opening.symm ▸ target)).trans ?_
      rw [opening]
      rfl
  | true =>
      simp only [ack, if_true] at result target
      obtain ⟨later, closing⟩ := disabled_seen ((enabled bus.target).transfer rtcAddress [0x2C, flag])
      rw [← target, ← opening] at closing
      refine (keepsLock_reported (.flagWriteDate flag) bus result rfl closing
        (opening.symm ▸ neutral)).trans ?_
      change (1 = 0 ∨ _) ∧ rtcUnlocked ((rtcFlagWriteDate flag).run bus).2.target.target.cells = false ↔ _
      rw [target, rtcUnlocked_disabled, rtcUnlocked_after neutral, opening]
      rw [closing_acks, closing_acks, closing_acks]
      cases rtcUnlocked (enabled bus.target).target.cells with
      | false => simp
      | true => simp

theorem writeSerial_keepsLock_iff (bus : RtcBus) (address length : UInt8) (ps : Nat → UInt8) :
    KeepsLock bus (.writeSerial address length ps) ↔ LockFits bus (.writeSerial address length ps) := by
  obtain ⟨result, target⟩ := i2cWriteSerial_run bus address length ps
  have opening : RtcCall.opening bus (.writeSerial address length ps) = enabled bus.target :=
    writeRtcEnable_target bus
  have own := enabled_acks bus.target 0
  rw [Nat.zero_add] at own
  simp only [LockFits, ← own, ← rtcUnlocked_enabled]
  cases ack : (enabled bus.target).acks 0 with
  | true =>
      simp only [ack, if_true, Bool.not_true] at result target
      refine (keepsLock_refused (.writeSerial address length ps) bus result
        (opening.symm ▸ target)).trans ?_
      rw [opening]
      rfl
  | false =>
      simp only [ack, Bool.false_eq_true, if_false, Bool.not_false] at result target
      generalize bytes : address :: (List.range' 0 length.toNat).map ps = sent at target
      have size : sent.length = length.toNat + 1 := by
        rw [← bytes]
        simp
      -- Without an acknowledge of the address no byte of the transfer reaches the chip.
      have neutral (count : Nat) : rtcUnlocked ((enabled bus.target).stored (sent.take count)) =
          rtcUnlocked (enabled bus.target).target.cells := by
        rw [Unreliable.stored, ack]
        rfl
      obtain ⟨later, closing⟩ := disabled_seen ((enabled bus.target).transfer rtcAddress sent)
      rw [← target, ← opening] at closing
      refine (keepsLock_reported (.writeSerial address length ps) bus result size closing
        (opening.symm ▸ neutral)).trans ?_
      change (length.toNat = 0 ∨ _) ∧
        rtcUnlocked ((i2cWriteSerial rtcAddress address length ps).run bus).2.target.target.cells = false ↔ _
      rw [target, rtcUnlocked_disabled, rtcUnlocked_after neutral, opening, closing_acks, closing_acks,
        closing_acks, size]
      have zero : length.toNat = 0 ↔ length = 0 := UInt8.toNat_inj (b := 0)
      cases rtcUnlocked (enabled bus.target).target.cells with
      | false => simp [zero]
      | true => simp [zero, Nat.add_assoc]

theorem keepsLock_iff (bus : RtcBus) (call : RtcCall) : KeepsLock bus call ↔ LockFits bus call := by
  cases call with
  | writeDate psRTC => exact writeDate_keepsLock_iff bus psRTC
  | flagWriteDate flag => exact flagWriteDate_keepsLock_iff bus flag
  | writeSerial address length ps => exact writeSerial_keepsLock_iff bus address length ps

def RtcBus.step (bus : RtcBus) (call : RtcCall) : RtcBus :=
  (call.program.run bus).2

/-- `RTC_WriteDate` never unlocks, so it may only run into a missing acknowledge;
`RTCFlag_WriteDate` returns without locking when its address byte is not acknowledged, and
`I2CWriteSerial` when it is. -/
theorem run_keepsLock_iff (bus : RtcBus) (calls : List RtcCall) :
    Along RtcBus.step KeepsLock bus calls ↔ Along RtcBus.step LockFits bus calls :=
  along_iff_along keepsLock_iff bus calls

def lockedBus : RtcBus :=
  ⟨⟨⟨fun _ => 0, 0, .idle⟩, fun _ => true, []⟩, false⟩

theorem writeSerial_not_keepsLock :
    ¬Along RtcBus.step KeepsLock lockedBus [.writeSerial 0x2C 1 fun _ => 0x55] := by
  rintro ⟨keeps, _⟩
  have locked : unlockedByEnable (fun _ => 0) (fun _ => true) = false := (keepsLock_iff _ _).mp keeps
  exact absurd locked (by decide)

end SmartMeter
