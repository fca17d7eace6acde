import SmartMeter.Udp.Settings

/-!
The way of a time from the write command through the clock chip and the saved-time block
back into the reply to a read command.
-/

namespace SmartMeter

open StateSimulation

def Board.exrtcSave (sysTime : TimeDef) (board : Board) : Board :=
  { board with i2c := ((exrtcSaveTurn sysTime).run board.i2c).2 }

theorem exrtcSave_meter (sysTime : TimeDef) (board : Board) :
    (board.exrtcSave sysTime).meter = { board.meter with
      eeprom := writeSpan board.meter.eeprom 0 (savedTime (clockTime board.meter.rtc)) 7 } := by
  have ends := (exrtcSaveTurn_simulates sysTime board.i2c).2
  rw [saveClock_state] at ends
  simp only [Board.exrtcSave, Board.meter, ends]

theorem hour_flag {hour : UInt8} (within : hour ≤ 0x23) : (hour ||| 0x80) &&& 0x7F = hour := by
  have bound : hour.toNat ≤ 0x23 := UInt8.le_iff_toNat_le.mp within
  apply UInt8.toNat_inj.mp
  simp only [UInt8.toNat_and, UInt8.toNat_or, UInt8.reduceToNat, Nat.and_or_distrib_right]
  have low : hour.toNat &&& 127 = hour.toNat := by
    rw [Nat.and_two_pow_sub_one_eq_mod hour.toNat 7]
    omega
  rw [low]
  exact Nat.or_zero hour.toNat

theorem clockTime_clockRegisters (registers : UInt8 → UInt8) {time : TimeDef}
    (within : time.hour ≤ 0x23) : clockTime (clockRegisters registers time) = time := by
  have hour := hour_flag within
  simp [clockTime, clockRegisters, hour]

theorem timeWrite_of_inLimits {payload : Nat → UInt8} (within : InLimits payload) :
    timeWrite (fun offset => payload (offset - 3).toNat) =
      ⟨payload 0, payload 1, payload 2, payload 3, payload 4, payload 5, payload 6⟩ := by
  unfold timeWrite
  congr 1
  · exact clampField_of_le (within 0 (by omega))
  · exact clampField_of_le (within 1 (by omega))
  · exact clampField_of_le (within 2 (by omega))
  · exact clampField_of_le (within 3 (by omega))
  · exact clampField_of_le (within 4 (by omega))
  · exact clampField_of_le (within 5 (by omega))
  · exact clampField_of_le (within 6 (by omega))

theorem handle_time {write : Call} (accepted : write.handler = some .writeMeter)
    (address : write.address = 0x02) (within : InLimits write.payload) (board : Board) :
    clockTime (board.handle write).meter.rtc =
      if rtcUnlocked board.meter.rtc then
        ⟨write.payload 0, write.payload 1, write.payload 2, write.payload 3, write.payload 4,
          write.payload 5, write.payload 6⟩
      else clockTime board.meter.rtc := by
  have arm : writeArm write.address = some .time := by
    rw [address]
    decide
  have hour : write.payload 2 ≤ 0x23 := within 2 (by omega)
  rw [handle_write accepted, Meter.afterWrite, arm]
  simp only [WriteArm.effect, timeWrite_of_inLimits within]
  split
  · exact clockTime_clockRegisters _ hour
  · rfl

theorem timeQuery_payload {read : Call} (query : read.handler = some .readMeter)
    (address : read.address = 0x02) (sysTime : TimeDef) (board : Board) :
    replyPayload (builtAck read (board.exrtcSave sysTime)) =
      Buffer.toList (savedTime (clockTime board.meter.rtc)) 7 := by
  have found : readArm read.address = some (.block 0x0000 7) := by
    rw [address]
    decide
  rw [builtAck_read query found, replyPayload_frame, exrtcSave_meter]
  apply Buffer.toList_congr
  intro index bound
  exact writeSpan_inside _ _ _ (by decide) bound

/-- `Save_time` stores year, month, day, hour, minute, second and week where the frame has
second, minute, hour, week, day, month and year: only a payload of seven equal bytes comes
back, or, from a locked chip, one that is the old time in the saved order. -/
theorem timeQuery_eq_payload_iff (write read : Call) (board : Board) (sysTime : TimeDef)
    (accepted : write.handler = some .writeMeter) (address : write.address = 0x02)
    (within : InLimits write.payload) (query : read.handler = some .readMeter)
    (same : read.address = 0x02) :
    replyPayload (builtAck read ((board.handle write).exrtcSave sysTime)) =
        Buffer.toList write.payload 7 ↔
      if rtcUnlocked board.meter.rtc then ∀ index < 7, write.payload index = write.payload 0
      else ∀ index < 7, savedTime (clockTime board.meter.rtc) index = write.payload index := by
  rw [timeQuery_payload query same, handle_time accepted address within, Buffer.toList_inj]
  split
  · constructor
    · intro agree
      have order : write.payload 6 = write.payload 0 ∧ write.payload 5 = write.payload 1 ∧
          write.payload 4 = write.payload 2 ∧ write.payload 2 = write.payload 3 ∧
          write.payload 1 = write.payload 4 ∧ write.payload 0 = write.payload 5 ∧
          write.payload 3 = write.payload 6 :=
        ⟨agree 0 (by omega), agree 1 (by omega), agree 2 (by omega), agree 3 (by omega),
          agree 4 (by omega), agree 5 (by omega), agree 6 (by omega)⟩
      intro index bound
      match index, bound with
      | 0, _ => rfl
      | 1, _ => grind
      | 2, _ => grind
      | 3, _ => grind
      | 4, _ => grind
      | 5, _ => grind
      | 6, _ => grind
    · intro equal index bound
      have saved : savedTime ⟨write.payload 0, write.payload 1, write.payload 2, write.payload 3,
          write.payload 4, write.payload 5, write.payload 6⟩ index = write.payload 0 := by
        simp only [savedTime, equal 1 (by omega), equal 2 (by omega), equal 3 (by omega),
          equal 4 (by omega), equal 5 (by omega), equal 6 (by omega)]
        match index, bound with
        | 0, _ | 1, _ | 2, _ | 3, _ | 4, _ | 5, _ | 6, _ => rfl
      rw [saved, equal index bound]
  · rfl

def unlockedBoard : Board :=
  .holding (fun _ => 0) (fun register => if register = ctr1 then 0x84 else
    if register = ctr2 then 0x80 else 0)

theorem timeQuery_eq_payload_iff_sevens :
    replyPayload (builtAck (query 0x02) ((unlockedBoard.handle
      (command (fun _ => 0) 0x02 [7, 7, 7, 7, 7, 7, 7])).exrtcSave ⟨0, 0, 0, 0, 0, 0, 0⟩)) =
      [7, 7, 7, 7, 7, 7, 7] :=
  (timeQuery_eq_payload_iff (command (fun _ => 0) 0x02 [7, 7, 7, 7, 7, 7, 7]) (query 0x02)
    unlockedBoard ⟨0, 0, 0, 0, 0, 0, 0⟩ (by decide) (by decide) (by decide) (by decide)
    (by decide)).mpr (by decide)

theorem timeQuery_ne_payload :
    replyPayload (builtAck (query 0x02) ((unlockedBoard.handle
      (command (fun _ => 0) 0x02 [0x30, 0x15, 0x12, 0x03, 0x25, 0x06, 0x18])).exrtcSave
        ⟨0, 0, 0, 0, 0, 0, 0⟩)) ≠
      [0x30, 0x15, 0x12, 0x03, 0x25, 0x06, 0x18] := by
  decide +kernel

end SmartMeter
