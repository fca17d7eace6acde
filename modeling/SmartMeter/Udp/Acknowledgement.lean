import SmartMeter.Udp.MeterModel

/-! What an acknowledgement says about the command it answers. -/

namespace SmartMeter

def requestedRelay (status : UInt8) : Bool :=
  decide (status ≠ 0)

/-- The third byte after the head of the reply is `isOK`. -/
def RelayTruthful (call : Call) (board : Board) : Prop :=
  ((builtAck call board)[3]? = some 1 ↔
    (board.handle call).meter.relay = requestedRelay (call.payload 0)) ∧
  ((builtAck call board)[3]? = some 0 → (board.handle call).meter.relay = board.meter.relay)

theorem handle_relay {call : Call} (accepted : call.handler = some .writeMeter)
    (address : call.address = 0x01) (board : Board) :
    (board.handle call).meter.relay = requestedRelay (call.payload 0) := by
  have arm : writeArm call.address = some .relay := by
    rw [address]
    decide
  rw [handle_write accepted, Meter.afterWrite, arm]
  rfl

theorem builtAck_relay {call : Call} (accepted : call.handler = some .writeMeter)
    (address : call.address = 0x01) (board : Board) :
    builtAck call board = frame wflag call.address
      [if call.payload 0 = 0 ∨ call.payload 0 = 1 then 1 else 0] := by
  have arm : writeArm call.address = some .relay := by
    rw [address]
    decide
  rw [builtAck_write accepted, Meter.afterWrite, arm]
  rfl

/-- Every byte but 0 switches the relay on, and the level read back is compared with the
byte itself: only for 0 and 1 does the reply tell what happened. -/
theorem relayTruthful_iff (call : Call) (board : Board)
    (accepted : call.handler = some .writeMeter) (address : call.address = 0x01) :
    RelayTruthful call board ↔ call.payload 0 = 0 ∨ call.payload 0 = 1 := by
  unfold RelayTruthful
  rw [handle_relay accepted address, builtAck_relay accepted address]
  by_cases bit : call.payload 0 = 0 ∨ call.payload 0 = 1
  · simp [frame, bit]
  · simp [frame, bit]

theorem relayTruthful_iff_on :
    RelayTruthful (command (fun _ => 0) 0x01 [0x01]) .blank :=
  (relayTruthful_iff _ _ (by decide) (by decide)).mpr (by decide)

theorem relayTwo_not_relayTruthful :
    ¬RelayTruthful (command (fun _ => 0) 0x01 [0x02]) .blank := by
  rintro ⟨_, unchanged⟩
  revert unchanged
  rw [handle_relay (by decide) (by decide), builtAck_relay (by decide) (by decide)]
  decide

end SmartMeter
