import SmartMeter.Udp.MeterModel

/-!
Where a write command takes its values from. The payload of a frame is what stands between
its address and its checksum; the switch arms index the frame without knowing its length.
-/

namespace SmartMeter

def Call.payloadLength (call : Call) : Nat :=
  call.length.toNat - 5

def Call.framePayload (call : Call) (index : Nat) : UInt8 :=
  if index < call.payloadLength then call.payload index else 0

def WriteArm.need : WriteArm → Nat
  | .relay | .oneByte _ => 1
  | .twoBytes _ _ => 2
  | .time | .billTime => 7
  | .clear _ _ | .empty => 0

def payloadNeed (deviceAdd : UInt8) : Nat :=
  match writeArm deviceAdd with
  | some arm => arm.need
  | none => 0

/-- A command with enough payload sets the devices from its payload, a clearing one from
zeros; a command with less leaves them alone and is not acknowledged as done. -/
def UsesOnlyPayload (call : Call) (board : Board) : Prop :=
  if payloadNeed call.address ≤ call.payloadLength then
    (board.handle call).meter.devices =
      (board.meter.afterWrite (fun _ => 0) call.framePayload call.address).devices
  else
    (board.handle call).meter.devices = board.meter.devices ∧
      builtAck call board ≠ frame wflag call.address [1]

theorem effect_congr_payload (arm : WriteArm) (source : Nat → UInt8) {first second : Nat → UInt8}
    (deviceAdd : UInt8) (meter : Meter)
    (agree : ∀ index < arm.need, first index = second index) :
    arm.effect source first deviceAdd meter = arm.effect source second deviceAdd meter := by
  cases arm with
  | relay =>
      have value := agree 0 (by decide)
      simp only [WriteArm.effect, value]
  | oneByte cell =>
      have value := agree 0 Nat.zero_lt_one
      simp only [WriteArm.effect, value]
  | twoBytes firstCell secondCell =>
      have low := agree 0 Nat.zero_lt_two
      have high := agree 1 Nat.one_lt_two
      simp only [WriteArm.effect, low, high]
  | time =>
      have same : timeWrite (fun offset => first (offset - 3).toNat) =
          timeWrite (fun offset => second (offset - 3).toNat) := by
        simp [timeWrite, agree 0 (by decide), agree 1 (by decide), agree 2 (by decide),
          agree 3 (by decide), agree 4 (by decide), agree 5 (by decide), agree 6 (by decide)]
      simp only [WriteArm.effect, same]
  | billTime =>
      have same : billTimeWrite (fun offset => first (offset - 3).toNat) =
          billTimeWrite (fun offset => second (offset - 3).toNat) := by
        funext index
        simp [billTimeWrite, agree 0 (by decide), agree 1 (by decide), agree 2 (by decide),
          agree 3 (by decide), agree 4 (by decide), agree 5 (by decide), agree 6 (by decide)]
      simp only [WriteArm.effect, same]
  | clear base count => rfl
  | empty => rfl

theorem effect_devices_eq_iff (arm : WriteArm) (first second payload : Nat → UInt8)
    (deviceAdd : UInt8) (meter : Meter) :
    (arm.effect first payload deviceAdd meter).devices =
        (arm.effect second payload deviceAdd meter).devices ↔
      ∀ base count, arm = .clear base count →
        ∀ index < count.toNat, first index = second index := by
  cases arm with
  | clear base count =>
      have bound := count.toNat_lt
      have spans := writeSpan_eq_iff meter.eeprom base first second
        (by omega : count.toNat ≤ 65536)
      simp only [WriteArm.effect, Meter.devices, Prod.mk.injEq, and_true, Storage.mk.injEq, spans]
      constructor
      · rintro agree _ _ ⟨rfl, rfl⟩
        exact agree
      · intro agree
        exact agree base count rfl
  | relay => simp [WriteArm.effect, Meter.devices]
  | time => simp [WriteArm.effect, Meter.devices]
  | oneByte cell => simp [WriteArm.effect, Meter.devices]
  | twoBytes firstCell secondCell => simp [WriteArm.effect, Meter.devices]
  | billTime => simp [WriteArm.effect, Meter.devices]
  | empty => simp [WriteArm.effect, Meter.devices]

theorem effect_traceless_iff (arm : WriteArm) (needs : 0 < arm.need) (source payload : Nat → UInt8)
    (deviceAdd : UInt8) (meter : Meter) :
    ((arm.effect source payload deviceAdd meter).devices = meter.devices ∧
        (arm.effect source payload deviceAdd { meter with ack := [] }).ack ≠
          frame wflag deviceAdd [1]) ↔
      arm = .relay ∧ meter.relay = true ∧ payload 0 ≠ 0 ∧ payload 0 ≠ 1 := by
  cases arm with
  | relay =>
      by_cases bit : payload 0 = 0 ∨ payload 0 = 1
      · constructor
        · rintro ⟨_, unanswered⟩
          exact absurd (by simp [WriteArm.effect, bit]) unanswered
        · rintro ⟨_, _, notZero, notOne⟩
          exact absurd bit (not_or.mpr ⟨notZero, notOne⟩)
      · obtain ⟨notZero, notOne⟩ := not_or.mp bit
        have nacked : frame wflag deviceAdd [0] ≠ frame wflag deviceAdd [1] := by
          simp [frame]
        simp [WriteArm.effect, Meter.devices, notZero, notOne, nacked]
  | time => simp [WriteArm.effect]
  | oneByte cell => simp [WriteArm.effect]
  | twoBytes first second => simp [WriteArm.effect]
  | billTime => simp [WriteArm.effect]
  | clear base count => simp [WriteArm.need] at needs
  | empty => simp [WriteArm.need] at needs

/-- An accepted write frame acts on its payload alone exactly when the payload is as long as
the command needs and, for a clearing command, the memory at address 0 holds zeros; or when
a relay frame without payload finds the relay on and no 0 or 1 behind the address. -/
theorem usesOnlyPayload_iff (call : Call) (board : Board)
    (accepted : call.handler = some .writeMeter) :
    UsesOnlyPayload call board ↔
      (payloadNeed call.address ≤ call.payloadLength ∧
        ∀ base count, writeArm call.address = some (.clear base count) →
          ∀ index < count.toNat, call.memory index = 0) ∨
      (call.payloadLength = 0 ∧ writeArm call.address = some .relay ∧
        board.meter.relay = true ∧ call.payload 0 ≠ 0 ∧ call.payload 0 ≠ 1) := by
  unfold UsesOnlyPayload
  rw [handle_write accepted, builtAck_write accepted]
  cases found : writeArm call.address with
  | none => simp [payloadNeed, Meter.afterWrite, found]
  | some arm =>
      simp only [payloadNeed, Meter.afterWrite, found, Option.some.injEq]
      by_cases enough : arm.need ≤ call.payloadLength
      · have inside : ∀ index < arm.need, call.payload index = call.framePayload index := by
          intro index bound
          rw [Call.framePayload, if_pos (by omega)]
        have notShort : ¬(call.payloadLength = 0 ∧ arm = .relay ∧ board.meter.relay = true ∧
            call.payload 0 ≠ 0 ∧ call.payload 0 ≠ 1) := by
          rintro ⟨empty, rfl, _⟩
          rw [empty] at enough
          exact absurd enough (by decide)
        rw [if_pos enough, effect_congr_payload arm call.memory call.address board.meter inside,
          effect_devices_eq_iff]
        simp only [enough, true_and, notShort, or_false]
      · have needs : 0 < arm.need := by omega
        rw [if_neg enough, effect_traceless_iff arm needs]
        simp only [enough, false_and, false_or]
        constructor
        · rintro ⟨rfl, on, values⟩
          have empty : call.payloadLength = 0 := by
            have one : WriteArm.relay.need = 1 := rfl
            omega
          exact ⟨empty, rfl, on, values⟩
        · rintro ⟨_, relay, on, values⟩
          exact ⟨relay, on, values⟩

theorem usesOnlyPayload_iff_relayFrame :
    UsesOnlyPayload (command (fun _ => 0) 0x01 [0x01]) .blank := by
  refine (usesOnlyPayload_iff _ _ (by decide)).mpr (.inl ⟨by decide, ?_⟩)
  intro _ _ _ _ _
  rfl

theorem shortRelayFrame_not_usesOnlyPayload :
    ¬UsesOnlyPayload (command (fun _ => 0) 0x01 []) .blank := by
  intro only
  unfold UsesOnlyPayload at only
  rw [if_neg (by decide)] at only
  have relay := congrArg Prod.snd only.1
  rw [handle_write (by decide)] at relay
  revert relay
  decide

end SmartMeter
