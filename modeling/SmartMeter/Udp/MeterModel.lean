import SmartMeter.Drivers.Storage
import SmartMeter.Udp.DataHandleCore

/-!
The meter as the protocol sees it: stored cells, clock registers, relay and the
acknowledgement last built. Each arm of the two switches has one effect on it.
-/

namespace SmartMeter

open I2cBus StateSimulation

structure Meter extends Storage where
  relay : Bool
  ack : List UInt8

def Board.meter (board : Board) : Meter where
  toStorage := storageView board.i2c
  relay := relayOn board.gpio
  ack := Buffer.toList board.udpAck board.udpAckLen.toNat

def Meter.devices (meter : Meter) : Storage × Bool :=
  (meter.toStorage, meter.relay)

def checkSum (bytes : List UInt8) : UInt8 :=
  ~~~bytes.foldl (· + ·) 0 + 0x33

def frame (flag deviceAdd : UInt8) (content : List UInt8) : List UInt8 :=
  let body := 0x5A :: flag :: deviceAdd :: content
  body ++ [checkSum body, 0xA5]

def replyPayload (ack : List UInt8) : List UInt8 :=
  (ack.drop 4).take (ack.length - 6)

theorem replyPayload_frame (flag deviceAdd isOK : UInt8) (content : List UInt8) :
    replyPayload (frame flag deviceAdd (isOK :: content)) = content := by
  simp [replyPayload, frame]

namespace Meter

def onStorage {α : Type} (program : StateM Storage α) : StateM Meter α := do
  let answer := program.run (← get).toStorage
  modify fun meter => { meter with toStorage := answer.2 }
  return answer.1

def setRelay (status : UInt8) : StateM Meter Unit :=
  modify fun meter => { meter with relay := decide (status ≠ 0) }

def relayStatus : StateM Meter UInt8 := do
  return if (← get).relay then 1 else 0

def reply (bytes : List UInt8) : StateM Meter Unit :=
  modify fun meter => { meter with ack := bytes }

end Meter

def WriteArm.effect (arm : WriteArm) (source payload : Nat → UInt8) (deviceAdd : UInt8)
    (meter : Meter) : Meter :=
  let temp : CharPtr := fun offset => payload (offset - 3).toNat
  match arm with
  | .relay => { meter with
      relay := decide (payload 0 ≠ 0)
      ack := frame wflag deviceAdd [if payload 0 = 0 ∨ payload 0 = 1 then 1 else 0] }
  | .time => { meter with
      rtc := if rtcUnlocked meter.rtc then clockRegisters meter.rtc (timeWrite temp) else meter.rtc
      ack := frame wflag deviceAdd [1] }
  | .clear base count => { meter with
      eeprom := writeSpan meter.eeprom base source count.toNat
      ack := frame wflag deviceAdd [1] }
  | .oneByte cell => { meter with
      eeprom := Function.update meter.eeprom cell (payload 0)
      ack := frame wflag deviceAdd [1] }
  | .twoBytes first second => { meter with
      eeprom := Function.update (Function.update meter.eeprom first (payload 0)) second (payload 1)
      ack := frame wflag deviceAdd [1] }
  | .billTime => { meter with
      eeprom := writeSpan meter.eeprom 0x0072 (billTimeWrite temp) 7
      ack := frame wflag deviceAdd [1] }
  | .empty => meter

def ReadArm.content (arm : ReadArm) (meter : Meter) : List UInt8 :=
  match arm with
  | .relay => [if meter.relay then 1 else 0]
  | .block base count =>
      Buffer.toList (fun index => meter.eeprom (base + UInt16.ofNat index)) count.toNat

theorem onI2c_simulates {α : Type} {program : StateM (I2cController (Eeprom × Rtc)) α}
    {abstract : StateM Storage α} (simulates : Simulates storageView program abstract) :
    Simulates Board.meter (onI2c program) (Meter.onStorage abstract) := by
  intro board
  obtain ⟨value, state⟩ := simulates board.i2c
  refine ⟨value, ?_⟩
  change Meter.mk (storageView (program.run board.i2c).2) _ _ =
    Meter.mk (abstract.run (storageView board.i2c)).2 _ _
  rw [state]
  rfl

@[simp] theorem bank_relay (gpio : Gpio) : gpio.bank wmIoPb18 = gpio.bankB := rfl

@[simp] theorem setBank_relay (gpio : Gpio) (bank : GpioBank) :
    gpio.setBank wmIoPb18 bank = { gpio with bankB := bank } := rfl

theorem pinBit_relay : pinBit wmIoPb18 = BitVec.twoPow 32 18 := rfl

theorem userRelayCtrl_simulates (status : UInt8) :
    Simulates Board.meter (onGpio (userRelayCtrl status)) (Meter.setRelay status) := by
  intro board
  by_cases off : status = 0
  · simp [onGpio, userRelayCtrl, tlsGpioCfg, tlsGpioWrite, Meter.setRelay, Board.meter, relayOn,
      pinBit_relay, off]
  · simp [onGpio, userRelayCtrl, tlsGpioCfg, tlsGpioWrite, Meter.setRelay, Board.meter, relayOn,
      pinBit_relay, off]

theorem relayBit_set (data : BitVec 32) :
    (¬data &&& pinBit wmIoPb18 = 0#32) ↔ data[18] = true := by
  rw [pinBit_relay, BitVec.and_twoPow, ← BitVec.getLsbD_eq_getElem]
  cases data.getLsbD 18 with
  | true => decide
  | false => decide

theorem getRelayStatus_simulates :
    Simulates Board.meter (onGpio getRelayStatus) Meter.relayStatus := by
  intro board
  have reads := relayBit_set board.gpio.bankB.data
  simp only [onGpio, getRelayStatus, tlsGpioRead, Meter.relayStatus, Board.meter, relayOn]
  simp [reads]

theorem writeAck_simulates (deviceAdd isOK : UInt8) :
    Simulates Board.meter (writeAck deviceAdd isOK)
      (Meter.reply (frame wflag deviceAdd [isOK])) := by
  intro board
  refine ⟨rfl, ?_⟩
  simp [writeAck, Meter.reply, Board.meter, Buffer.toList, frame, checkSum, List.range_succ]

theorem readAck_simulates (deviceAdd isOK : UInt8) (data : Nat → UInt8) (dataLen : UInt8)
    (fits : dataLen.toNat + 6 < 256) :
    Simulates Board.meter (readAck deviceAdd isOK data dataLen)
      (Meter.reply (frame rflag deviceAdd (isOK :: Buffer.toList data dataLen.toNat))) := by
  intro board
  refine ⟨rfl, ?_⟩
  have length : (dataLen + 6).toNat = dataLen.toNat + 4 + 1 + 1 := by
    simp only [UInt8.toNat_add, UInt8.reduceToNat]
    omega
  let start := Function.update (Function.update (Function.update
    (Function.update board.udpAck 0 0x5A) 1 rflag) 2 deviceAdd) 3 isOK
  have head : Buffer.toList start 4 = [0x5A, rflag, deviceAdd, isOK] := by
    simp [start, Buffer.toList, List.range_succ]
  have body : Buffer.toList (Buffer.copy start 4 data dataLen.toNat) (dataLen.toNat + 4) =
      0x5A :: rflag :: deviceAdd :: isOK :: Buffer.toList data dataLen.toNat := by
    rw [Nat.add_comm, Buffer.toList_copy, head]
    rfl
  let check := Buffer.byteSum (Buffer.copy start 4 data dataLen.toNat) (dataLen.toNat + 4)
  have sum : ~~~check + 0x33 =
      checkSum (0x5A :: rflag :: deviceAdd :: isOK :: Buffer.toList data dataLen.toNat) := by
    rw [← body]
    exact congrArg (fun total => ~~~total + 0x33) (Buffer.byteSum_eq_foldl _ _)
  have whole : Buffer.toList (Function.update (Function.update
      (Buffer.copy start 4 data dataLen.toNat) (dataLen.toNat + 4) (~~~check + 0x33))
      (dataLen.toNat + 4 + 1) 0xA5) (dataLen.toNat + 4 + 1 + 1) =
      frame rflag deviceAdd (isOK :: Buffer.toList data dataLen.toNat) := by
    rw [Buffer.toList_update_last, Buffer.toList_update_last, body, sum]
    simp [frame]
  rw [← length] at whole
  change Meter.mk (storageView board.i2c) (relayOn board.gpio) _ =
    Meter.mk (storageView board.i2c) (relayOn board.gpio) _
  rw [← whole]
  rfl

def WriteArm.Apart : WriteArm → Prop
  | .twoBytes first second => first ≠ second
  | _ => True

theorem runWriteArm_meter (memory : Nat → UInt8) (temp : CharPtr) (deviceAdd : UInt8)
    (arm : WriteArm) (apart : arm.Apart) (board : Board) :
    ((runWriteArm memory temp deviceAdd arm).run board).2.meter =
      arm.effect memory (fun index => temp (3 + index)) deviceAdd board.meter := by
  have acks (isOK : UInt8) := writeAck_simulates deviceAdd isOK
  have either (condition : Prop) [Decidable condition] :=
    Simulates.ite condition (acks 1) (acks 0)
  cases arm with
  | relay =>
      have arm := (userRelayCtrl_simulates (temp 3)).bind fun _ =>
        getRelayStatus_simulates.bind fun status => either (status = temp 3)
      refine (arm board).2.trans ?_
      by_cases off : temp 3 = 0
      · simp [Meter.setRelay, Meter.relayStatus, Meter.reply, WriteArm.effect, off]
      · by_cases one : temp 3 = 1
        · simp [Meter.setRelay, Meter.relayStatus, Meter.reply, WriteArm.effect, one]
        · have differs : ¬1 = temp 3 := fun same => one same.symm
          simp [Meter.setRelay, Meter.relayStatus, Meter.reply, WriteArm.effect, off, one, differs]
  | time =>
      have arm := (onI2c_simulates (rtcWriteDate_simulates (timeWrite temp))).bind fun _ => acks 1
      refine (arm board).2.trans ?_
      by_cases unlocked : rtcUnlocked board.meter.rtc = true
      · simp [Meter.onStorage, Storage.setClock, Meter.reply, WriteArm.effect, unlocked, timeWrite]
      · simp [Meter.onStorage, Storage.setClock, Meter.reply, WriteArm.effect, unlocked]
  | clear base count =>
      have arm := (onI2c_simulates (at24cxxWrite_simulates base memory count)).bind fun _ => acks 1
      exact (arm board).2
  | oneByte cell =>
      have arm := (onI2c_simulates (at24cxxWriteOneByte_simulates cell (temp 3))).bind fun _ =>
        (onI2c_simulates (at24cxxReadOneByte_simulates cell)).bind fun value =>
          either (value = temp 3)
      refine (arm board).2.trans ?_
      simp [Meter.onStorage, Storage.writeByte, Storage.readByte, Meter.reply, WriteArm.effect]
  | twoBytes first second =>
      have arm := (onI2c_simulates (at24cxxWriteOneByte_simulates first (temp 3))).bind fun _ =>
        (onI2c_simulates (at24cxxWriteOneByte_simulates second (temp 4))).bind fun _ =>
          (onI2c_simulates (at24cxxReadOneByte_simulates first)).bind fun value =>
            Simulates.ite (value = temp 3)
              ((onI2c_simulates (at24cxxReadOneByte_simulates second)).bind fun value =>
                either (value = temp 4)) (acks 0)
      refine (arm board).2.trans ?_
      have kept : Function.update (Function.update board.meter.eeprom first (temp 3)) second
          (temp 4) first = temp 3 := by
        rw [Function.update_of_ne apart, Function.update_self]
      simp [Meter.onStorage, Storage.writeByte, Storage.readByte, Meter.reply, WriteArm.effect,
        kept]
  | billTime =>
      have arm := (onI2c_simulates
        (at24cxxWrite_simulates 0x0072 (billTimeWrite temp) 7)).bind fun _ => acks 1
      exact (arm board).2
  | empty => rfl

theorem mem_of_lookup {α : Type} {cases : List (Nat × α)} {label : Nat} {arm : α}
    (found : cases.lookup label = some arm) : (label, arm) ∈ cases := by
  obtain ⟨before, after, split, _⟩ := List.lookup_eq_some_iff.mp found
  rw [split]
  exact List.mem_append_right before List.mem_cons_self

theorem writeArm_mem {deviceAdd : UInt8} {arm : WriteArm} (found : writeArm deviceAdd = some arm) :
    (deviceAdd.toNat, arm) ∈ writeCases :=
  mem_of_lookup found

theorem writeArm_apart {deviceAdd : UInt8} {arm : WriteArm}
    (found : writeArm deviceAdd = some arm) : arm.Apart := by
  have every : ∀ entry ∈ writeCases, entry.2.Apart := by
    simp [writeCases, WriteArm.Apart]
  exact every _ (writeArm_mem found)

def Meter.afterWrite (source payload : Nat → UInt8) (deviceAdd : UInt8) (meter : Meter) : Meter :=
  match writeArm deviceAdd with
  | some arm => arm.effect source payload deviceAdd meter
  | none => meter

def Meter.afterRead (deviceAdd : UInt8) (meter : Meter) : Meter :=
  match readArm deviceAdd with
  | some arm => { meter with ack := frame rflag deviceAdd (1 :: arm.content meter) }
  | none => meter

theorem writeMeter_meter (memory : Nat → UInt8) (data : CharPtr) (board : Board) :
    ((writeMeter memory data).run board).2.meter =
      board.meter.afterWrite memory (fun index => data (3 + index)) (data 2) := by
  cases found : writeArm (data 2) with
  | none => simp [writeMeter, Meter.afterWrite, found]
  | some arm =>
      simp only [writeMeter, Meter.afterWrite, found]
      exact runWriteArm_meter memory data (data 2) arm (writeArm_apart found) board

def ReadArm.Fits : ReadArm → Prop
  | .relay => True
  | .block _ count => count.toNat + 6 < 256

theorem readArm_fits {deviceAdd : UInt8} {arm : ReadArm} (found : readArm deviceAdd = some arm) :
    arm.Fits := by
  have every : ∀ entry ∈ readCases, entry.2.Fits := by
    simp [readCases, ReadArm.Fits]
  exact every _ (mem_of_lookup found)

theorem runReadArm_meter (deviceAdd : UInt8) (arm : ReadArm) (fits : arm.Fits) (board : Board) :
    ((runReadArm deviceAdd arm).run board).2.meter =
      { board.meter with ack := frame rflag deviceAdd (1 :: arm.content board.meter) } := by
  cases arm with
  | relay =>
      have arm := getRelayStatus_simulates.bind fun status =>
        readAck_simulates deviceAdd 1 (fun _ => status) 1 (by decide)
      exact (arm board).2
  | block base count =>
      have arm := (onI2c_simulates
        (at24cxxRead_simulates base (fun _ => 0) count.toUInt16)).bind fun tempData =>
          readAck_simulates deviceAdd 1 tempData count fits
      refine (arm board).2.trans ?_
      have copied (cells : Nat → UInt8) :
          Buffer.toList (Buffer.copy (fun _ => 0) 0 cells count.toNat) count.toNat =
            Buffer.toList cells count.toNat := by
        simpa using Buffer.toList_copy (fun _ => 0) cells 0 count.toNat
      simp [Meter.onStorage, Storage.readBlock, Meter.reply, ReadArm.content, copied]

theorem readMeter_meter (data : CharPtr) (board : Board) :
    ((readMeter data).run board).2.meter = board.meter.afterRead (data 2) := by
  cases found : readArm (data 2) with
  | none => simp [readMeter, Meter.afterRead, found]
  | some arm =>
      simp only [readMeter, Meter.afterRead, found]
      exact runReadArm_meter (data 2) arm (readArm_fits found) board

def Call.payload (call : Call) (index : Nat) : UInt8 :=
  call.data (3 + index)

def command (memory : Nat → UInt8) (deviceAdd : UInt8) (content : List UInt8) : Call :=
  ⟨memory, bytesAt (frame wflag deviceAdd content), UInt8.ofNat (content.length + 5)⟩

def query (deviceAdd : UInt8) : Call :=
  ⟨fun _ => 0, bytesAt (frame rflag deviceAdd []), 5⟩

def Meter.handled (call : Call) (meter : Meter) : Meter :=
  match call.handler with
  | some .writeMeter => meter.afterWrite call.memory call.payload call.address
  | some .readMeter => meter.afterRead call.address
  | none => meter

theorem handle_meter (board : Board) (call : Call) :
    (board.handle call).meter = board.meter.handled call := by
  unfold Board.handle dataHandle Meter.handled Call.handler
  cases dispatch call.data call.length with
  | none => rfl
  | some handler =>
      cases handler with
      | writeMeter => exact writeMeter_meter call.memory call.data board
      | readMeter => exact readMeter_meter call.data board

theorem handle_write {call : Call} (accepted : call.handler = some .writeMeter) (board : Board) :
    (board.handle call).meter =
      board.meter.afterWrite call.memory call.payload call.address := by
  rw [handle_meter, Meter.handled, accepted]

/-- The acknowledgement built while one call is handled; empty when none is. -/
def builtAck (call : Call) (board : Board) : List UInt8 :=
  (Board.handle { board with udpAckLen := 0 } call).meter.ack

theorem builtAck_eq (call : Call) (board : Board) :
    builtAck call board = (Meter.handled call { board.meter with ack := [] }).ack := by
  unfold builtAck
  rw [handle_meter]
  rfl

theorem builtAck_write {call : Call} (accepted : call.handler = some .writeMeter) (board : Board) :
    builtAck call board =
      (Meter.afterWrite call.memory call.payload call.address { board.meter with ack := [] }).ack := by
  rw [builtAck_eq, Meter.handled, accepted]

theorem builtAck_read {call : Call} (accepted : call.handler = some .readMeter) {arm : ReadArm}
    (found : readArm call.address = some arm) (board : Board) :
    builtAck call board = frame rflag call.address (1 :: arm.content board.meter) := by
  rw [builtAck_eq, Meter.handled, accepted]
  simp only [Meter.afterRead, found]
  cases arm with
  | relay => rfl
  | block base count => rfl

end SmartMeter
