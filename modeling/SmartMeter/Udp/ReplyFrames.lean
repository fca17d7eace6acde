import SmartMeter.Udp.CommandGrammar

/-!
The acknowledgements as frames of the protocol they answer: what `Write_Ack` and `Read_Ack` build
passes the test that `Data_Handle` makes of a received frame, and is read back part by part.
-/

namespace SmartMeter

open StateSimulation

def udpAckSize : Nat := 54

def ackPointer (heap : CharPtr) (board : Board) : CharPtr := fun offset =>
  if 0 ≤ offset ∧ offset < udpAckSize then board.udpAck offset.toNat else heap offset

structure DecodedFrame where
  direction : UInt8
  address : UInt8
  payload : List UInt8
deriving Repr, DecidableEq

def decodeFrame (bytes : List UInt8) : Option DecodedFrame :=
  let body := bytes.take (bytes.length - 2)
  match body with
  | head :: direction :: address :: payload =>
      if head = 0x5A ∧ bytes.drop (bytes.length - 2) = [checkSum body, 0xA5] then
        some ⟨direction, address, payload⟩
      else none
  | _ => none

theorem decodeFrame_frame (flag deviceAdd : UInt8) (content : List UInt8) :
    decodeFrame (frame flag deviceAdd content) = some ⟨flag, deviceAdd, content⟩ := by
  have body : (frame flag deviceAdd content).take ((frame flag deviceAdd content).length - 2) =
      0x5A :: flag :: deviceAdd :: content := by
    simp [frame]
  have close : (frame flag deviceAdd content).drop ((frame flag deviceAdd content).length - 2) =
      [checkSum (0x5A :: flag :: deviceAdd :: content), 0xA5] := by
    simp [frame]
  simp only [decodeFrame, body, close, and_self, if_true]

/-- The reply on the board is a frame for `handler`, inside its buffer, and says who sends what. -/
structure Replies (before after : Board) (handler : Handler) (deviceAdd : UInt8)
    (payload : List UInt8) : Prop where
  inside : ∀ index, udpAckSize ≤ index → after.udpAck index = before.udpAck index
  fits : after.udpAckLen.toNat ≤ udpAckSize
  length : after.udpAckLen.toNat = payload.length + 5
  accepted : ∀ heap, dispatch (ackPointer heap after) after.udpAckLen = some handler
  direction : after.udpAck 1 = handler.flag
  address : after.udpAck 2 = deviceAdd
  content : Buffer.toList (fun index => after.udpAck (3 + index)) payload.length = payload
  decoded : decodeFrame (Buffer.toList after.udpAck after.udpAckLen.toNat) =
    some ⟨handler.flag, deviceAdd, payload⟩

section

variable {before after : Board} {handler : Handler} {deviceAdd : UInt8} {payload : List UInt8}

theorem ackPointer_apply (heap : CharPtr) (board : Board) {index : Nat}
    (bound : index < udpAckSize) : ackPointer heap board index = board.udpAck index := by
  rw [ackPointer, if_pos (by omega), Int.toNat_natCast]

theorem checkOut_ackPointer (heap : CharPtr) (board : Board) {count : Nat}
    (bound : count ≤ udpAckSize) :
    checkOut (ackPointer heap board) count = checkSum (Buffer.toList board.udpAck count) := by
  unfold checkOut checkSum
  rw [Buffer.byteSum_eq_foldl, Buffer.toList_congr fun index inside =>
    ackPointer_apply heap board (by omega : index < udpAckSize)]

theorem replies_of_frame
    (inside : ∀ index, udpAckSize ≤ index → after.udpAck index = before.udpAck index)
    (short : payload.length ≤ 49) (length : after.udpAckLen.toNat = payload.length + 5)
    (written : Buffer.toList after.udpAck after.udpAckLen.toNat =
      frame handler.flag deviceAdd payload) :
    Replies before after handler deviceAdd payload := by
  have size : udpAckSize = 54 := rfl
  have byte (index : Nat) (bound : index < payload.length + 5) :
      some (after.udpAck index) = (frame handler.flag deviceAdd payload)[index]? := by
    rw [← written, length]
    simp [Buffer.toList, bound]
  have body : Buffer.toList after.udpAck (payload.length + 3) =
      0x5A :: handler.flag :: deviceAdd :: payload := by
    rw [← Buffer.take_toList after.udpAck (by omega : payload.length + 3 ≤ payload.length + 5),
      ← length, written]
    simp [frame]
  have head : after.udpAck 0 = 0x5A := by simpa [frame] using byte 0 (by omega)
  have flag : after.udpAck 1 = handler.flag := by simpa [frame] using byte 1 (by omega)
  have address : after.udpAck 2 = deviceAdd := by simpa [frame] using byte 2 (by omega)
  have check : after.udpAck (payload.length + 3) =
      checkSum (0x5A :: handler.flag :: deviceAdd :: payload) := by
    simpa [frame] using byte (payload.length + 3) (by omega)
  have tail : after.udpAck (payload.length + 4) = 0xA5 := by
    simpa [frame] using byte (payload.length + 4) (by omega)
  refine ⟨inside, by omega, length, ?_, flag, address, ?_, ?_⟩
  · intro heap
    rw [dispatch_eq_some_iff]
    have last : (after.udpAckLen.toNat : Int) - 1 = ((payload.length + 4 : Nat) : Int) := by omega
    have second : (after.udpAckLen.toNat : Int) - 2 = ((payload.length + 3 : Nat) : Int) := by omega
    have count : after.udpAckLen.toNat - 2 = payload.length + 3 := by omega
    refine ⟨?_, ?_, ?_, ?_⟩
    · exact (ackPointer_apply heap after (by omega : 0 < udpAckSize)).trans head
    · exact (ackPointer_apply heap after (by omega : 1 < udpAckSize)).trans flag
    · rw [last, ackPointer_apply heap after (by omega), tail]
    · rw [second, count, ackPointer_apply heap after (by omega),
        checkOut_ackPointer heap after (by omega), check, body]
  · have rest := Buffer.drop_toList after.udpAck (by omega : 3 ≤ payload.length + 3)
    rw [body, Nat.add_sub_cancel] at rest
    exact rest.symm
  · rw [written, decodeFrame_frame]

end

theorem writeAck_replies (board : Board) (deviceAdd isOK : UInt8) :
    Replies board ((writeAck deviceAdd isOK).run board).2 .writeMeter deviceAdd [isOK] := by
  have built := congrArg Meter.ack (writeAck_simulates deviceAdd isOK board).2
  refine replies_of_frame ?_ (by simp) rfl built
  intro index past
  have size : udpAckSize = 54 := rfl
  have apart (cell : Nat) (low : cell < 6) : index ≠ cell := by omega
  simp [writeAck, apart]

theorem readAck_replies (board : Board) (deviceAdd isOK : UInt8) (data : Nat → UInt8)
    {dataLen : UInt8} (short : dataLen.toNat ≤ 48) :
    Replies board ((readAck deviceAdd isOK data dataLen).run board).2 .readMeter deviceAdd
      (isOK :: Buffer.toList data dataLen.toNat) := by
  have size : udpAckSize = 54 := rfl
  have built := congrArg Meter.ack
    (readAck_simulates deviceAdd isOK data dataLen (by omega) board).2
  have length : (dataLen + 6).toNat = dataLen.toNat + 6 := by
    simp only [UInt8.toNat_add, UInt8.reduceToNat]
    omega
  refine replies_of_frame ?_ ?_ ?_ built
  · intro index past
    have apart (cell : Nat) (low : cell < 54) : index ≠ cell := by omega
    have outside : 4 + dataLen.toNat ≤ index := by omega
    simp [readAck, apart, Buffer.copy_outside, outside, (by omega : dataLen.toNat + 4 < 54),
      (by omega : dataLen.toNat + 5 < 54)]
  · rw [List.length_cons, Buffer.toList_length]
    omega
  · rw [List.length_cons, Buffer.toList_length]
    exact length

/-- Every acknowledgement is a frame of the protocol, whatever was in the buffer before. -/
theorem acknowledgements_are_frames (board : Board) (deviceAdd isOK : UInt8) :
    Replies board ((writeAck deviceAdd isOK).run board).2 .writeMeter deviceAdd [isOK] ∧
      ∀ (data : Nat → UInt8) (dataLen : UInt8), dataLen.toNat ≤ 48 →
        Replies board ((readAck deviceAdd isOK data dataLen).run board).2 .readMeter deviceAdd
          (isOK :: Buffer.toList data dataLen.toNat) :=
  ⟨writeAck_replies board deviceAdd isOK,
    fun data _ short => readAck_replies board deviceAdd isOK data short⟩

theorem acknowledgements_are_frames_three :
    Replies Board.blank ((readAck 0x11 1 (fun _ => 0xFF) 3).run Board.blank).2 .readMeter 0x11
      [1, 0xFF, 0xFF, 0xFF] :=
  (acknowledgements_are_frames Board.blank 0x11 1).2 (fun _ => 0xFF) 3 (by decide)

end SmartMeter
