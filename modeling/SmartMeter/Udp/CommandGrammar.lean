import SmartMeter.Udp.MeterModel
import SmartMeter.Udp.WifiCore

/-!
Which datagrams the receive task hands to a command handler, compared with the grammar
in which a frame is a whole datagram.
-/

namespace SmartMeter

open StateSimulation

def Handler.flag : Handler → UInt8
  | .writeMeter => wflag
  | .readMeter => rflag

def IsFrame (flag : UInt8) (bytes : List UInt8) : Prop :=
  bytes[0]? = some 0x5A ∧ bytes[1]? = some flag ∧
    bytes[bytes.length - 1]? = some 0xA5 ∧
    bytes[bytes.length - 2]? = some (checkSum (bytes.take (bytes.length - 2)))

def Closed (data : CharPtr) (count : Nat) : Prop :=
  data ((count : Int) - 1) = 0xA5 ∧ data ((count : Int) - 2) = checkOut data (count - 2)

theorem dispatch_eq_some_iff (data : CharPtr) (length : UInt8) (handler : Handler) :
    dispatch data length = some handler ↔
      data 0 = 0x5A ∧ data 1 = handler.flag ∧ Closed data length.toNat := by
  have flags : wflag ≠ rflag := by decide
  unfold dispatch
  split
  · rename_i valid
    obtain ⟨head, closed⟩ := valid
    cases handler with
    | writeMeter =>
        by_cases write : data 1 = wflag
        · simp [Handler.flag, Closed, head, closed, write]
        · simp [Handler.flag, write]
    | readMeter =>
        by_cases write : data 1 = wflag
        · simp [Handler.flag, write, flags]
        · simp [Handler.flag, Closed, head, closed, write]
  · rename_i invalid
    constructor
    · intro found
      cases found
    · rintro ⟨head, _, closed⟩
      exact absurd ⟨head, closed⟩ invalid

theorem receiveInto_apply (sockRx : Nat → UInt8) (bytes : List UInt8) {index : Nat}
    (inside : index ≤ userSockBufSize) : receiveInto sockRx bytes index = bytes.getD index 0 := by
  unfold receiveInto
  rw [Buffer.copy_apply]
  by_cases received : index < bytes.length
  · simp [received]
  · have past : ¬(0 ≤ index ∧ index < 0 + bytes.length) := by omega
    have filled : 0 ≤ index ∧ index < 0 + (userSockBufSize + 1) := by omega
    have missing : bytes[index]? = none := List.getElem?_eq_none (by omega)
    rw [if_neg past, Buffer.fill, Buffer.copy_apply, if_pos filled]
    simp [missing]

section Reception

variable (heap : CharPtr) (sockRx : Nat → UInt8) (datagram : Datagram)

theorem rxPointer_receiveInto {index : Nat} (inside : index ≤ userSockBufSize) :
    rxPointer heap (receiveInto sockRx datagram.val) index = datagram.val.getD index 0 := by
  have range : 0 ≤ (index : Int) ∧ (index : Int) ≤ userSockBufSize := by omega
  rw [rxPointer, if_pos range, Int.toNat_natCast, receiveInto_apply _ _ inside]

theorem rxPointer_byte {index : Nat} (inside : index < datagram.val.length) :
    some (rxPointer heap (receiveInto sockRx datagram.val) index) = datagram.val[index]? := by
  have bound := datagram.property
  rw [rxPointer_receiveInto _ _ _ (by omega)]
  simp [inside]

theorem checkOut_receiveInto {count : Nat} (inside : count ≤ datagram.val.length) :
    checkOut (rxPointer heap (receiveInto sockRx datagram.val)) count =
      checkSum (datagram.val.take count) := by
  have bound := datagram.property
  unfold checkOut checkSum
  rw [Buffer.byteSum_eq_foldl]
  congr 3
  apply List.ext_getElem
  · simp [inside]
  · intro index first second
    rw [Buffer.toList_length] at first
    have read := rxPointer_receiveInto heap sockRx datagram (by omega : index ≤ userSockBufSize)
    simpa [Buffer.toList, (by omega : index < datagram.val.length)] using read

theorem rxPointer_eq_iff {index : Nat} (inside : index ≤ userSockBufSize) {byte : UInt8}
    (nonzero : byte ≠ 0) :
    rxPointer heap (receiveInto sockRx datagram.val) index = byte ↔
      datagram.val[index]? = some byte := by
  rw [rxPointer_receiveInto _ _ _ inside]
  by_cases received : index < datagram.val.length
  · simp [received]
  · have missing : datagram.val[index]? = none := List.getElem?_eq_none (by omega)
    simp [missing, nonzero.symm]

theorem isFrame_iff_closed (flag : UInt8) :
    IsFrame flag datagram.val ↔
      datagram.val[0]? = some 0x5A ∧ datagram.val[1]? = some flag ∧
      Closed (rxPointer heap (receiveInto sockRx datagram.val)) datagram.val.length := by
  have bound := datagram.property
  unfold IsFrame
  apply and_congr_right
  intro _
  apply and_congr_right
  intro second
  have two : 1 < datagram.val.length := (List.getElem?_eq_some_iff.mp second).1
  have last : ((datagram.val.length : Int) - 1) = ((datagram.val.length - 1 : Nat) : Int) := by
    omega
  have check : ((datagram.val.length : Int) - 2) = ((datagram.val.length - 2 : Nat) : Int) := by
    omega
  have sum := checkOut_receiveInto heap sockRx datagram
    (by omega : datagram.val.length - 2 ≤ datagram.val.length)
  have checkByte := rxPointer_byte heap sockRx datagram
    (by omega : datagram.val.length - 2 < datagram.val.length)
  unfold Closed
  rw [last, check, sum, rxPointer_eq_iff heap sockRx datagram (by omega) (by decide), ← checkByte]
  simp

theorem dispatch_receiveInto_iff (length : UInt8) (handler : Handler) :
    dispatch (rxPointer heap (receiveInto sockRx datagram.val)) length = some handler ↔
      datagram.val[0]? = some 0x5A ∧ datagram.val[1]? = some handler.flag ∧
      Closed (rxPointer heap (receiveInto sockRx datagram.val)) length.toNat := by
  have nonzero : handler.flag ≠ 0 := by
    cases handler with
    | writeMeter => decide
    | readMeter => decide
  rw [dispatch_eq_some_iff,
    ← rxPointer_eq_iff heap sockRx datagram (by decide : 0 ≤ userSockBufSize) (by decide),
    ← rxPointer_eq_iff heap sockRx datagram (by decide : 1 ≤ userSockBufSize) nonzero]
  rfl

end Reception

/-- The turn dispatches on exactly the whole-datagram frames and ignores every other datagram. -/
def FollowsGrammar (turn : Turn) (sock : UserSock) : Prop :=
  (∀ handler : Handler, (turn.call sock).handler = some handler ↔
    IsFrame handler.flag turn.received.bytes) ∧
  (¬IsFrame wflag turn.received.bytes → ¬IsFrame rflag turn.received.bytes →
    ∀ board : Board, (board.handle (turn.call sock)).meter.devices = board.meter.devices)

theorem followsGrammar_iff_handler (turn : Turn) (sock : UserSock) :
    FollowsGrammar turn sock ↔
      ∀ handler : Handler, (turn.call sock).handler = some handler ↔
        IsFrame handler.flag turn.received.bytes := by
  constructor
  · intro follows
    exact follows.1
  · intro agree
    refine ⟨agree, ?_⟩
    intro notWrite notRead board
    have ignored : (turn.call sock).handler = none := by
      cases found : (turn.call sock).handler with
      | none => rfl
      | some handler =>
          cases handler with
          | writeMeter => exact absurd ((agree .writeMeter).mp found) notWrite
          | readMeter => exact absurd ((agree .readMeter).mp found) notRead
    rw [handle_meter, Meter.handled, ignored]

theorem length_datagram (memory : Nat → UInt8) (heap : CharPtr) (datagram : Datagram)
    (ip port : UInt32) (sock : UserSock) :
    (Turn.call ⟨memory, heap, .datagram datagram ip port⟩ sock).length.toNat =
      datagram.val.length % 256 := by
  simp only [Turn.call, Received.ret, UInt8.ofInt, UInt8.toNat_ofNat']
  omega

/-- The length is narrowed to eight bits on the way to the frame test. A datagram is judged
by the grammar of whole datagrams exactly when it has at most 255 bytes, or does not open
as a frame, or is closed at its narrowed length just when it is closed at its end. -/
theorem followsGrammar_iff (memory : Nat → UInt8) (heap : CharPtr) (datagram : Datagram)
    (ip port : UInt32) (sock : UserSock) :
    FollowsGrammar ⟨memory, heap, .datagram datagram ip port⟩ sock ↔
      datagram.val.length ≤ 255 ∨ datagram.val[0]? ≠ some 0x5A ∨
      (datagram.val[1]? ≠ some wflag ∧ datagram.val[1]? ≠ some rflag) ∨
      (Closed (rxPointer heap (receiveInto sock.sockRx datagram.val)) (datagram.val.length % 256) ↔
        Closed (rxPointer heap (receiveInto sock.sockRx datagram.val)) datagram.val.length) := by
  have narrowed := length_datagram memory heap datagram ip port sock
  have chosen (handler : Handler) := dispatch_receiveInto_iff heap sock.sockRx datagram
    (Turn.call ⟨memory, heap, .datagram datagram ip port⟩ sock).length handler
  have whole (handler : Handler) := isFrame_iff_closed heap sock.sockRx datagram handler.flag
  simp only [narrowed] at chosen
  rw [followsGrammar_iff_handler]
  simp only [Call.handler, Turn.call, Received.bytes] at chosen ⊢
  simp only [chosen, whole]
  constructor
  · intro agree
    by_cases short : datagram.val.length ≤ 255
    · exact .inl short
    by_cases head : datagram.val[0]? = some 0x5A
    · by_cases write : datagram.val[1]? = some wflag
      · have closes := agree .writeMeter
        simp only [head, Handler.flag, write, true_and] at closes
        exact .inr (.inr (.inr closes))
      by_cases read : datagram.val[1]? = some rflag
      · have closes := agree .readMeter
        simp only [head, Handler.flag, read, true_and] at closes
        exact .inr (.inr (.inr closes))
      · exact .inr (.inr (.inl ⟨write, read⟩))
    · exact .inr (.inl head)
  · rintro (short | head | ⟨write, read⟩ | closes) handler
    · rw [Nat.mod_eq_of_lt (by omega : datagram.val.length < 256)]
    · simp only [head, false_and]
    · cases handler with
      | writeMeter => simp only [Handler.flag, write, false_and, and_false]
      | readMeter => simp only [Handler.flag, read, false_and, and_false]
    · rw [closes]

def paddedRelayFrame : Datagram :=
  ⟨[0x5A, 0xAA, 0x01, 0x01, 0x2C, 0xA5] ++ List.replicate 256 0, by
    rw [List.length_append, List.length_replicate]
    decide⟩

theorem paddedRelayFrame_not_followsGrammar :
    ¬FollowsGrammar ⟨fun _ => 0, fun _ => 0, .datagram paddedRelayFrame 0 0⟩ .fresh := by
  intro follows
  have agree := (followsGrammar_iff_handler _ _).mp follows .writeMeter
  have size : paddedRelayFrame.val.length = 262 := by
    rw [paddedRelayFrame, List.length_append, List.length_replicate]
    rfl
  have padding : paddedRelayFrame.val[261]? = some 0 := by
    rw [paddedRelayFrame, List.getElem?_append_right (by decide), List.getElem?_replicate]
    rfl
  have length := length_datagram (fun _ => 0) (fun _ => 0) paddedRelayFrame 0 0 .fresh
  have closed : Closed (rxPointer (fun _ => 0)
      (receiveInto UserSock.fresh.sockRx paddedRelayFrame.val)) 6 := by
    constructor
    · exact rxPointer_receiveInto _ _ paddedRelayFrame (by decide : 5 ≤ userSockBufSize)
    · exact (rxPointer_receiveInto _ _ paddedRelayFrame (by decide : 4 ≤ userSockBufSize)).trans
        (checkOut_receiveInto _ _ paddedRelayFrame (by omega : 4 ≤ _)).symm
  have dispatched := (dispatch_receiveInto_iff (fun _ => 0) UserSock.fresh.sockRx paddedRelayFrame
    (Turn.call ⟨fun _ => 0, fun _ => 0, .datagram paddedRelayFrame 0 0⟩ .fresh).length
    .writeMeter).mpr
    ⟨rfl, rfl, by rw [length, size]; exact closed⟩
  obtain ⟨_, _, tail, _⟩ := agree.mp dispatched
  simp only [Received.bytes, size, padding] at tail
  revert tail
  decide

end SmartMeter
