import SmartMeter.Library.Runs
import SmartMeter.Udp.CommandGrammar

/-!
Whose answer a reply is. `UDPAck` and `UDPAckLen` outlive the datagram they were filled
for; a run of the receive task is compared with the acknowledgement each datagram builds.
A turn hands a reply over by posting the message for it.
-/

namespace SmartMeter

open Runs

/-- A turn of the receive task, or anything the chips and the other tasks do in between:
of the state seen here only the acknowledgement buffer is the receive task's own. -/
inductive Activity
  | receive (turn : Turn)
  | others (i2c : I2cController (Eeprom × Rtc)) (gpio : Gpio) (userSock : Option UserSock)
      (queue : List Msg)

def UdpTask.step (task : UdpTask) : Activity → UdpTask
  | .receive turn => sockRcvTaskProc task turn
  | .others i2c gpio userSock queue => {
      board := { task.board with i2c := i2c, gpio := gpio }
      userSock := userSock
      queue := queue }

def handedReply (before after : UdpTask) : List UInt8 :=
  match after.userSock with
  | some sock =>
      if after.queue = before.queue ++ [.socketSnd] then
        Buffer.toList sock.sockTx sock.txLen.toNat
      else []
  | none => []

def Call.answered (call : Call) : Bool :=
  match call.handler with
  | some .writeMeter =>
      match writeArm call.address with
      | some arm => arm ≠ .empty
      | none => false
  | some .readMeter => (readArm call.address).isSome
  | none => false

/-- On an open socket the turn hands over what its own datagram builds, on this board or on
any other with the same cells, clock registers and relay. -/
def RepliesToOwn (task : UdpTask) : Activity → Prop
  | .receive turn => ∀ sock, task.userSock = some sock → sock.connStatus = 1 →
      ∀ board : Board, board.meter.devices = task.board.meter.devices →
        handedReply task (sockRcvTaskProc task turn) = builtAck (turn.call sock) board
  | .others _ _ _ _ => True

def AnswersOrFresh (task : UdpTask) : Activity → Prop
  | .receive turn => ∀ sock, task.userSock = some sock → sock.connStatus = 1 →
      turn.received.bytes = [] ∨ (turn.call sock).answered = true ∨ task.board.udpAckLen = 0
  | .others _ _ _ _ => True

theorem effect_ack_congr {arm : WriteArm} (acts : arm ≠ .empty) (source payload : Nat → UInt8)
    (deviceAdd : UInt8) (first second : Meter) :
    (arm.effect source payload deviceAdd first).ack =
      (arm.effect source payload deviceAdd second).ack := by
  cases arm with
  | empty => exact absurd rfl acts
  | relay => rfl
  | time => rfl
  | clear base count => rfl
  | oneByte cell => rfl
  | twoBytes firstCell secondCell => rfl
  | billTime => rfl

theorem content_congr (arm : ReadArm) {first second : Meter}
    (same : first.devices = second.devices) : arm.content first = arm.content second := by
  obtain ⟨storage, relay⟩ := Prod.mk.inj same
  cases arm with
  | relay => simp only [ReadArm.content, relay]
  | block base count => simp only [ReadArm.content, storage]

theorem handled_ack_of_answered {call : Call} (answer : call.answered = true)
    {first second : Meter} (same : first.devices = second.devices) :
    (first.handled call).ack = (second.handled call).ack := by
  unfold Call.answered at answer
  unfold Meter.handled
  cases chosen : call.handler with
  | none => simp [chosen] at answer
  | some handler =>
      cases handler with
      | writeMeter =>
          cases found : writeArm call.address with
          | none => simp [chosen, found] at answer
          | some arm =>
              have acts : arm ≠ .empty := by simpa [chosen, found] using answer
              simp only [Meter.afterWrite, found]
              exact effect_ack_congr acts _ _ _ _ _
      | readMeter =>
          cases found : readArm call.address with
          | none => simp [chosen, found] at answer
          | some arm =>
              simp only [Meter.afterRead, found]
              rw [content_congr arm same]

theorem handled_of_not_answered {call : Call} (silent : call.answered = false) (meter : Meter) :
    meter.handled call = meter := by
  unfold Call.answered at silent
  unfold Meter.handled
  cases chosen : call.handler with
  | none => rfl
  | some handler =>
      cases handler with
      | writeMeter =>
          cases found : writeArm call.address with
          | none => simp only [Meter.afterWrite, found]
          | some arm =>
              have empty : arm = .empty := by simpa [chosen, found] using silent
              simp only [Meter.afterWrite, found, empty, WriteArm.effect]
      | readMeter =>
          cases found : readArm call.address with
          | none => simp only [Meter.afterRead, found]
          | some arm => simp [chosen, found] at silent

theorem builtAck_of_not_answered {call : Call} (silent : call.answered = false) (board : Board) :
    builtAck call board = [] := by
  rw [builtAck_eq, handled_of_not_answered silent]

theorem answered_of_no_bytes (turn : Turn) (sock : UserSock) (none : turn.received.bytes = []) :
    (turn.call sock).answered = false := by
  have head : (turn.call sock).data 0 = 0 := by
    have first := receiveInto_apply sock.sockRx turn.received.bytes
      (by decide : 0 ≤ userSockBufSize)
    simpa [Turn.call, rxPointer, none] using first
  cases chosen : (turn.call sock).handler with
  | none => simp [Call.answered, chosen]
  | some handler =>
      have opens := ((dispatch_eq_some_iff _ _ _).mp chosen).1
      rw [head] at opens
      exact absurd opens (by decide)

theorem handedReply_of_no_bytes {task : UdpTask} {turn : Turn} {sock : UserSock}
    (present : task.userSock = some sock) (opened : sock.connStatus = 1)
    (none : turn.received.bytes = []) : handedReply task (sockRcvTaskProc task turn) = [] := by
  obtain ⟨memory, heap, received⟩ := turn
  cases received with
  | error => simp [sockRcvTaskProc, present, opened, handedReply]
  | datagram bytes ip port =>
      have empty : bytes.val = [] := none
      simp [sockRcvTaskProc, present, opened, handedReply, empty]

theorem handedReply_of_bytes {task : UdpTask} {turn : Turn} {sock : UserSock}
    (present : task.userSock = some sock) (opened : sock.connStatus = 1)
    (some : turn.received.bytes ≠ []) :
    handedReply task (sockRcvTaskProc task turn) =
      (task.board.handle (turn.call sock)).meter.ack := by
  obtain ⟨memory, heap, received⟩ := turn
  cases received with
  | error => exact absurd rfl some
  | datagram bytes ip port =>
      have positive : 0 < bytes.val.length := List.length_pos_iff.mpr some
      have copied (source target : Nat → UInt8) (count : Nat) :
          Buffer.toList (Buffer.copy target 0 source count) count = Buffer.toList source count := by
        simpa using Buffer.toList_copy target source 0 count
      simp [sockRcvTaskProc, present, opened, handedReply, positive, copied, Board.meter]

theorem ack_eq_nil_iff (board : Board) : board.meter.ack = [] ↔ board.udpAckLen = 0 := by
  rw [← List.length_eq_zero_iff]
  simp only [Board.meter, Buffer.toList_length]
  constructor
  · intro zero
    exact UInt8.toNat_inj.mp zero
  · intro zero
    rw [zero]
    rfl

theorem repliesToOwn_iff_step (task : UdpTask) (activity : Activity) :
    RepliesToOwn task activity ↔ AnswersOrFresh task activity := by
  cases activity with
  | others => exact Iff.rfl
  | receive turn =>
      apply forall_congr'
      intro sock
      apply forall_congr'
      intro present
      apply forall_congr'
      intro opened
      by_cases none : turn.received.bytes = []
      · have silent := answered_of_no_bytes turn sock none
        constructor
        · intro _
          exact .inl none
        · intro _ board _
          rw [handedReply_of_no_bytes present opened none,
            builtAck_of_not_answered silent]
      · rw [handedReply_of_bytes present opened none, handle_meter]
        cases answer : (turn.call sock).answered with
        | true =>
            constructor
            · intro _
              exact .inr (.inl rfl)
            · intro _ board same
              rw [builtAck_eq]
              exact handled_ack_of_answered answer same.symm
        | false =>
            rw [handled_of_not_answered answer]
            constructor
            · intro own
              have empty := own task.board rfl
              rw [builtAck_of_not_answered answer, ack_eq_nil_iff] at empty
              exact .inr (.inr empty)
            · rintro (absent | impossible | fresh) board _
              · exact absurd absent none
              · cases impossible
              · rw [builtAck_of_not_answered answer, ack_eq_nil_iff]
                exact fresh

/-- In a run of any length every reply is the answer to its own datagram exactly when every
datagram without an answer of its own comes before the first acknowledgement is built. -/
theorem run_repliesToOwn_iff (task : UdpTask) (activities : List Activity) :
    Along UdpTask.step RepliesToOwn task activities ↔
      Along UdpTask.step AnswersOrFresh task activities :=
  along_iff_along repliesToOwn_iff_step task activities

def booted : UdpTask := ⟨.blank, some .fresh, []⟩

def relayQuery : Turn :=
  ⟨fun _ => 0, fun _ => 0, .datagram ⟨[0x5A, 0x55, 0x01, 0x82, 0xA5], by decide⟩ 0 0⟩

def strayByte : Turn :=
  ⟨fun _ => 0, fun _ => 0, .datagram ⟨[0x00], by decide⟩ 0 0⟩

theorem strayByte_not_repliesToOwn :
    ¬Along UdpTask.step RepliesToOwn booted [.receive relayQuery, .receive strayByte] := by
  rintro ⟨_, own, _⟩
  have stale := (repliesToOwn_iff_step _ _).mp own _ rfl rfl
  revert stale
  decide +kernel

end SmartMeter
