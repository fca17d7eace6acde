import SmartMeter.Udp.DataHandleCore

/-!
The receive task of `wm_wifi.c`: one turn of `SockRcvTaskProc` over the socket record,
the board and the messages it posts to the Wi-Fi task.
-/

namespace SmartMeter

def userSockBufSize : Nat := 1024

inductive Msg
  | netUp
  | netDown
  | oneshot
  | key
  | socketErr
  | socketSnd
deriving Repr, DecidableEq

structure UserSock where
  sockRx : Nat → UInt8
  sockTx : Nat → UInt8
  connStatus : Int
  socketNum : Int
  remoteIp : UInt32
  remotePort : UInt32
  rxLen : UInt32
  txLen : UInt32

def UserSock.fresh : UserSock where
  sockRx := fun _ => 0
  sockTx := fun _ => 0
  connStatus := 1
  socketNum := 0
  remoteIp := 0
  remotePort := 0
  rxLen := 0
  txLen := 0

abbrev Datagram := { bytes : List UInt8 // bytes.length ≤ userSockBufSize }

inductive Received
  | datagram (bytes : Datagram) (ip port : UInt32)
  | error

def Received.ret : Received → Int
  | .datagram bytes _ _ => bytes.val.length
  | .error => -1

def Received.bytes : Received → List UInt8
  | .datagram bytes _ _ => bytes.val
  | .error => []

def receiveInto (sockRx : Nat → UInt8) (bytes : List UInt8) : Nat → UInt8 :=
  Buffer.copy (Buffer.fill sockRx 0 (userSockBufSize + 1)) 0 (fun index => bytes.getD index 0)
    bytes.length

/-- `sock_rx` seen through its pointer; `heap` is what lies around the allocation. -/
def rxPointer (heap : CharPtr) (sockRx : Nat → UInt8) : CharPtr :=
  fun offset =>
    if 0 ≤ offset ∧ offset ≤ userSockBufSize then sockRx offset.toNat else heap offset

structure UdpTask where
  board : Board
  userSock : Option UserSock
  queue : List Msg

structure Turn where
  memory : Nat → UInt8
  heap : CharPtr
  received : Received

/-- The call of `Data_Handle`. Its second parameter is a u8: the conversion keeps the low
eight bits of `ret`. -/
def Turn.call (turn : Turn) (sock : UserSock) : Call where
  memory := turn.memory
  data := rxPointer turn.heap (receiveInto sock.sockRx turn.received.bytes)
  length := UInt8.ofInt turn.received.ret

def sockRcvTaskProc (task : UdpTask) (turn : Turn) : UdpTask :=
  match task.userSock with
  | none => task
  | some sock =>
      if sock.connStatus = 1 then
        let board := task.board.handle (turn.call sock)
        let sock := { sock with sockRx := receiveInto sock.sockRx turn.received.bytes }
        let failed := {
          board := board
          userSock := some { sock with socketNum := -1, connStatus := 0 }
          queue := task.queue ++ [.socketErr] }
        match turn.received with
        | .datagram bytes ip port =>
            if 0 < bytes.val.length then {
              board := { board with udpAck := Buffer.fill board.udpAck 0 board.udpAckLen.toNat }
              userSock := some { sock with
                rxLen := sock.rxLen + UInt32.ofNat bytes.val.length
                sockTx := Buffer.copy sock.sockTx 0 board.udpAck board.udpAckLen.toNat
                txLen := board.udpAckLen.toUInt32
                remoteIp := ip
                remotePort := port }
              queue := task.queue ++ [.socketSnd] }
            else failed
        | .error => failed
      else task

end SmartMeter
