import SmartMeter.Udp.WifiCore

/-!
`wm_wifi.c` as one machine: the Wi-Fi task with its queue, the status callback and the key
timer that post to it, and the receive task beside it. One message is handled in one step, up
to the `tls_os_time_delay` of `MSG_SOCKET_ERR`; the receive task stops in `recvfrom`. A state
is `none` once `user_sock_u` was accessed while NULL.
-/

namespace SmartMeter

def wifiQueueSize : Nat := 4
def keyLongCount : UInt32 := 10
def numSockets : Nat := 8
def wmIoPa00 : Nat := 0
def netifWifiDisconnected : UInt8 := 0x3
def netifIpNetUp : UInt8 := 0x4

structure Sent where
  ip : UInt32
  port : UInt32
  bytes : List UInt8
deriving DecidableEq

/-- The network stack seen from here: the sockets this file has opened and not yet closed, and
what it took over from `sendto`. -/
structure Network where
  opened : List Int
  sent : List Sent
deriving DecidableEq

/-- What the platform answers during one step of the Wi-Fi task. `busy` are the descriptors the
other users of the stack hold; `sendto` is the length it would take, `none` when it fails. -/
structure Outcome where
  recordMem : Bool
  rxMem : Bool
  txMem : Bool
  netconn : Bool
  busy : List Int
  bind : Bool
  sendto : Option UInt32
  ethifStatus : Bool

/-- `alloc_socket` of lwip takes the first free slot. -/
def Network.freeSlot (network : Network) (busy : List Int) : Option Int :=
  ((List.range numSockets).map Int.ofNat).find? fun slot => slot ∉ network.opened ∧ slot ∉ busy

def Network.socket (network : Network) (outcome : Outcome) : Int × Network :=
  if outcome.netconn then
    match network.freeSlot outcome.busy with
    | some slot => (slot, { network with opened := slot :: network.opened })
    | none => (-1, network)
  else (-1, network)

def Network.closesocket (network : Network) (socketNum : Int) : Network :=
  { network with opened := network.opened.erase socketNum }

def Network.sendto (network : Network) (socketNum : Int) (txLen : UInt32) (outcome : Outcome) :
    Option UInt32 :=
  if socketNum ∈ network.opened then
    outcome.sendto.map fun length => if length ≤ txLen then length else txLen
  else none

structure KeyScan where
  preStatus : UInt8
  status : UInt8
  count : UInt32

structure WifiTask where
  board : Board
  userSock : Option UserSock
  queue : List Msg
  network : Network
  oneshotflag : UInt8
  key : KeyScan
  -- the Wi-Fi task is in the delay of `MSG_SOCKET_ERR`, the receive task in `recvfrom`
  retrying : Bool
  receiving : Bool

def WifiTask.boot (board : Board) : WifiTask where
  board := board
  userSock := none
  queue := []
  network := ⟨[], []⟩
  oneshotflag := 0
  key := ⟨1, 1, 0⟩
  retrying := false
  receiving := false

/-- `tls_os_queue_send` on `gsUserTaskQueue`; nobody looks at its status. -/
def WifiTask.post (task : WifiTask) (msg : Msg) : WifiTask :=
  if task.queue.length < wifiQueueSize then { task with queue := task.queue ++ [msg] } else task

def userWlanStatusChangedEvent (task : WifiTask) (status : UInt8) : WifiTask :=
  if status = netifWifiDisconnected then task.post .netDown
  else if status = netifIpNetUp then task.post .netUp
  else task

def readKey : StateM Gpio UInt8 := do
  tlsGpioCfg wmIoPa00 .input .pullHigh
  tlsGpioRead wmIoPa00

def keyScanTimerProc (task : WifiTask) : WifiTask :=
  let read := readKey.run task.board.gpio
  let key : KeyScan := { task.key with status := read.1 }
  let task : WifiTask := { task with board := { task.board with gpio := read.2 }, key := key }
  if key.status = 0 then
    if key.preStatus ≠ key.status then
      { task with key := { key with preStatus := key.status } }
    else
      let count := key.count + 1
      let task : WifiTask := { task with key := { key with count := count } }
      if keyLongCount = count then task.post .oneshot else task
  else if key.preStatus ≠ key.status then
    let task : WifiTask := { task with key := ⟨1, 1, 0⟩ }
    if keyLongCount > key.count then task.post .key else task
  else task

def closeUdpSock (task : WifiTask) : Option WifiTask :=
  match task.userSock with
  | none => none
  | some sock =>
      if 0 ≤ sock.socketNum then
        some { task with
          network := task.network.closesocket sock.socketNum
          userSock := some { sock with socketNum := -1, connStatus := 0 } }
      else some task

/-- What stands behind the label `error` is the body of `CloseUdpSock` and a message. -/
def createUdpSock (task : WifiTask) (outcome : Outcome) : Option WifiTask :=
  match task.userSock with
  | none => none
  | some sock =>
      -- the descriptor found in the record is not closed before it is overwritten
      let answer := task.network.socket outcome
      let sock := { sock with socketNum := answer.1 }
      let task := { task with network := answer.2, userSock := some sock }
      if answer.1 ≠ -1 ∧ outcome.bind then
        some { task with userSock := some { sock with connStatus := 1 } }
      else (closeUdpSock task).map fun task => task.post .socketErr

def UserSock.allocated : UserSock where
  sockRx := fun _ => 0
  sockTx := fun _ => 0
  connStatus := 0
  socketNum := -1
  remoteIp := 0
  remotePort := 0
  rxLen := 0
  txLen := 0

def Outcome.allocates (outcome : Outcome) : Bool :=
  outcome.recordMem && outcome.rxMem && outcome.txMem

/-- A record that cannot be completed is freed again, and `user_sock_u` stays NULL. -/
def socketUdp (task : WifiTask) (outcome : Outcome) : Option WifiTask :=
  match task.userSock with
  | some _ => createUdpSock task outcome
  | none =>
      if outcome.allocates then
        createUdpSock { task with userSock := some .allocated } outcome
      else some task

def socketSnd (task : WifiTask) (outcome : Outcome) : Option WifiTask :=
  match task.userSock with
  | none => none
  | some sock =>
      if 0 < sock.txLen then
        match task.network.sendto sock.socketNum sock.txLen outcome with
        | none => some task
        | some ret =>
            -- `sock_tx` itself is not moved on: a second send starts at the front again
            let handed := ⟨sock.remoteIp, sock.remotePort, Buffer.toList sock.sockTx ret.toNat⟩
            let task := { task with
              network := { task.network with sent := task.network.sent ++ [handed] }
              userSock := some { sock with txLen := sock.txLen - ret } }
            some (if 0 < sock.txLen - ret then task.post .socketSnd else task)
      else some task

def WifiTask.handleMsg (task : WifiTask) (outcome : Outcome) : Msg → Option WifiTask
  | .netUp => socketUdp { task with oneshotflag := 0 } outcome
  | .netDown => closeUdpSock task
  | .oneshot => some { task with oneshotflag := 1 }
  | .socketSnd => socketSnd task outcome
  | .socketErr => some { task with retrying := outcome.ethifStatus }
  | .key => some task

/-- The Wi-Fi task goes on: behind the delay of `MSG_SOCKET_ERR`, or with the next message. -/
def wifiTaskProc (task : WifiTask) (outcome : Outcome) : Option WifiTask :=
  if task.retrying then socketUdp { task with retrying := false } outcome
  else
    match task.queue with
    | [] => some task
    | msg :: queue => { task with queue := queue }.handleMsg outcome msg

/-- The head of the loop of `SockRcvTaskProc`, up to the call of `recvfrom`. -/
def WifiTask.poll (task : WifiTask) : WifiTask :=
  match task.userSock with
  | none => task
  | some sock => if sock.connStatus = 1 then { task with receiving := true } else task

/-- The rest of the loop, from the return of `recvfrom` on. -/
def WifiTask.received (task : WifiTask) (turn : Turn) : Option WifiTask :=
  match task.userSock with
  | none => none
  | some sock =>
      let board := task.board.handle (turn.call sock)
      let sock := { sock with sockRx := receiveInto sock.sockRx turn.received.bytes }
      let failed := { task with
        board := board
        network := task.network.closesocket sock.socketNum
        userSock := some { sock with socketNum := -1, connStatus := 0 } }.post .socketErr
      match turn.received with
      | .datagram bytes ip port =>
          if 0 < bytes.val.length then
            some ({ task with
              board := { board with udpAck := Buffer.fill board.udpAck 0 board.udpAckLen.toNat }
              userSock := some { sock with
                rxLen := sock.rxLen + UInt32.ofNat bytes.val.length
                sockTx := Buffer.copy sock.sockTx 0 board.udpAck board.udpAckLen.toNat
                txLen := board.udpAckLen.toUInt32
                remoteIp := ip
                remotePort := port } }.post .socketSnd)
          else some failed
      | .error => some failed

inductive WifiEvent
  | status (status : UInt8)
  | keyScan
  | wifiTask (outcome : Outcome)
  | poll
  | received (turn : Turn)
  | others (i2c : I2cController (Eeprom × Rtc)) (gpio : Gpio)

def WifiTask.next (task : WifiTask) : WifiEvent → Option WifiTask
  | .status status => some (userWlanStatusChangedEvent task status)
  | .keyScan => some (keyScanTimerProc task)
  | .wifiTask outcome => wifiTaskProc task outcome
  | .poll => some task.poll
  | .received turn =>
      if task.receiving then { task with receiving := false }.received turn else some task
  | .others i2c gpio => some { task with board := { task.board with i2c := i2c, gpio := gpio } }

def wifiStep (state : Option WifiTask) (event : WifiEvent) : Option WifiTask :=
  state.bind fun task => task.next event

end SmartMeter
