import SmartMeter.Oneshot.OneshotCore
import SmartMeter.Params.ParamLayout

/-!
`dhcp_server.c`: a table of eight addresses, the lookup that picks an entry for a message, the
state machine of the entry and the replies it sends. Addresses are words in network order, as in
the source.
-/

namespace SmartMeter

def dhcpDefaultLeaseTime : UInt32 := 7200
def dhcpDeffaultTimeout : UInt32 := 10

def dhcpMsgDiscover : UInt8 := 1
def dhcpMsgOffer : UInt8 := 2
def dhcpMsgRequest : UInt8 := 3
def dhcpMsgDecline : UInt8 := 4
def dhcpMsgAck : UInt8 := 5
def dhcpMsgNak : UInt8 := 6
def dhcpMsgRelease : UInt8 := 7
def dhcpMsgInform : UInt8 := 8

def dhcpOptionIdPad : UInt8 := 0
def dhcpOptionIdSubnetMask : UInt8 := 1
def dhcpOptionIdDefGw : UInt8 := 3
def dhcpOptionIdDnsServer : UInt8 := 6
def dhcpOptionIdReqIpAddr : UInt8 := 50
def dhcpOptionIdLeaseTime : UInt8 := 51
def dhcpOptionIdMsgType : UInt8 := 53
def dhcpOptionIdServerId : UInt8 := 54
def dhcpOptionIdEnd : UInt8 := 255

def htonl (word : UInt32) : UInt32 :=
  word.toUInt8.toUInt32 <<< 24 + (word >>> 8).toUInt8.toUInt32 <<< 16 +
    (word >>> 16).toUInt8.toUInt32 <<< 8 + (word >>> 24).toUInt8.toUInt32

abbrev ntohl (word : UInt32) : UInt32 := htonl word

theorem htonl_toNat {word : UInt32} {b0 b1 b2 b3 : Nat} (first : b0 < 256) (second : b1 < 256)
    (third : b2 < 256) (fourth : b3 < 256)
    (bytes : word.toNat = b0 + b1 * 256 + b2 * 65536 + b3 * 16777216) :
    (htonl word).toNat = b3 + b2 * 256 + b1 * 65536 + b0 * 16777216 := by
  have low : word.toNat % 256 = b0 := by omega
  have middle : word.toNat / 256 % 256 = b1 := by omega
  have upper : word.toNat / 65536 % 256 = b2 := by omega
  have high : word.toNat / 16777216 % 256 = b3 := by omega
  simp only [htonl, UInt32.toNat_add, UInt32.toNat_shiftLeft, UInt8.toNat_toUInt32,
    UInt32.toNat_toUInt8, UInt32.toNat_shiftRight, UInt32.reduceToNat, Nat.shiftRight_eq_div_pow,
    Nat.shiftLeft_eq, Nat.reduceMod, Nat.reducePow, low, middle, upper, high]
  omega

@[simp] theorem ntohl_htonl (word : UInt32) : ntohl (htonl word) = word := by
  have bound := word.toNat_lt
  have bytes : word.toNat = word.toNat % 256 + word.toNat / 256 % 256 * 256 +
      word.toNat / 65536 % 256 * 65536 + word.toNat / 16777216 * 16777216 := by omega
  have byte (value : Nat) : value % 256 < 256 := Nat.mod_lt _ (by decide)
  have high : word.toNat / 16777216 < 256 := by omega
  apply UInt32.toNat_inj.mp
  rw [htonl_toNat high (byte _) (byte _) (byte _)
    (htonl_toNat (byte _) (byte _) (byte _) high bytes)]
  exact bytes.symm

inductive DhcpClientState
  | idle
  | select
  | request
  | bind
deriving Repr, DecidableEq

structure DhcpClient where
  state : DhcpClientState
  timeout : UInt32
  ipAddr : UInt32
  macAddr : EtherAddr
  lease : UInt32
deriving DecidableEq

structure DhcpServer where
  enable : Bool
  serverIpAddr : UInt32
  startIpAddr : UInt32
  subnetMask : UInt32
  gateWay : UInt32
  dns1 : UInt32
  dns2 : UInt32
  leaseTime : UInt32
  clients : Fin 8 → DhcpClient

/-- A reply as it is generated. `dest` is `none` for the broadcast address. -/
structure DhcpReply where
  msgType : UInt8
  xid : UInt32
  yiaddr : UInt32
  siaddr : UInt32
  chaddr : EtherAddr
  options : List (UInt8 × List UInt8)
  dest : Option UInt32
deriving DecidableEq

def wordBytes (word : UInt32) : List UInt8 :=
  (List.range 4).map (byteOf word.toNat)

namespace DhcpClient

/-- The MAC address is kept as history only for a client that was bound. -/
def forget (client : DhcpClient) : DhcpClient :=
  if client.state ≠ .bind then { client with macAddr := .zero } else client

def toIdle (client : DhcpClient) : DhcpClient := { client with state := .idle }

end DhcpClient

namespace DhcpServer

def setClient (server : DhcpServer) (index : Fin 8) (client : DhcpClient) : DhcpServer :=
  { server with clients := Function.update server.clients index client }

def dhcpTickHandle (server : DhcpServer) : DhcpServer :=
  if server.enable = false then server
  else
    { server with
      clients := fun index =>
        let client := server.clients index
        if client.state = .request ∧ client.timeout ≠ 0 then
          if client.timeout - 1 = 0 then
            { client with timeout := client.timeout - 1, macAddr := .zero, state := .idle }
          else { client with timeout := client.timeout - 1 }
        else client }

def firstClient (server : DhcpServer) (wanted : DhcpClient → Bool) : Option (Fin 8) :=
  (List.finRange 8).find? fun index => wanted (server.clients index)

def lastClient (server : DhcpServer) (wanted : DhcpClient → Bool) : Option (Fin 8) :=
  (List.finRange 8).reverse.find? fun index => wanted (server.clients index)

section Lookup

variable (macAddr : EtherAddr) (reqIpAddr serverId : UInt32) (server : DhcpServer)

def myHistoryClient : Option (Fin 8) :=
  server.firstClient fun client => client.state = .idle ∧ client.macAddr = macAddr

def reqClient : Option (Fin 8) :=
  server.firstClient fun client => client.state = .idle ∧ client.ipAddr = reqIpAddr

def freeClient : Option (Fin 8) :=
  server.firstClient fun client => client.state = .idle ∧ client.macAddr = .zero

def historyClient : Option (Fin 8) :=
  server.firstClient fun client => client.state = .idle ∧ client.macAddr ≠ .zero

def myClient : Option (Fin 8) :=
  server.lastClient fun client => client.state ≠ .idle ∧ client.macAddr = macAddr

/-- Another client negotiates for the requested address or has it. -/
def ipUnavailable : Bool :=
  (List.finRange 8).any fun index =>
    let client := server.clients index
    client.state ≠ .idle ∧ client.macAddr ≠ macAddr ∧ client.ipAddr = reqIpAddr

def forMe : Prop := serverId = 0 ∨ server.serverIpAddr = serverId

instance : Decidable (server.forMe serverId) :=
  inferInstanceAs (Decidable (serverId = 0 ∨ server.serverIpAddr = serverId))

def lookupDiscover : Option (Fin 8) × DhcpServer :=
  match server.myClient macAddr with
  | some mine =>
      let client := (server.clients mine).toIdle
      match server.reqClient reqIpAddr with
      -- The entry is idle by now, so its MAC address is cleared even if the client was bound.
      | some requested => (some requested, server.setClient mine client.forget)
      | none => (some mine, server.setClient mine client)
  | none =>
      (server.reqClient reqIpAddr <|> server.myHistoryClient macAddr <|> server.freeClient <|>
        server.historyClient, server)

def lookupRequest : Option (Fin 8) × DhcpServer :=
  match server.myClient macAddr with
  | some mine =>
      let left := server.setClient mine (server.clients mine).forget.toIdle
      if server.ipUnavailable macAddr reqIpAddr then (none, left)
      else
        match server.reqClient reqIpAddr with
        | some requested => (if server.forMe serverId then some requested else none, left)
        | none => (if server.forMe serverId then some mine else none, server)
  | none =>
      if server.ipUnavailable macAddr reqIpAddr then (none, server)
      else (if server.forMe serverId then server.reqClient reqIpAddr else none, server)

def lookupRelease : Option (Fin 8) × DhcpServer :=
  match server.myClient macAddr with
  | some mine => (none, server.setClient mine (server.clients mine).forget.toIdle)
  | none => (none, server)

def takeMac (found : Option (Fin 8) × DhcpServer) : Option (Fin 8) × DhcpServer :=
  match found.1 with
  | some index =>
      (some index, found.2.setClient index { found.2.clients index with macAddr := macAddr })
  | none => found

def clientTableLookup (msgType : UInt8) : Option (Fin 8) × DhcpServer :=
  takeMac macAddr <|
    if msgType = dhcpMsgDiscover then server.lookupDiscover macAddr reqIpAddr
    else if msgType = dhcpMsgRequest then server.lookupRequest macAddr reqIpAddr serverId
    else if msgType = dhcpMsgRelease ∨ msgType = dhcpMsgDecline then server.lookupRelease macAddr
    else (none, server)

end Lookup

section Replies

variable (server : DhcpServer) (client : DhcpClient) (clientMacAddr : EtherAddr) (xid : UInt32)
  (flags : UInt16)

def isBroadcastSend : Bool := flags >>> 15 = 1

def dhcpNakGenAndSend : DhcpReply where
  msgType := dhcpMsgNak
  xid := xid
  yiaddr := 0
  siaddr := server.serverIpAddr
  chaddr := clientMacAddr
  options := []
  dest := none

/-- `_DHCPAckGenAndSend` and `_DHCPOfferGenAndSend` differ in the type of the message. -/
def dhcpGrantGenAndSend (msgType : UInt8) : DhcpReply where
  msgType := msgType
  xid := xid
  yiaddr := client.ipAddr
  siaddr := 0
  chaddr := clientMacAddr
  options := [(dhcpOptionIdLeaseTime, wordBytes (htonl dhcpDefaultLeaseTime)),
    (dhcpOptionIdServerId, wordBytes server.serverIpAddr),
    (dhcpOptionIdSubnetMask, wordBytes server.subnetMask),
    (dhcpOptionIdDefGw, wordBytes server.gateWay),
    (dhcpOptionIdDnsServer, wordBytes server.dns1 ++ wordBytes server.dns2)]
  dest := if isBroadcastSend flags then none else some client.ipAddr

def dhcpAckGenAndSend : DhcpReply :=
  server.dhcpGrantGenAndSend client clientMacAddr xid flags dhcpMsgAck

def dhcpOfferGenAndSend : DhcpReply :=
  server.dhcpGrantGenAndSend client clientMacAddr xid flags dhcpMsgOffer

def cleanClientHistory : DhcpServer :=
  { server with
    clients := fun index =>
      let client := server.clients index
      if client.state = .idle ∧ client.macAddr = clientMacAddr then
        { client with macAddr := .zero }
      else client }

end Replies

section StateMachine

variable (server : DhcpServer) (index : Fin 8) (xid : UInt32) (flags : UInt16)

def acknowledge : DhcpReply × DhcpServer :=
  let client := server.clients index
  let bound := { client with lease := dhcpDefaultLeaseTime, state := .bind }
  (server.dhcpAckGenAndSend client client.macAddr xid flags,
    (server.setClient index bound).cleanClientHistory client.macAddr)

def offer : DhcpReply × DhcpServer :=
  let client := server.clients index
  (server.dhcpOfferGenAndSend client client.macAddr xid flags,
    server.setClient index { client with timeout := dhcpDeffaultTimeout, state := .request })

/-- An idle entry falls through to the offer unless the message is a `REQUEST`; the state it has
in between is overwritten there. -/
def dhcpClientSMEHandle (msgType : UInt8) : DhcpReply × DhcpServer :=
  match (server.clients index).state with
  | .idle =>
      if msgType = dhcpMsgDiscover then
        let client := { server.clients index with state := .select }
        (server.setClient index client).offer index xid flags
      else if msgType = dhcpMsgRequest then server.acknowledge index xid flags
      else server.offer index xid flags
  | .select => server.offer index xid flags
  | .request => server.acknowledge index xid flags
  | .bind => server.acknowledge index xid flags

end StateMachine

/-- `DHCPS_GetIpByMac`, `none` for `NULL`. -/
def getIpByMac (server : DhcpServer) (macAddr : EtherAddr) : Option UInt32 :=
  (server.firstClient fun client => client.macAddr = macAddr).map fun index =>
    (server.clients index).ipAddr

def clientDelete (server : DhcpServer) (macAddr : EtherAddr) : Int × DhcpServer :=
  if server.enable = false then (-6, server)
  else
    match server.firstClient fun client => client.state ≠ .idle ∧ client.macAddr = macAddr with
    | some index =>
        if (server.clients index).state ≠ .bind then (-4, server)
        else (0, server.setClient index (server.clients index).toIdle)
    | none => (-5, server)

end DhcpServer

structure DhcpOptions where
  hasMsgType : Bool
  hasReqIpAddr : Bool
  hasServerId : Bool
  msgType : UInt8
  reqIpAddr : UInt32
  serverId : UInt32
deriving DecidableEq

def dhcpMsgSize : Nat := 548

def parseDhcpOption (msg : Nat → UInt8) (pos : Nat) (found : DhcpOptions) : DhcpOptions :=
  if msg pos = dhcpOptionIdMsgType then
    { found with msgType := msg (pos + 2), hasMsgType := true }
  else if msg pos = dhcpOptionIdReqIpAddr then
    { found with reqIpAddr := UInt32.ofNat (wordAt msg (pos + 2) 4), hasReqIpAddr := true }
  else if msg pos = dhcpOptionIdServerId then
    { found with serverId := UInt32.ofNat (wordAt msg (pos + 2) 4), hasServerId := true }
  else found

-- Every round moves on, so the size of the options is enough rounds.
def parseLoop (msg : Nat → UInt8) : Nat → Nat → DhcpOptions → DhcpOptions
  | 0, _, found => found
  | rounds + 1, pos, found =>
      if msg pos ≠ dhcpOptionIdEnd ∧ pos < dhcpMsgSize then
        if msg pos = dhcpOptionIdPad then parseLoop msg rounds (pos + 1) found
        else parseLoop msg rounds (pos + 2 + (msg (pos + 1)).toNat) (parseDhcpOption msg pos found)
      else found

def parseDhcpOptions (msg : Nat → UInt8) : DhcpOptions :=
  parseLoop msg 308 240 ⟨false, false, false, 0xFF, 0, 0⟩

theorem parseLoop_enough (msg : Nat → UInt8) (rounds more pos : Nat) (found : DhcpOptions)
    (enough : dhcpMsgSize ≤ pos + rounds) :
    parseLoop msg (rounds + more) pos found = parseLoop msg rounds pos found := by
  induction rounds generalizing pos found with
  | zero =>
      have outside : ¬(msg pos ≠ dhcpOptionIdEnd ∧ pos < dhcpMsgSize) := by omega
      cases more with
      | zero => rfl
      | succ more => rw [Nat.zero_add, parseLoop, parseLoop, if_neg outside]
  | succ rounds ih =>
      rw [Nat.add_right_comm, parseLoop, parseLoop, ih _ _ (by omega), ih _ _ (by omega)]

/-- What the server finds around it: its own address, the stations that are let in, and the
memory behind `DhcpMsg`. -/
structure DhcpHost where
  macAddr : EtherAddr
  checkMacIsValid : EtherAddr → Bool
  behind : Nat → UInt8

/-- A message that passes the filters of `DHCPS_RecvCb`. -/
structure DhcpRequest where
  chaddr : EtherAddr
  xid : UInt32
  flags : UInt16
  options : DhcpOptions

def dhcpMsgOf (host : DhcpHost) (packet : List UInt8) (index : Nat) : UInt8 :=
  if index < dhcpMsgSize then packet.getD index 0 else host.behind (index - dhcpMsgSize)

def readRequest (host : DhcpHost) (packet : List UInt8) : Option DhcpRequest :=
  let msg := dhcpMsgOf host packet
  let chaddr : EtherAddr := ⟨msg 28, msg 29, msg 30, msg 31, msg 32, msg 33⟩
  if packet.length = 0 ∨ msg 0 ≠ 1 ∨ ntohl (UInt32.ofNat (wordAt msg 236 4)) ≠ 0x63825363 ∨
      msg 1 ≠ 1 then none
  else if host.macAddr = chaddr then none
  else if host.checkMacIsValid chaddr = false then none
  else
    let options := parseDhcpOptions msg
    if options.hasMsgType = false then none
    else if options.msgType = dhcpMsgInform then none
    else
      some ⟨chaddr, ntohl (UInt32.ofNat (wordAt msg 4 4)),
        (msg 10).toUInt16 <<< 8 + (msg 11).toUInt16, options⟩

def dhcpPacket (chaddr : List UInt8) (options : List UInt8) : List UInt8 :=
  [1, 1, 6, 0] ++ List.replicate 24 0 ++ chaddr ++ List.replicate 202 0 ++
    [0x63, 0x82, 0x53, 0x63] ++ options ++ [dhcpOptionIdEnd]

def DhcpHost.admitting : DhcpHost := ⟨.zero, fun _ => true, fun _ => 0⟩

example : (readRequest .admitting (dhcpPacket [2, 0, 0, 0, 0, 1] [53, 1, 1])).map (·.options.msgType) =
    some dhcpMsgDiscover := by decide +kernel

namespace DhcpServer

def handleRequest (server : DhcpServer) (request : DhcpRequest) : Option DhcpReply × DhcpServer :=
  let options := request.options
  let looked := server.clientTableLookup request.chaddr options.reqIpAddr options.serverId
    options.msgType
  match looked.1 with
  | some index =>
      let handled := looked.2.dhcpClientSMEHandle index request.xid request.flags options.msgType
      (some handled.1, handled.2)
  | none =>
      if options.msgType ≠ dhcpMsgRelease ∧ options.msgType ≠ dhcpMsgDecline then
        (some (looked.2.dhcpNakGenAndSend request.chaddr request.xid), looked.2)
      else (none, looked.2)

def dhcpsRecvCb (host : DhcpHost) (packet : List UInt8) (server : DhcpServer) :
    Option DhcpReply × DhcpServer :=
  match readRequest host packet with
  | some request => server.handleRequest request
  | none => (none, server)

end DhcpServer

structure Netif where
  up : Bool
  ipAddr : UInt32
  netmask : UInt32

/-- `%` of the source, which is undefined for a divisor of zero. -/
def umod (value divisor : UInt32) : Option UInt32 :=
  if divisor = 0 then none else some (value % divisor)

def wrapHost (mask value : UInt32) : Option UInt32 := do
  let rest ← umod value (~~~mask)
  return if rest ≠ 0 then rest else 1

def poolAddress (mask start : UInt32) (i : Fin 8) : Option UInt32 := do
  let val := ntohl start
  let tmp ← wrapHost mask ((val &&& ~~~mask) + UInt32.ofNat i)
  return htonl ((val &&& mask) ||| tmp)

/-- `pcb` is whether `udp_new` gives one. The result is the code that is returned. -/
def dhcpsStart (netif : Netif) (pcb : Bool) (server : DhcpServer) : Option (Int × DhcpServer) := do
  if netif.up = false then return (-1, server)
  let val := ntohl netif.ipAddr
  let mask := ntohl netif.netmask
  let tmp ← wrapHost mask ((val &&& ~~~mask) + 1)
  let start := htonl ((val &&& mask) ||| tmp)
  let pool ← (List.finRange 8).mapM (poolAddress mask start)
  return (if pcb then 0 else -3,
    { enable := pcb
      serverIpAddr := netif.ipAddr
      startIpAddr := start
      subnetMask := netif.netmask
      gateWay := netif.ipAddr
      dns1 := netif.ipAddr
      dns2 := 0
      leaseTime := dhcpDefaultLeaseTime
      clients := fun index =>
        ⟨.idle, 0, pool.getD index 0, .zero, dhcpDefaultLeaseTime⟩ })

inductive DhcpEvent
  | message (host : DhcpHost) (packet : List UInt8)
  | tick
  | clientDelete (macAddr : EtherAddr)

namespace DhcpEvent

def step (server : DhcpServer) : DhcpEvent → DhcpServer
  | message host packet => (server.dhcpsRecvCb host packet).2
  | tick => server.dhcpTickHandle
  | clientDelete macAddr => (server.clientDelete macAddr).2

def reply (server : DhcpServer) : DhcpEvent → Option DhcpReply
  | message host packet => (server.dhcpsRecvCb host packet).1
  | tick => none
  | clientDelete _ => none

end DhcpEvent

end SmartMeter
