import SmartMeter.Dhcp.DhcpCore

/-!
`dns_server.c`: the configured name, its comparison with the name of a query, and the answers to
a message. Memory is what the code may read: a read anywhere else has no result.
-/

namespace SmartMeter

def dnsNameSize : Nat := 32

/-- `DnsServer` as far as messages are answered from it; `dnsName` has `dnsNameSize` cells. -/
structure DnsServer where
  dnsName : Nat → UInt8
  hostIp : UInt32

/-- `DNSS_Config`; the name is without its closing zero. -/
def dnssConfig (server : DnsServer) (dnsName : List UInt8) : Int × DnsServer :=
  if dnsName.length > 32 then (2, server)
  else (0, { server with dnsName := fun index => dnsName.getD index 0 })

/-- `strlen`, which needs a zero in the text. -/
def strlen (text : List UInt8) : Option Nat := text.findIdx? (· == 0)

def DnsServer.readName (server : DnsServer) (index : Int) : Option UInt8 :=
  if 0 ≤ index ∧ index < dnsNameSize then some (server.dnsName index.toNat) else none

def isCompressed (n : UInt8) : Bool := n &&& 0xC0 == 0xC0

namespace DnsServer

/-- The inner loop over a label: `none` in place of the two pointers when a character differs. -/
def compareLabel (server : DnsServer) : Nat → Int → List UInt8 →
    Option (Option (Int × List UInt8))
  | 0, myDns, query => some (some (myDns, query))
  | n + 1, myDns, query =>
      match server.readName myDns, query with
      | some mine, theirs :: query =>
          if mine ≠ theirs then some none else compareLabel server n (myDns + 1) query
      | _, _ => none

def nameEnds (server : DnsServer) (myDns : Int) : Option Int :=
  (server.readName (myDns - 1)).map fun byte => if byte = 0 then 0 else 1

-- Every round takes a byte of the query, so its size is enough rounds.
def compareLoop (server : DnsServer) : Nat → Int → List UInt8 → Option Int
  | 0, _, _ => none
  | _ + 1, _, [] => none
  | rounds + 1, myDns, n :: query =>
      if isCompressed n then server.nameEnds myDns
      else
        match server.compareLabel n.toNat myDns query with
        | none => none
        | some none => some 1
        | some (some (_, [])) => none
        | some (some (myDns, next :: query)) =>
            if next ≠ 0 then compareLoop server rounds (myDns + 1) (next :: query)
            else server.nameEnds (myDns + 1)

/-- `_DnsCompareName`; the length of an empty query, less one, is the greatest `size_t`. -/
def dnsCompareName (server : DnsServer) (query : List UInt8) : Option Int := do
  let length ← strlen query
  if length = 0 ∨ length - 1 > 32 then return 1
  server.compareLoop query.length 0 query

end DnsServer

def dnsFlag1Response : UInt8 := 0x80
def dnsFlag1OpcodeStandard : UInt8 := 0x00
def dnsFlag2ErrNone : UInt8 := 0x00
def dnsFlag2ErrName : UInt8 := 0x03
def dnsHeaderSize : Nat := 12
def dnsQuerySize : Nat := 4
def dnsAnswerSize : Nat := 8

/-- A reply: the bytes written, how many were allocated for them, and whether an address is
among them. -/
structure DnsReply where
  bytes : List UInt8
  allocated : Nat
  hasAddress : Bool

structure DnsHost where
  msgMemory : Bool
  replyMemory : Bool
  pbufMemory : Bool
  netifUp : Bool

def alignWord (length : Nat) : Nat := (length + 3) / 4 * 4

def dnsNameErrGenAndSend (host : DnsHost) (dnsQuery queryName transactionId : List UInt8) :
    Option DnsReply :=
  if host.replyMemory ∧ host.pbufMemory then
    some {
      bytes := transactionId ++ [dnsFlag1Response, dnsFlag2ErrName, 0, 1, 0, 0, 0, 0, 0, 0] ++
        queryName ++ dnsQuery
      allocated := alignWord (dnsHeaderSize + queryName.length + dnsQuerySize)
      hasAddress := false }
  else none

namespace DnsServer

/-- `_DNSAnswerGenAndSend`: type A, class IN, a time of 3600 and an address of four bytes. -/
def dnsAnswerGenAndSend (server : DnsServer) (host : DnsHost)
    (dnsQuery queryName transactionId : List UInt8) : Option DnsReply :=
  if host.replyMemory ∧ host.pbufMemory then
    some {
      bytes := transactionId ++ [dnsFlag1Response, dnsFlag2ErrNone, 0, 1, 0, 1, 0, 0, 0, 0] ++
        queryName ++ dnsQuery ++ [0xC0, 12] ++ [0, 1, 0, 1, 0, 0, 0x0E, 0x10] ++ [0, 4] ++
        wordBytes server.hostIp
      allocated := alignWord
        (dnsHeaderSize + queryName.length + dnsQuerySize + 2 + dnsAnswerSize + 2 + 4)
      hasAddress := true }
  else none

/-- `DNSS_RecvCb`: no result for a read outside, else the reply that is sent, if any. -/
def dnssRecvCb (server : DnsServer) (host : DnsHost) (payload : List UInt8) :
    Option (Option DnsReply) := do
  if host.msgMemory = false then return none
  let dnsFlag1 ← payload[2]?
  if dnsFlag1 &&& dnsFlag1Response ≠ 0 ∨ dnsFlag1 &&& ((0xF : UInt8) <<< 3) ≠ dnsFlag1OpcodeStandard then
    return none
  let dnsName := payload.drop dnsHeaderSize
  let length ← strlen dnsName
  let dnsQuery := (dnsName.drop (length + 1)).take dnsQuerySize
  if dnsQuery.length < dnsQuerySize then none
  else if dnsQuery.drop 2 ≠ [0, 1] ∧ dnsQuery.take 2 ≠ [0, 1] then return none
  else
    let compared ← server.dnsCompareName dnsName
    let queryName := dnsName.take (length + 1)
    let transactionId := payload.take 2
    if compared ≠ 0 then
      return if host.netifUp then none
        else dnsNameErrGenAndSend host dnsQuery queryName transactionId
    else return server.dnsAnswerGenAndSend host dnsQuery queryName transactionId

end DnsServer

end SmartMeter
