import SmartMeter.Library.Buffer
import Mathlib.Algebra.Group.Nat.Defs

/-!
What a socket receives in between two reports: `cache_tcp_recv` writes it to a ring of 512 bytes,
`hostif_socket_rpt_handle` reads it.
-/

namespace SmartMeter

def tlsSocketRecvBufSize : Nat := 512

namespace SocketCache

def circCnt (head tail : Nat) : Nat := (head + tlsSocketRecvBufSize - tail) % tlsSocketRecvBufSize

def circCntToEnd (head tail : Nat) : Nat :=
  let stop := tlsSocketRecvBufSize - tail
  let n := (head + stop) % tlsSocketRecvBufSize
  if n < stop then n else stop

def circSpaceToEndFull (head tail : Nat) : Nat :=
  let stop := tlsSocketRecvBufSize - 1 - head
  let n := (stop + tail) % tlsSocketRecvBufSize
  if n < stop then n else stop + 1

end SocketCache

/-- The ring of one socket. The write index is always taken modulo the size, the read index is
one behind the write index after a packet that did not fit. -/
structure SocketCache where
  buf : Nat → UInt8
  head : Nat
  tail : Nat
  head_lt : head < tlsSocketRecvBufSize
  tail_le : tail ≤ tlsSocketRecvBufSize

structure Pbuf where
  bytes : List UInt8
  filled : bytes ≠ []
  short : bytes.length < 65536

/-- The variables of the loop of `cache_tcp_recv`; its `tail` is not that of the ring. -/
structure CacheCopy where
  buf : Nat → UInt8
  head : Nat
  tail : Nat
  head_lt : head < tlsSocketRecvBufSize
  tail_le : tail ≤ tlsSocketRecvBufSize
  overflow : Bool
  offset : UInt16
  buflen : UInt16

namespace CacheCopy

def drained (copy : CacheCopy) : CacheCopy :=
  { copy with tail := 0, tail_le := Nat.zero_le _, overflow := true }

def copyChunk (copy : CacheCopy) (bytes : List UInt8) (copylen : Nat) : CacheCopy :=
  let chunk := (bytes.drop copy.offset.toNat).take copylen
  { copy with
    buf := Buffer.copy copy.buf copy.head (fun index => chunk.getD index 0) chunk.length
    head := (copy.head + copylen) % tlsSocketRecvBufSize
    head_lt := Nat.mod_lt _ (by decide)
    offset := copy.offset + UInt16.ofNat copylen
    buflen := copy.buflen - UInt16.ofNat copylen }

def copyLoop (bytes : List UInt8) : Nat → CacheCopy → Option CacheCopy
  | 0, _ => none
  | rounds + 1, copy =>
      let copylen := SocketCache.circSpaceToEndFull copy.head copy.tail
      if copylen = 0 then copyLoop bytes rounds copy.drained
      else
        let copied := copy.copyChunk bytes
          (if copy.buflen.toNat < copylen then copy.buflen.toNat else copylen)
        if copied.offset.toNat ≥ bytes.length then some copied
        else copyLoop bytes rounds copied

end CacheCopy

namespace SocketCache

def startCopy (cache : SocketCache) (pbuf : Pbuf) : CacheCopy :=
  let totLen := UInt16.ofNat pbuf.bytes.length
  let offset := if pbuf.bytes.length ≥ tlsSocketRecvBufSize then
    totLen - UInt16.ofNat tlsSocketRecvBufSize - 1 else 0
  { buf := cache.buf
    head := cache.head
    tail := cache.tail
    head_lt := cache.head_lt
    tail_le := cache.tail_le
    overflow := false
    offset := offset
    buflen := totLen - offset }

/-- `cache_tcp_recv`, `none` when the rounds do not suffice. -/
def cacheTcpRecv (cache : SocketCache) (pbuf : Pbuf) : Option SocketCache := do
  let start := cache.startCopy pbuf
  let copy ← start.copyLoop pbuf.bytes (start.buflen.toNat + 2)
  if copy.overflow then
    return ⟨copy.buf, copy.head, copy.head + 1, copy.head_lt, copy.head_lt⟩
  else
    return ⟨copy.buf, copy.head, cache.tail, copy.head_lt, cache.tail_le⟩

def advance (cache : SocketCache) (ret : Nat) : SocketCache :=
  { cache with
    tail := (cache.tail + ret) % tlsSocketRecvBufSize
    tail_le := Nat.le_of_lt (Nat.mod_lt _ (by decide)) }

def readLoop : Nat → SocketCache → Nat → List UInt8 → SocketCache × List UInt8
  | 0, cache, _, data => (cache, data)
  | rounds + 1, cache, maxsize, data =>
      let toEnd := circCntToEnd cache.head cache.tail
      if toEnd = 0 then (cache, data)
      else
        let ret := if toEnd > maxsize then maxsize else toEnd
        let read := data ++ Buffer.toList (fun index => cache.buf (cache.tail + index)) ret
        if maxsize - ret = 0 then (cache.advance ret, read)
        else readLoop rounds (cache.advance ret) (maxsize - ret) read

/-- `hostif_socket_rpt_handle` on the ring. Every round but the last reads a byte, so there are
rounds enough. -/
def socketRptHandle (cache : SocketCache) (datalen : Nat) : SocketCache × List UInt8 :=
  let cnt := circCnt cache.head cache.tail
  let maxsize := if cnt < datalen then cnt else datalen
  readLoop (maxsize + 1) cache maxsize []

end SocketCache

def decimal (number : Nat) : List Char := Nat.toDigits 10 number

/-- `%d` of a word. -/
def signedDecimal (word : UInt32) : List Char :=
  if word.toNat < 2147483648 then decimal word.toNat
  else '-' :: decimal (4294967296 - word.toNat)

def cmdindBufSize : Nat := 600

structure SocketRpt where
  sktNum : UInt8
  datalen : UInt16
  ipaddr : UInt32
  port : UInt16

def SocketRpt.header (rpt : SocketRpt) : List Char :=
  "+SKTRPT=".toList ++ decimal rpt.sktNum.toNat ++ [','] ++ decimal rpt.datalen.toNat ++ [','] ++
    signedDecimal rpt.ipaddr ++ [','] ++ decimal rpt.port.toNat ++ "\r\n\r\n".toList

theorem decimal_length {number count : Nat} (positive : 0 < count)
    (bound : number < 10 ^ count) : (decimal number).length ≤ count :=
  (Nat.length_toDigits_le_iff (by decide) positive).mpr bound

theorem signedDecimal_length (word : UInt32) : (signedDecimal word).length ≤ 11 := by
  have small : 4294967296 - word.toNat ≤ 4294967296 := by omega
  unfold signedDecimal
  split
  · exact Nat.le_succ_of_le (decimal_length (by decide)
      (Nat.lt_of_lt_of_le word.toNat_lt (by decide)))
  · exact Nat.succ_le_succ (decimal_length (by decide) (Nat.lt_of_le_of_lt small (by decide)))

theorem SocketRpt.header_length (rpt : SocketRpt) : rpt.header.length ≤ 39 := by
  have skt : (decimal rpt.sktNum.toNat).length ≤ 3 :=
    decimal_length (by decide) (Nat.lt_of_lt_of_le rpt.sktNum.toNat_lt (by decide))
  have datalen : (decimal rpt.datalen.toNat).length ≤ 5 :=
    decimal_length (by decide) (Nat.lt_of_lt_of_le rpt.datalen.toNat_lt (by decide))
  have port : (decimal rpt.port.toNat).length ≤ 5 :=
    decimal_length (by decide) (Nat.lt_of_lt_of_le rpt.port.toNat_lt (by decide))
  have ipaddr := signedDecimal_length rpt.ipaddr
  have front : "+SKTRPT=".toList.length = 8 := by decide
  have back : "\r\n\r\n".toList.length = 4 := by decide
  unfold SocketRpt.header
  rw [List.length_append, List.length_append, List.length_append, List.length_append,
    List.length_append, List.length_append, List.length_append, List.length_append, front, back,
    List.length_singleton]
  omega

end SmartMeter
