import SmartMeter.Platform.UartCore

/-!
The AT command lines of a UART: `parse_atcmd_line` and what it calls, on the ring in which the
interrupt handler puts the received bytes.
-/

namespace SmartMeter

open RingBuffer

def memchr (cells : Nat → UInt8) (value : UInt8) : Nat → Nat → Option Nat
  | _, 0 => none
  | src, len + 1 => if cells src = value then some src else memchr cells value (src + 1) len

def findAtcmdEol (cells : Nat → UInt8) (src len : Nat) : Option Nat :=
  match memchr cells 13 src len, memchr cells 10 src len with
  | some p, some q =>
      if p > q + 1 then some q
      else if q > p + 1 then some p
      else if p = q + 1 then some p
      else if q = p + 1 then some q
      else none
  | some p, none => some p
  | none, some q => some q
  | none, none => none

theorem tlsUartRxBufSize_pos : 0 < tlsUartRxBufSize := by decide

namespace TlsUartCircBuf

def discard (recv : TlsUartCircBuf) : TlsUartCircBuf :=
  { recv with tail := recv.head, tail_lt := recv.head_lt }

def modifyAtcmdTail (recv : TlsUartCircBuf) (p : Nat) : TlsUartCircBuf :=
  let cmdLen := p - recv.tail
  if cmdLen > 128 then recv.discard else recv.drop cmdLen

def jumpEol (recv : TlsUartCircBuf) : TlsUartCircBuf :=
  if recv.cells recv.tail = 13 ∨ recv.cells recv.tail = 10 then recv.drop 1 else recv

def parseAtcmdEol (recv : TlsUartCircBuf) : Option Nat × TlsUartCircBuf :=
  let (p, recv) :=
    if recv.head > recv.tail then
      match findAtcmdEol recv.cells recv.tail (recv.head - recv.tail) with
      | some p => (some p, recv.modifyAtcmdTail p)
      | none => (none, recv)
    else
      match findAtcmdEol recv.cells recv.tail (tlsUartRxBufSize - recv.tail) with
      | some p => (some p, recv.modifyAtcmdTail p)
      | none =>
          match findAtcmdEol recv.cells 0 recv.head with
          | some p => (some p, recv.modifyAtcmdTail (p + tlsUartRxBufSize))
          | none => (none, recv)
  (p, jumpEol recv)

/-- The test for `at+` at the tail. -/
def AtPrefix (recv : TlsUartCircBuf) : Prop :=
  (recv.ahead 0 = 65 ∨ recv.ahead 0 = 97) ∧ (recv.ahead 1 = 84 ∨ recv.ahead 1 = 116) ∧
    recv.ahead 2 = 43

instance (recv : TlsUartCircBuf) : Decidable recv.AtPrefix :=
  inferInstanceAs (Decidable (_ ∧ _ ∧ _))

end TlsUartCircBuf

def lineCells (atcmdStart ptrEol : Nat) : List Nat :=
  if ptrEol ≥ atcmdStart then List.range' atcmdStart (ptrEol - atcmdStart)
  else
    let tailLen := tlsUartRxBufSize - 1 - atcmdStart + 1
    List.range' atcmdStart tailLen ++ List.range ptrEol

/-- What `tls_hostif_cmd_handler` is passed: the buffer up to its closing zero, and the length. -/
structure AtcmdCommand where
  buf : List UInt8
  length : Nat
deriving DecidableEq

def closeCommand (buf : List UInt8) : AtcmdCommand :=
  let cmdLen := buf.length
  if buf.getD (cmdLen - 2) 0 = 13 ∨ buf.getD (cmdLen - 2) 0 = 10 then
    ⟨buf.take (cmdLen - 2) ++ [10, 0], cmdLen - 1⟩
  else if buf.getD (cmdLen - 1) 0 = 13 ∨ buf.getD (cmdLen - 1) 0 = 10 then
    ⟨buf.take (cmdLen - 1) ++ [10, 0], cmdLen⟩
  else ⟨buf ++ [10, 0], cmdLen + 1⟩

/-- What a call does to the ring, the cells it copies to a command buffer, the command it passes
on and whether it posts another call. -/
structure AtcmdCall where
  recv : TlsUartCircBuf
  copied : List Nat
  command : Option AtcmdCommand
  posted : Bool

namespace TlsUartCircBuf

def parseLoop (alloc : Nat → Bool) : Nat → TlsUartCircBuf → Option AtcmdCall
  | 0, _ => none
  | rounds + 1, recv =>
      if recv.cnt ≥ 3 then
        if recv.AtPrefix then
          let (ptrEol, after) := parseAtcmdEol (recv.drop 3)
          match ptrEol with
          | none =>
              let recv := if cnt after > 128 then discard after
                else after.drop (tlsUartRxBufSize - 3)
              some ⟨recv, [], none, false⟩
          | some ptrEol =>
              let copied := lineCells recv.tail ptrEol
              if alloc (copied.length + 2) then
                some ⟨after, copied, some (closeCommand (copied.map recv.cells)),
                  decide (cnt after > 0)⟩
              else some ⟨after, [], none, false⟩
        else
          let (ptrEol, after) := recv.parseAtcmdEol
          match ptrEol with
          | none => parseLoop alloc rounds (discard after)
          | some _ => parseLoop alloc rounds after
      else some ⟨recv, [], none, false⟩

/-- A call that eats something in every round but the last has rounds enough. -/
def parseAtcmdLine (alloc : Nat → Bool) (recv : TlsUartCircBuf) : Option AtcmdCall :=
  parseLoop alloc (tlsUartRxBufSize + 1) recv

end TlsUartCircBuf

end SmartMeter
