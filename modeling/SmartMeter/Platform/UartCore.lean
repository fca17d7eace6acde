import SmartMeter.Library.RingBuffer

/-!
The receive side of `wm_uart.c` for UART1: the circular buffer of the port, the receive
part of its interrupt handler and `tls_uart_read`.
-/

namespace SmartMeter

open RingBuffer

def tlsUartRxBufSize : Nat := 4096
def rxCacheLimit : Nat := 128

abbrev TlsUartCircBuf := Ring UInt8 tlsUartRxBufSize

def circCnt (head tail size : UInt32) : UInt32 :=
  (head - tail) &&& (size - 1)

def circSpace (head tail size : UInt32) : UInt32 :=
  circCnt tail (head + 1) size

def TlsUartCircBuf.cnt (recv : TlsUartCircBuf) : Nat :=
  (circCnt (UInt32.ofNat recv.head) (UInt32.ofNat recv.tail) (UInt32.ofNat tlsUartRxBufSize)).toNat

def TlsUartCircBuf.space (recv : TlsUartCircBuf) : Nat :=
  (circSpace (UInt32.ofNat recv.head) (UInt32.ofNat recv.tail)
    (UInt32.ofNat tlsUartRxBufSize)).toNat

/-- What the handler finds: the six-bit fill level bounds the bytes taken from the FIFO,
which are thrown away when the interrupt reports a reception error. -/
structure RxInterrupt where
  error : Bool
  fifo : List UInt8
  fifo_length : fifo.length ≤ 63

def uart1IrqReceive (recv : TlsUartCircBuf) (intr : RxInterrupt) : TlsUartCircBuf :=
  let recv := if TlsUartCircBuf.space recv ≤ rxCacheLimit then recv.drop rxCacheLimit else recv
  if intr.error then recv else intr.fifo.foldl Ring.push recv

def tlsUartRead (recv : TlsUartCircBuf) (buf : Nat → UInt8) (offset readsize : Nat) :
    Int × (Nat → UInt8) × TlsUartCircBuf :=
  if readsize < 1 then (-1, buf, recv)
  else if readsize ≤ TlsUartCircBuf.cnt recv then
    let buflen := readsize
    let buf :=
      if recv.tail + buflen > tlsUartRxBufSize then
        let bufcopylen := tlsUartRxBufSize - recv.tail
        let buf := Buffer.copy buf offset (fun index => recv.cells (recv.tail + index)) bufcopylen
        Buffer.copy buf (offset + bufcopylen) recv.cells (buflen - bufcopylen)
      else Buffer.copy buf offset (fun index => recv.cells (recv.tail + index)) buflen
    (buflen, buf, recv.drop buflen)
  else (0, buf, recv)

theorem circCnt_toNat {head tail : Nat} (headBound : head ≤ 4096) (tailBound : tail ≤ 4096) :
    (circCnt (UInt32.ofNat head) (UInt32.ofNat tail) (UInt32.ofNat tlsUartRxBufSize)).toNat =
      (head + 4096 - tail) % 4096 := by
  have mask : (UInt32.ofNat tlsUartRxBufSize - 1).toNat = 2 ^ 12 - 1 := by decide
  simp only [circCnt, UInt32.toNat_and, UInt32.toNat_sub, UInt32.toNat_ofNat', mask,
    Nat.and_two_pow_sub_one_eq_mod]
  omega

@[simp] theorem cnt_eq_count (recv : TlsUartCircBuf) :
    TlsUartCircBuf.cnt recv = recv.count := by
  have headBound := recv.head_lt
  have tailBound := recv.tail_lt
  have size : tlsUartRxBufSize = 4096 := rfl
  exact circCnt_toNat (by omega) (by omega)

@[simp] theorem space_eq (recv : TlsUartCircBuf) :
    TlsUartCircBuf.space recv = 4095 - recv.count := by
  have headBound := recv.head_lt
  have tailBound := recv.tail_lt
  have size : tlsUartRxBufSize = 4096 := rfl
  have next : UInt32.ofNat recv.head + 1 = UInt32.ofNat (recv.head + 1) :=
    (UInt32.ofNat_add recv.head 1).symm
  have space := circCnt_toNat (by omega : recv.tail ≤ 4096) (by omega : recv.head + 1 ≤ 4096)
  have count : recv.count = (recv.head + 4096 - recv.tail) % 4096 := rfl
  rw [TlsUartCircBuf.space, circSpace, next, space, count]
  omega

theorem contents_uart1IrqReceive (recv : TlsUartCircBuf) (intr : RxInterrupt) :
    (uart1IrqReceive recv intr).contents =
      (if 4095 - recv.count ≤ rxCacheLimit then recv.contents.drop rxCacheLimit
        else recv.contents) ++ (if intr.error then [] else intr.fifo) := by
  have size : tlsUartRxBufSize = 4096 := rfl
  have limit : rxCacheLimit = 128 := rfl
  have countBound := recv.count_lt
  have fifoBound := intr.fifo_length
  unfold uart1IrqReceive
  rw [space_eq]
  by_cases full : 4095 - recv.count ≤ rxCacheLimit
  · have dropped := recv.count_drop (by omega : rxCacheLimit ≤ recv.count)
    simp only [full, if_true]
    rw [← recv.contents_drop (by omega : rxCacheLimit ≤ recv.count)]
    cases intr.error with
    | true => simp
    | false => exact Ring.contents_pushAll _ _ (by omega)
  · simp only [full, if_false]
    cases intr.error with
    | true => simp
    | false => exact Ring.contents_pushAll _ _ (by omega)

theorem tlsUartRead_short (recv : TlsUartCircBuf) (buf : Nat → UInt8) (offset : Nat)
    {readsize : Nat} (positive : 0 < readsize) (short : recv.contents.length < readsize) :
    tlsUartRead recv buf offset readsize = (0, buf, recv) := by
  rw [Ring.contents_length] at short
  rw [tlsUartRead, if_neg (by omega), if_neg (by rw [cnt_eq_count]; omega)]

theorem tlsUartRead_enough (recv : TlsUartCircBuf) (buf : Nat → UInt8) (offset : Nat)
    {readsize : Nat} (positive : 0 < readsize) (enough : readsize ≤ recv.contents.length) :
    tlsUartRead recv buf offset readsize =
      ((readsize : Int), Buffer.copy buf offset (fun index => recv.contents.getD index 0) readsize,
        recv.drop readsize) := by
  have size : tlsUartRxBufSize = 4096 := rfl
  have tailBound := recv.tail_lt
  have countBound := recv.count_lt
  have counted : readsize ≤ recv.count := by simpa using enough
  have byte (index : Nat) (bound : index < readsize) : recv.contents.getD index 0 =
      recv.cells ((recv.tail + index) % tlsUartRxBufSize) := by
    have inside : index < recv.count := by omega
    simp [Ring.contents, Buffer.toList, inside]
  have before (index : Nat) (inside : recv.tail + index < tlsUartRxBufSize) :
      (recv.tail + index) % tlsUartRxBufSize = recv.tail + index := Nat.mod_eq_of_lt inside
  rw [tlsUartRead, if_neg (by omega), if_pos (by rw [cnt_eq_count]; omega)]
  simp only [Prod.mk.injEq, and_true, true_and]
  funext index
  split
  · simp only [Buffer.copy_apply]
    by_cases second : offset + (tlsUartRxBufSize - recv.tail) ≤ index ∧ index < offset +
        (tlsUartRxBufSize - recv.tail) + (readsize - (tlsUartRxBufSize - recv.tail))
    · have wrapped : (recv.tail + (index - offset)) % tlsUartRxBufSize =
          index - (offset + (tlsUartRxBufSize - recv.tail)) := by
        rw [Nat.mod_eq_sub_mod (by omega), Nat.mod_eq_of_lt (by omega)]
        omega
      rw [if_pos second, if_pos (by omega), byte _ (by omega), wrapped]
    · rw [if_neg second]
      by_cases first : offset ≤ index ∧ index < offset + (tlsUartRxBufSize - recv.tail)
      · rw [if_pos first, if_pos (by omega), byte _ (by omega), before _ (by omega)]
      · rw [if_neg first, if_neg (by omega)]
  · simp only [Buffer.copy_apply]
    by_cases inside : offset ≤ index ∧ index < offset + readsize
    · rw [if_pos inside, if_pos inside, byte _ (by omega), before _ (by omega)]
    · rw [if_neg inside, if_neg inside]

end SmartMeter
