import SmartMeter.Platform.UartCore

/-!
Runs of receive interrupts and reads on the ring of UART1. The bytes that went into the ring
are the bytes that were read and the blocks that interrupts threw away, in that order of
events, and behind them the bytes still unread.
-/

namespace SmartMeter

open RingBuffer

inductive UartEvent where
  | interrupt (fifo : List UInt8) (fifo_length : fifo.length ≤ 63)
  | read (buf : Nat → UInt8) (readsize : UInt16)

namespace UartEvent

def received : UartEvent → List UInt8
  | interrupt fifo _ => fifo
  | read _ _ => []

def step (recv : TlsUartCircBuf) : UartEvent → TlsUartCircBuf
  | interrupt fifo fifo_length => uart1IrqReceive recv ⟨false, fifo, fifo_length⟩
  | read buf readsize => (tlsUartRead recv buf 0 readsize.toNat).2.2

def returned (recv : TlsUartCircBuf) : UartEvent → List UInt8
  | interrupt _ _ => []
  | read buf readsize =>
      let result := tlsUartRead recv buf 0 readsize.toNat
      Buffer.toList result.2.1 result.1.toNat

/-- An interrupt that finds `RX_CACHE_LIMIT` or fewer free places. -/
def findsLittleSpace (recv : TlsUartCircBuf) : UartEvent → Bool
  | interrupt _ _ => decide (TlsUartCircBuf.space recv ≤ rxCacheLimit)
  | read _ _ => false

def dropped (recv : TlsUartCircBuf) (event : UartEvent) : List UInt8 :=
  if event.findsLittleSpace recv then recv.contents.take rxCacheLimit else []

end UartEvent

def alongEvents {α : Type} (note : TlsUartCircBuf → UartEvent → α) :
    TlsUartCircBuf → List UartEvent → List α
  | _, [] => []
  | recv, event :: rest => note recv event :: alongEvents note (event.step recv) rest

theorem tlsUartRead_contents (recv : TlsUartCircBuf) (buf : Nat → UInt8) (readsize : Nat) :
    recv.contents =
      Buffer.toList (tlsUartRead recv buf 0 readsize).2.1
          (tlsUartRead recv buf 0 readsize).1.toNat ++
        (tlsUartRead recv buf 0 readsize).2.2.contents := by
  by_cases positive : 0 < readsize
  · by_cases enough : readsize ≤ recv.contents.length
    · have counted : readsize ≤ recv.count := by
        rw [← Ring.contents_length]
        exact enough
      have copied : Buffer.toList (Buffer.copy buf 0 (fun index => recv.contents.getD index 0)
          readsize) readsize = recv.contents.take readsize := by
        rw [Buffer.toList_copy_zero, ← Buffer.take_toList _ enough, Buffer.toList_getD]
      rw [tlsUartRead_enough recv buf 0 positive enough]
      dsimp only
      rw [Int.toNat_natCast, copied, recv.contents_drop counted, List.take_append_drop]
    · rw [tlsUartRead_short recv buf 0 positive (by omega)]
      rfl
  · rw [tlsUartRead, if_pos (by omega)]
    rfl

namespace UartEvent

theorem dropped_length (recv : TlsUartCircBuf) (event : UartEvent) :
    (event.dropped recv).length = if event.findsLittleSpace recv then rxCacheLimit else 0 := by
  have size : tlsUartRxBufSize = 4096 := rfl
  have limit : rxCacheLimit = 128 := rfl
  rw [dropped]
  split
  · rename_i little
    cases event with
    | interrupt fifo fifo_length =>
        have full : TlsUartCircBuf.space recv ≤ rxCacheLimit := of_decide_eq_true little
        rw [space_eq] at full
        rw [List.length_take, Ring.contents_length]
        omega
    | read buf readsize => exact absurd little Bool.false_ne_true
  · rfl

/-- One event: what was unread and what comes in is what goes out and what is unread then. -/
theorem step_contents (recv : TlsUartCircBuf) (event : UartEvent) :
    recv.contents ++ event.received =
      event.dropped recv ++ event.returned recv ++ (event.step recv).contents := by
  cases event with
  | interrupt fifo fifo_length =>
      rw [dropped, findsLittleSpace, returned, step, received, contents_uart1IrqReceive, space_eq]
      by_cases full : 4095 - recv.count ≤ rxCacheLimit
      · simp [full, ← List.append_assoc]
      · simp [full]
  | read buf readsize =>
      have cut := tlsUartRead_contents recv buf readsize.toNat
      simpa [dropped, findsLittleSpace, returned, step, received] using cut

/-- The bound behind the one free place: an interrupt makes room for twice what it brings. -/
theorem step_count {recv : TlsUartCircBuf} (bound : recv.count ≤ 4030) (event : UartEvent) :
    (event.step recv).count ≤ 4030 := by
  have limit : rxCacheLimit = 128 := rfl
  have lengths := congrArg List.length (event.step_contents recv)
  simp only [List.length_append, Ring.contents_length, dropped_length] at lengths
  cases event with
  | interrupt fifo fifo_length =>
      rw [findsLittleSpace, space_eq] at lengths
      by_cases full : 4095 - recv.count ≤ rxCacheLimit
      · simp only [full, decide_true, if_true, received, returned, List.length_nil] at lengths
        omega
      · simp only [full, received, returned, List.length_nil] at lengths
        omega
  | read buf readsize =>
      simp only [received, List.length_nil] at lengths
      omega

end UartEvent

theorem run_contents (events : List UartEvent) (recv : TlsUartCircBuf) :
    recv.contents ++ events.flatMap UartEvent.received =
      (List.zipWith (· ++ ·) (alongEvents (fun recv event => event.dropped recv) recv events)
        (alongEvents (fun recv event => event.returned recv) recv events)).flatten ++
        (events.foldl UartEvent.step recv).contents := by
  induction events generalizing recv with
  | nil => simp [alongEvents]
  | cons event rest ih =>
      have first := event.step_contents recv
      have later := ih (event.step recv)
      simp only [alongEvents, List.flatMap_cons, List.zipWith_cons_cons, List.flatten_cons,
        List.foldl_cons]
      rw [← List.append_assoc, first, List.append_assoc, later, ← List.append_assoc]

theorem run_count (events : List UartEvent) {recv : TlsUartCircBuf} (bound : recv.count ≤ 4030) :
    (events.foldl UartEvent.step recv).count ≤ 4030 := by
  induction events generalizing recv with
  | nil => exact bound
  | cons event rest ih => exact ih (event.step_count bound)

theorem alongEvents_dropped_length (events : List UartEvent) (recv : TlsUartCircBuf) :
    (alongEvents (fun recv event => event.dropped recv) recv events).map List.length =
      (alongEvents (fun recv event => event.findsLittleSpace recv) recv events).map
        (fun little => if little then rxCacheLimit else 0) := by
  induction events generalizing recv with
  | nil => rfl
  | cons event rest ih =>
      simp only [alongEvents, List.map_cons, UartEvent.dropped_length, ih]

/-- In every run from an empty ring the received stream is cut, event by event, into the block
that an interrupt drops when it finds too little space and the bytes that a read returns; the
rest is what the ring holds. -/
theorem uart1_receive_stream {recv : TlsUartCircBuf} (empty : recv.head = recv.tail)
    (events : List UartEvent) :
    (events.foldl UartEvent.step recv).head < 4096 ∧
    (events.foldl UartEvent.step recv).tail < 4096 ∧
    ∃ blocks : List (List UInt8),
      blocks.map List.length =
        (alongEvents (fun recv event => event.findsLittleSpace recv) recv events).map
          (fun little => if little then 128 else 0) ∧
      events.flatMap UartEvent.received =
        (List.zipWith (· ++ ·) blocks
          (alongEvents (fun recv event => event.returned recv) recv events)).flatten ++
          (events.foldl UartEvent.step recv).contents ∧
      (events.foldl UartEvent.step recv).contents.length =
        TlsUartCircBuf.cnt (events.foldl UartEvent.step recv) ∧
      (events.foldl UartEvent.step recv).contents.length < 4096 := by
  have start : recv.contents = [] := Ring.contents_eq_nil empty
  have bound : recv.count ≤ 4030 := by
    rw [← Ring.contents_length, start]
    exact Nat.zero_le _
  refine ⟨Ring.head_lt _, Ring.tail_lt _,
    alongEvents (fun recv event => event.dropped recv) recv events, ?_, ?_, ?_, ?_⟩
  · exact alongEvents_dropped_length events recv
  · have cut := run_contents events recv
    rw [start] at cut
    exact cut
  · rw [Ring.contents_length, cnt_eq_count]
  · rw [Ring.contents_length]
    have final := run_count events bound
    omega

theorem uart1_receive_stream_read :
    let recv : TlsUartCircBuf := ⟨fun _ => 0, 4095, 4095, by decide, by decide⟩
    let events : List UartEvent := [.interrupt [7, 8, 9] (by decide), .read (fun _ => 0) 2]
    ∃ blocks : List (List UInt8),
      blocks.map List.length = [0, 0] ∧
      [7, 8, 9] = (List.zipWith (· ++ ·) blocks [[], [7, 8]]).flatten ++
        (events.foldl UartEvent.step recv).contents := by
  obtain ⟨_, _, blocks, lengths, cut, _⟩ := @uart1_receive_stream
    ⟨fun _ => 0, 4095, 4095, by decide, by decide⟩ rfl
    [.interrupt [7, 8, 9] (by decide), .read (fun _ => 0) 2]
  exact ⟨blocks, lengths, cut⟩

end SmartMeter
