import SmartMeter.Drivers.Uart1Core
import SmartMeter.Library.Runs

/-!
From which states the parser of the metering chip's answers still takes a complete answer.
-/

namespace SmartMeter

open Runs RingBuffer

structure Reading (stream : List UInt8) (taken : Nat) (uart : Uart1) : Prop where
  rxLen : uart.rxLen = taken
  unread : uart.recv.contents = stream.drop taken
  buffer : ∀ index < uartBufSize, uart.rxBuf index = (stream.take taken).getD index 0

theorem readOn_short (uart : Uart1) {readsize : Nat} (positive : 0 < readsize)
    (short : uart.recv.contents.length < readsize) : uart.readOn readsize = uart := by
  unfold Uart1.readOn
  rw [tlsUartRead_short _ _ _ positive short]
  rfl

theorem getD_take_add (stream : List UInt8) (taken readsize index : Nat) :
    (stream.take (taken + readsize)).getD index 0 =
      if taken ≤ index ∧ index < taken + readsize then (stream.drop taken).getD (index - taken) 0
      else (stream.take taken).getD index 0 := by
  simp only [List.getD_eq_getElem?_getD, List.getElem?_take, List.getElem?_drop]
  by_cases before : index < taken
  · rw [if_pos (by omega), if_neg (by omega), if_pos before]
  · by_cases inside : index < taken + readsize
    · rw [if_pos inside, if_pos (by omega), Nat.add_sub_cancel' (by omega)]
    · rw [if_neg inside, if_neg (by omega), if_neg before]

theorem Reading.readOn {stream : List UInt8} {taken readsize : Nat} {uart : Uart1}
    (reading : Reading stream taken uart) (positive : 0 < readsize)
    (enough : taken + readsize ≤ stream.length) :
    Reading stream (taken + readsize) (uart.readOn readsize) := by
  obtain ⟨rxLen, unread, buffer⟩ := reading
  have available : readsize ≤ uart.recv.contents.length := by
    rw [unread, List.length_drop]
    omega
  have counted : readsize ≤ uart.recv.count := by
    rw [← Ring.contents_length]
    exact available
  have read := tlsUartRead_enough uart.recv uart.rxBuf uart.rxLen positive available
  unfold Uart1.readOn
  rw [read]
  refine ⟨?_, ?_, ?_⟩
  · have returned : (readsize : Int) > 0 := by omega
    simp only [returned, if_true, Int.toNat_natCast, rxLen]
  · change (uart.recv.drop readsize).contents = _
    rw [Ring.contents_drop _ counted, unread, List.drop_drop]
  · intro index bound
    change Buffer.copy uart.rxBuf uart.rxLen _ readsize index = _
    rw [Buffer.copy_apply, rxLen, getD_take_add, buffer index bound, unread]

theorem Reading.byte {stream : List UInt8} {taken index : Nat} {uart : Uart1}
    (reading : Reading stream taken uart) (inside : index < taken) (bound : index < uartBufSize) :
    uart.rxBuf index = stream.getD index 0 := by
  rw [reading.buffer index bound]
  simp only [List.getD_eq_getElem?_getD, List.getElem?_take, inside, if_true]

theorem handleHead_start {uart : Uart1} (idle : uart.rxLen = 0) {rest : List UInt8}
    (pending : uart.recv.contents = 0xFE :: rest) :
    Reading (0xFE :: rest) 1 uart.handleHead := by
  have available : 1 ≤ uart.recv.contents.length := by
    rw [pending, List.length_cons]
    omega
  have read := tlsUartRead_enough uart.recv (Buffer.fill uart.rxBuf 0 uartBufSize) 0
    (by omega : 0 < 1) available
  have buffered : Buffer.copy (Buffer.fill uart.rxBuf 0 uartBufSize) 0
      (fun index => uart.recv.contents.getD index 0) 1 0 = 0xFE := by
    simp [Buffer.copy, pending]
  unfold Uart1.handleHead
  rw [if_pos idle, read]
  refine ⟨?_, ?_, ?_⟩
  · simp only [buffered]
    rfl
  · change (uart.recv.drop 1).contents = _
    rw [Ring.contents_drop _ (by simpa using available), pending]
  · intro index bound
    change Buffer.copy (Buffer.fill uart.rxBuf 0 uartBufSize) 0 _ 1 index = _
    rw [Buffer.copy_apply, Buffer.fill, Buffer.copy_apply, pending]
    by_cases first : index = 0
    · subst first
      simp
    · rw [if_neg (by omega), if_pos (by omega)]
      simp [first]

theorem handleHead_idle {uart : Uart1} (idle : uart.rxLen = 0)
    (absent : uart.recv.contents[0]? ≠ some 0xFE) : uart.handleHead.rxLen = 0 := by
  unfold Uart1.handleHead
  rw [if_pos idle]
  cases pending : uart.recv.contents with
  | nil =>
      have short : uart.recv.contents.length < 1 := by simp [pending]
      rw [tlsUartRead_short _ _ _ (by omega) short]
      rfl
  | cons byte rest =>
      have available : 1 ≤ uart.recv.contents.length := by
        rw [pending, List.length_cons]
        omega
      have other : byte ≠ 0xFE := by
        intro same
        rw [pending, same] at absent
        exact absent rfl
      rw [tlsUartRead_enough _ _ _ (by omega) available]
      simp [Buffer.copy, pending, other]

theorem uart1RxHandle_of_command {uart next : Uart1} {wrFlag : UInt8}
    (command : uart.handleHead.handleCommand = (next, wrFlag)) :
    uart1RxHandle uart = (next.handleWriteAnswer wrFlag).handleReadAnswer wrFlag := by
  unfold uart1RxHandle
  rw [command]

theorem handleAnswers_rest {uart : Uart1} {wrFlag : UInt8}
    (rest : uart.rxLen < 2 ∨ wrFlag ≠ 1 ∧ wrFlag ≠ 2) :
    (uart.handleWriteAnswer wrFlag).handleReadAnswer wrFlag = uart := by
  have noWrite : ¬(2 ≤ uart.rxLen ∧ wrFlag = 2) := by
    rintro ⟨long, write⟩
    rcases rest with short | ⟨_, notWrite⟩
    · omega
    · exact notWrite write
  have noRead : ¬(2 ≤ uart.rxLen ∧ wrFlag = 1) := by
    rintro ⟨long, read⟩
    rcases rest with short | ⟨notRead, _⟩
    · omega
    · exact notRead read
  rw [Uart1.handleWriteAnswer, if_neg noWrite, Uart1.handleReadAnswer, if_neg noRead]

theorem handleAnswers_done {uart : Uart1} {wrFlag : UInt8} (long : 2 ≤ uart.rxLen)
    (known : wrFlag = 1 ∨ wrFlag = 2) :
    ((uart.handleWriteAnswer wrFlag).handleReadAnswer wrFlag).rxLen = 0 := by
  rcases known with rfl | rfl
  · have noWrite : ¬(2 ≤ uart.rxLen ∧ (1 : UInt8) = 2) := by
      rintro ⟨_, same⟩
      exact absurd same (by decide)
    rw [Uart1.handleWriteAnswer, if_neg noWrite, Uart1.handleReadAnswer, if_pos ⟨long, rfl⟩]
  · rw [Uart1.handleWriteAnswer, if_pos ⟨long, rfl⟩, Uart1.handleReadAnswer, if_neg]
    rintro ⟨_, same⟩
    exact absurd same (by decide)

theorem handleCommand_second {uart : Uart1} {command : UInt8} {rest : List UInt8}
    (reading : Reading (0xFE :: command :: rest) 1 uart) :
    ∃ next, uart.handleCommand = (next, command &&& 0x0F) ∧
      Reading (0xFE :: command :: rest) 2 next ∧ next.readRegBackBuf = uart.readRegBackBuf := by
  have next := reading.readOn (by omega : 0 < 1)
    (by simp : 1 + 1 ≤ (0xFE :: command :: rest).length)
  have byte : (uart.readOn 1).rxBuf 1 = command := next.byte (by omega : 1 < 1 + 1) (by decide)
  refine ⟨uart.readOn 1, ?_, next, rfl⟩
  rw [Uart1.handleCommand, if_pos reading.rxLen, ← byte]

theorem handleCommand_alone {uart : Uart1} (reading : Reading [0xFE] 1 uart) :
    uart.handleCommand = (uart, 0) := by
  have short : uart.recv.contents.length < 1 := by simp [reading.unread]
  have empty : uart.rxBuf 1 &&& 0x0F = 0 := by
    rw [reading.buffer 1 (by decide)]
    rfl
  rw [Uart1.handleCommand, if_pos reading.rxLen, readOn_short uart (by omega) short]
  exact congrArg (fun flag => (uart, flag)) empty

def CommandFollows (pending : List UInt8) : Prop :=
  pending[0]? = some 0xFE →
    ∃ command, pending[1]? = some command ∧ (command &&& 0x0F = 1 ∨ command &&& 0x0F = 2)

theorem uart1RxHandle_idle {uart : Uart1} (idle : uart.rxLen = 0)
    (absent : uart.recv.contents[0]? ≠ some 0xFE) : (uart1RxHandle uart).rxLen = 0 := by
  have head := handleHead_idle idle absent
  have command : uart.handleHead.handleCommand = (uart.handleHead, 0) := by
    rw [Uart1.handleCommand, if_neg (by omega)]
  rw [uart1RxHandle_of_command command, handleAnswers_rest (.inl (by omega))]
  exact head

theorem uart1RxHandle_rxLen_of_follows {uart : Uart1} (idle : uart.rxLen = 0)
    (follows : CommandFollows uart.recv.contents) : (uart1RxHandle uart).rxLen = 0 := by
  by_cases start : uart.recv.contents[0]? = some 0xFE
  · obtain ⟨command, second, known⟩ := follows start
    rcases pending : uart.recv.contents with _ | ⟨first, _ | ⟨byte, rest⟩⟩
    · simp [pending] at start
    · simp [pending] at second
    · obtain rfl : first = 0xFE := by simpa [pending] using start
      obtain rfl : byte = command := by simpa [pending] using second
      obtain ⟨next, handled, reading, _⟩ := handleCommand_second (handleHead_start idle pending)
      rw [uart1RxHandle_of_command handled]
      exact handleAnswers_done (Nat.le_of_eq reading.rxLen.symm) known
  · exact uart1RxHandle_idle idle start

theorem uart1RxHandle_rxLen_of_not_follows {uart : Uart1} (idle : uart.rxLen = 0)
    (stuck : ¬CommandFollows uart.recv.contents) :
    (uart1RxHandle uart).rxLen = 1 ∨ (uart1RxHandle uart).rxLen = 2 := by
  obtain ⟨start, unknown⟩ := Classical.not_imp.mp stuck
  rcases pending : uart.recv.contents with _ | ⟨first, _ | ⟨byte, rest⟩⟩
  · simp [pending] at start
  · obtain rfl : first = 0xFE := by simpa [pending] using start
    have reading := handleHead_start idle pending
    rw [uart1RxHandle_of_command (handleCommand_alone reading),
      handleAnswers_rest (.inr (by decide))]
    exact .inl reading.rxLen
  · obtain rfl : first = 0xFE := by simpa [pending] using start
    obtain ⟨next, handled, reading, _⟩ := handleCommand_second (handleHead_start idle pending)
    have other : byte &&& 0x0F ≠ 1 ∧ byte &&& 0x0F ≠ 2 := by
      simpa [pending] using unknown
    rw [uart1RxHandle_of_command handled, handleAnswers_rest (.inr other)]
    exact .inr reading.rxLen

structure IsReadResponse (bytes : List UInt8) : Prop where
  length : bytes.length = 8
  start : bytes.getD 0 0 = 0xFE
  command : bytes.getD 1 0 &&& 0x0F = 1
  registers : bytes.getD 2 0 = 0x01
  check : bytes.getD 7 0 = ~~~Buffer.byteSum (fun index => bytes.getD index 0) 7 + 0x33

/-- With the ring empty at any position, the next complete answer is latched. -/
def Recovers (uart : Uart1) : Prop :=
  ∀ recv : TlsUartCircBuf, recv.contents = [] →
    ∀ intr : RxInterrupt, intr.error = false → IsReadResponse intr.fifo →
      Buffer.toList (uart1IrqHandler { uart with recv := recv } intr).readRegBackBuf 8 = intr.fifo

theorem handleReadAnswer_response {uart : Uart1} {bytes : List UInt8}
    (response : IsReadResponse bytes) (reading : Reading bytes 2 uart) :
    Buffer.toList (uart.handleReadAnswer 1).readRegBackBuf 8 = bytes := by
  have size := response.length
  have third := reading.readOn (by omega : 0 < 1) (by omega)
  have registers : (uart.readOn 1).rxBuf 2 = 1 :=
    (third.byte (by omega : 2 < 3) (by decide)).trans response.registers
  have whole := third.readOn (by omega : 0 < 4 + 1) (by omega)
  have bytesRead (index : Nat) (inside : index < 8) :
      ((uart.readOn 1).readOn 5).rxBuf index = bytes.getD index 0 :=
    whole.byte inside (Nat.lt_of_lt_of_le inside (by decide))
  have sum : Buffer.byteSum ((uart.readOn 1).readOn 5).rxBuf 7 =
      Buffer.byteSum (fun index => bytes.getD index 0) 7 :=
    Buffer.byteSum_congr fun index inside => bytesRead index (by omega)
  have checked : ((uart.readOn 1).readOn 5).rxBuf (((uart.readOn 1).readOn 5).rxLen - 1) =
      ~~~Buffer.byteSum ((uart.readOn 1).readOn 5).rxBuf 7 + 0x33 := by
    rw [whole.rxLen, sum, bytesRead 7 (by omega)]
    exact response.check
  have long : 2 ≤ uart.rxLen := Nat.le_of_eq reading.rxLen.symm
  rw [Uart1.handleReadAnswer, if_pos ⟨long, rfl⟩]
  simp only [registers]
  change Buffer.toList (if _ = _ ∧ 4 ≤ 4 then _ else _) 8 = bytes
  rw [if_pos ⟨checked, Nat.le_refl 4⟩]
  have copied := Buffer.toList_copy ((uart.readOn 1).readOn 5).readRegBackBuf
    ((uart.readOn 1).readOn 5).rxBuf 0 8
  rw [Nat.zero_add, Buffer.toList_zero, List.nil_append] at copied
  refine copied.trans ?_
  apply List.ext_getElem
  · simp [size]
  · intro index first second
    rw [Buffer.toList_length] at first
    have byte := bytesRead index first
    simpa [Buffer.toList, second] using byte

theorem uart1RxHandle_response {uart : Uart1} (idle : uart.rxLen = 0)
    (response : IsReadResponse uart.recv.contents) :
    Buffer.toList (uart1RxHandle uart).readRegBackBuf 8 = uart.recv.contents := by
  have size := response.length
  rcases pending : uart.recv.contents with _ | ⟨first, _ | ⟨command, rest⟩⟩
  · simp [pending] at size
  · simp [pending] at size
  · rw [pending] at response
    obtain rfl : first = 0xFE := response.start
    have flag : command &&& 0x0F = 1 := response.command
    obtain ⟨next, handled, reading, _⟩ := handleCommand_second (handleHead_start idle pending)
    have noWrite : ¬(2 ≤ next.rxLen ∧ (1 : UInt8) = 2) := by
      rintro ⟨_, same⟩
      exact absurd same (by decide)
    rw [uart1RxHandle_of_command handled, flag, Uart1.handleWriteAnswer, if_neg noWrite]
    exact handleReadAnswer_response response reading

theorem contents_receive_empty {recv : TlsUartCircBuf} (empty : recv.contents = [])
    {intr : RxInterrupt} (clean : intr.error = false) :
    (uart1IrqReceive recv intr).contents = intr.fifo := by
  have none : recv.count = 0 := by
    rw [← Ring.contents_length, empty]
    rfl
  have room : ¬4095 - recv.count ≤ rxCacheLimit := by
    rw [none]
    decide
  rw [contents_uart1IrqReceive, if_neg room, empty, clean]
  rfl

theorem recovers_of_idle {uart : Uart1} (idle : uart.rxLen = 0) : Recovers uart := by
  intro recv empty intr clean response
  have received := contents_receive_empty empty clean
  have still : ({ uart with recv := uart1IrqReceive recv intr } : Uart1).rxLen = 0 := idle
  have latched := uart1RxHandle_response still (by rw [received]; exact response)
  rw [received] at latched
  exact latched

theorem readRegBackBuf_of_stuck {uart : Uart1} (stuck : uart.rxLen = 1 ∨ uart.rxLen = 2)
    (start : uart.recv.contents.getD 0 0 = 0xFE) :
    (uart1RxHandle uart).readRegBackBuf = uart.readRegBackBuf := by
  have head : uart.handleHead = uart := by
    rw [Uart1.handleHead, if_neg (by omega)]
  rcases stuck with one | two
  · have available : 1 ≤ uart.recv.contents.length := by
      cases pending : uart.recv.contents with
      | nil =>
          rw [pending] at start
          exact absurd start (by decide)
      | cons byte rest => simp
    have byte : (uart.readOn 1).rxBuf 1 = 0xFE := by
      rw [Uart1.readOn, tlsUartRead_enough _ _ _ (by omega) available, one]
      simpa [Buffer.copy] using start
    have command : uart.handleHead.handleCommand = (uart.readOn 1, 0x0E) := by
      rw [head, Uart1.handleCommand, if_pos one]
      exact congrArg (fun value => (uart.readOn 1, value &&& 0x0F)) byte
    rw [uart1RxHandle_of_command command, handleAnswers_rest (.inr (by decide))]
    rfl
  · have command : uart.handleHead.handleCommand = (uart, 0) := by
      rw [head, Uart1.handleCommand, if_neg (by omega)]
    rw [uart1RxHandle_of_command command, handleAnswers_rest (.inr (by decide))]

def blankRing : TlsUartCircBuf :=
  ⟨fun _ => 0, 0, 0, by decide, by decide⟩

def sampleResponse (data check : UInt8) : RxInterrupt :=
  ⟨false, [0xFE, 0x01, 0x01, data, 0x00, 0x00, 0x00, check], by simp⟩

theorem not_recovers_of_stuck {uart : Uart1} (stuck : uart.rxLen = 1 ∨ uart.rxLen = 2) :
    ¬Recovers uart := by
  intro recovers
  have empty : blankRing.contents = [] := Ring.contents_eq_nil rfl
  have unchanged (intr : RxInterrupt) (clean : intr.error = false)
      (start : intr.fifo.getD 0 0 = 0xFE) :
      (uart1IrqHandler { uart with recv := blankRing } intr).readRegBackBuf = uart.readRegBackBuf := by
    have received := contents_receive_empty empty clean
    rw [← received] at start
    have still : ({ uart with recv := uart1IrqReceive blankRing intr } : Uart1).rxLen = 1 ∨
        ({ uart with recv := uart1IrqReceive blankRing intr } : Uart1).rxLen = 2 := stuck
    exact readRegBackBuf_of_stuck still start
  have first := recovers blankRing empty (sampleResponse 0x00 0x32) rfl
    ⟨rfl, rfl, rfl, rfl, rfl⟩
  have second := recovers blankRing empty (sampleResponse 0x01 0x31) rfl
    ⟨rfl, rfl, rfl, rfl, rfl⟩
  rw [unchanged _ rfl rfl] at first second
  have same := first.symm.trans second
  revert same
  decide

def StartsWhole (uart : Uart1) (intr : RxInterrupt) : Prop :=
  CommandFollows (uart1IrqReceive uart.recv intr).contents

theorem uart1IrqHandler_idle (uart : Uart1) (intr : RxInterrupt) (idle : uart.rxLen = 0)
    (whole : StartsWhole uart intr) : (uart1IrqHandler uart intr).rxLen = 0 := by
  have still : ({ uart with recv := uart1IrqReceive uart.recv intr } : Uart1).rxLen = 0 := idle
  exact uart1RxHandle_rxLen_of_follows still whole

theorem uart1IrqHandler_not_recovers (uart : Uart1) (intr : RxInterrupt) (idle : uart.rxLen = 0)
    (broken : ¬StartsWhole uart intr) : ¬Recovers (uart1IrqHandler uart intr) := by
  have still : ({ uart with recv := uart1IrqReceive uart.recv intr } : Uart1).rxLen = 0 := idle
  exact not_recovers_of_stuck (uart1RxHandle_rxLen_of_not_follows still broken)

/-- From start-up on, every state of a run takes the next complete answer exactly when no
callback of the run finds a start byte without a known command behind it. -/
theorem run_recovers_iff (recv : TlsUartCircBuf) (readRegBackBuf : Nat → UInt8)
    (intrs : List RxInterrupt) :
    (∀ before after, intrs = before ++ after →
        Recovers (before.foldl uart1IrqHandler (uart1Init recv readRegBackBuf))) ↔
      Along uart1IrqHandler StartsWhole (uart1Init recv readRegBackBuf) intrs := by
  have idle : (uart1Init recv readRegBackBuf).rxLen = 0 := rfl
  have invariant : ∀ uart : Uart1, uart.rxLen = 0 → Recovers uart := fun _ => recovers_of_idle
  exact reached_iff_along invariant uart1IrqHandler_idle uart1IrqHandler_not_recovers idle intrs

def noise : RxInterrupt :=
  ⟨false, [0xFE, 0x00], by decide⟩

theorem noise_not_recovers :
    ¬∀ before after, [noise] = before ++ after →
      Recovers (before.foldl uart1IrqHandler (uart1Init blankRing fun _ => 0)) := by
  intro every
  have broken : ¬StartsWhole (uart1Init blankRing fun _ => 0) noise := by
    intro whole
    rw [StartsWhole, contents_receive_empty (Ring.contents_eq_nil rfl) rfl] at whole
    obtain ⟨command, second, known⟩ := whole rfl
    obtain rfl := Option.some.inj second
    revert known
    decide
  exact uart1IrqHandler_not_recovers _ noise rfl broken (every [noise] [] rfl)

end SmartMeter
