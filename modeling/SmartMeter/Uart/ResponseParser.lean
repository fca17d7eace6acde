import SmartMeter.Uart.ResponseRecovery

/-!
The parser of the metering chip's answers on lists of bytes: what one callback takes from
the unread bytes, and which eight bytes it latches. The interrupt handler refines it.
-/

namespace SmartMeter

open RingBuffer

inductive Stage
  | idle
  | started
  | stuck
deriving Repr, DecidableEq

def Stage.rxLen : Stage → Nat
  | .idle => 0
  | .started => 1
  | .stuck => 2

theorem not_started_of_idle {conclusion : Prop} (started : Stage.idle = .started) : conclusion := by
  cases started

theorem not_started_of_stuck {conclusion : Prop} (started : Stage.stuck = .started) : conclusion := by
  cases started

structure Taken where
  stage : Stage
  unread : List UInt8
  latch : Option (List UInt8)
deriving DecidableEq

structure Parser where
  stage : Stage
  unread : List UInt8
  latched : List UInt8
deriving DecidableEq

def answerCheck (bytes : List UInt8) : UInt8 :=
  ~~~Buffer.byteSum (fun index => bytes.getD index 0) bytes.length + 0x33

/-- Eight bytes are latched, whatever the answer's own length. -/
def latchedBytes (bytes : List UInt8) : List UInt8 :=
  Buffer.toList (fun index => bytes.getD index 0) 8

-- A read of more bytes than there are takes none, and the callback goes on without them.
def takeAnswer : List UInt8 → Taken
  | [] => ⟨.started, [], none⟩
  | command :: rest =>
      if command &&& 0x0F = 2 then
        ⟨.idle, if 2 ≤ rest.length then rest.drop 2 else rest, none⟩
      else if command &&& 0x0F = 1 then
        match rest with
        | [] => ⟨.idle, [], none⟩
        | registers :: rest =>
            let len := 4 * registers.toNat
            let answer := 0xFE :: command :: registers :: rest.take len
            if len + 1 ≤ rest.length then
              ⟨.idle, rest.drop (len + 1),
                if rest.getD len 0 = answerCheck answer ∧ len ≤ 4 then
                  some (latchedBytes (answer ++ [rest.getD len 0]))
                else none⟩
            else ⟨.idle, rest, none⟩
      else ⟨.stuck, rest, none⟩

section Cases

variable {command : UInt8} {rest : List UInt8}

theorem takeAnswer_write (write : command &&& 0x0F = 2) :
    takeAnswer (command :: rest) =
      ⟨.idle, if 2 ≤ rest.length then rest.drop 2 else rest, none⟩ := by
  simp only [takeAnswer, write, if_true]

theorem takeAnswer_alone (read : command &&& 0x0F = 1) :
    takeAnswer [command] = ⟨.idle, [], none⟩ := by
  simp only [takeAnswer, read, if_true]
  rfl

theorem takeAnswer_short {registers : UInt8} (read : command &&& 0x0F = 1)
    (few : rest.length < 4 * registers.toNat + 1) :
    takeAnswer (command :: registers :: rest) = ⟨.idle, rest, none⟩ := by
  simp only [takeAnswer, read, if_true, Nat.not_le.mpr few, if_false]
  rfl

theorem takeAnswer_whole {registers : UInt8} (read : command &&& 0x0F = 1)
    (enough : 4 * registers.toNat + 1 ≤ rest.length) :
    takeAnswer (command :: registers :: rest) =
      ⟨.idle, rest.drop (4 * registers.toNat + 1),
        if rest.getD (4 * registers.toNat) 0 = answerCheck (0xFE :: command :: registers ::
            rest.take (4 * registers.toNat)) ∧ 4 * registers.toNat ≤ 4 then
          some (latchedBytes (0xFE :: command :: registers :: rest.take (4 * registers.toNat) ++
            [rest.getD (4 * registers.toNat) 0]))
        else none⟩ := by
  simp only [takeAnswer, read, if_true, enough]
  rfl

theorem takeAnswer_unknown (notRead : command &&& 0x0F ≠ 1) (notWrite : command &&& 0x0F ≠ 2) :
    takeAnswer (command :: rest) = ⟨.stuck, rest, none⟩ := by
  simp only [takeAnswer, notRead, notWrite, if_false]

end Cases

theorem takeAnswer_cases {motive : List UInt8 → Taken → Prop}
    (nothing : motive [] ⟨.started, [], none⟩)
    (write : ∀ command rest, command &&& 0x0F = 2 →
      motive (command :: rest) ⟨.idle, if 2 ≤ rest.length then rest.drop 2 else rest, none⟩)
    (alone : ∀ command, command &&& 0x0F = 1 → motive [command] ⟨.idle, [], none⟩)
    (short : ∀ command registers rest, command &&& 0x0F = 1 →
      rest.length < 4 * registers.toNat + 1 →
        motive (command :: registers :: rest) ⟨.idle, rest, none⟩)
    (whole : ∀ command registers rest, command &&& 0x0F = 1 →
      4 * registers.toNat + 1 ≤ rest.length →
        motive (command :: registers :: rest) ⟨.idle, rest.drop (4 * registers.toNat + 1),
          if rest.getD (4 * registers.toNat) 0 = answerCheck (0xFE :: command :: registers ::
              rest.take (4 * registers.toNat)) ∧ 4 * registers.toNat ≤ 4 then
            some (latchedBytes (0xFE :: command :: registers :: rest.take (4 * registers.toNat) ++
              [rest.getD (4 * registers.toNat) 0]))
          else none⟩)
    (unknown : ∀ command rest, command &&& 0x0F ≠ 1 → command &&& 0x0F ≠ 2 →
      motive (command :: rest) ⟨.stuck, rest, none⟩) (rest : List UInt8) :
    motive rest (takeAnswer rest) := by
  match rest with
  | [] => exact nothing
  | command :: rest =>
      by_cases isWrite : command &&& 0x0F = 2
      · rw [takeAnswer_write isWrite]
        exact write command rest isWrite
      by_cases isRead : command &&& 0x0F = 1
      · match rest with
        | [] =>
            rw [takeAnswer_alone isRead]
            exact alone command isRead
        | registers :: rest =>
            by_cases enough : 4 * registers.toNat + 1 ≤ rest.length
            · rw [takeAnswer_whole isRead enough]
              exact whole command registers rest isRead enough
            · have few : rest.length < 4 * registers.toNat + 1 := by omega
              rw [takeAnswer_short isRead few]
              exact short command registers rest isRead few
      · rw [takeAnswer_unknown isRead isWrite]
        exact unknown command rest isRead isWrite

def Parser.pending (parser : Parser) (bytes : List UInt8) : List UInt8 :=
  (if 4095 - parser.unread.length ≤ rxCacheLimit then parser.unread.drop rxCacheLimit
    else parser.unread) ++ bytes

def takeFrom : Stage → List UInt8 → Taken
  | .stuck, pending => ⟨.stuck, pending, none⟩
  | .started, pending => takeAnswer pending
  | .idle, [] => ⟨.idle, [], none⟩
  | .idle, first :: rest => if first = 0xFE then takeAnswer rest else ⟨.idle, rest, none⟩

def Parser.taken (parser : Parser) (bytes : List UInt8) : Taken :=
  takeFrom parser.stage (parser.pending bytes)

def Parser.receive (parser : Parser) (bytes : List UInt8) : Parser where
  stage := (parser.taken bytes).stage
  unread := (parser.taken bytes).unread
  latched := (parser.taken bytes).latch.getD parser.latched

def RxInterrupt.accepted (intr : RxInterrupt) : List UInt8 :=
  if intr.error then [] else intr.fifo

structure Refines (uart : Uart1) (parser : Parser) : Prop where
  rxLen : uart.rxLen = parser.stage.rxLen
  unread : uart.recv.contents = parser.unread
  latched : Buffer.toList uart.readRegBackBuf 8 = parser.latched
  started : parser.stage = .started → Reading (0xFE :: parser.unread) 1 uart

theorem command_ne_check (command : UInt8) (read : command &&& 0x0F = 1) :
    command ≠ ~~~(0xFE + command) + 0x33 := by
  have every : ∀ command : BitVec 8, command &&& 0x0F = 1 →
      command ≠ ~~~(0xFE + command) + 0x33 := by decide
  intro same
  exact every command.toBitVec (congrArg UInt8.toBitVec read) (congrArg UInt8.toBitVec same)

theorem registers_ne_check (command registers : UInt8) (read : command &&& 0x0F = 1)
    (few : registers = 0 ∨ registers = 1) :
    registers ≠ ~~~(0xFE + command + registers) + 0x33 := by
  have every : ∀ command : BitVec 8, command &&& 0x0F = 1 →
      0 ≠ ~~~(0xFE + command + 0) + 0x33 ∧ 1 ≠ ~~~(0xFE + command + 1) + 0x33 := by decide
  have both := every command.toBitVec (congrArg UInt8.toBitVec read)
  rcases few with rfl | rfl
  · intro same
    exact both.1 (congrArg UInt8.toBitVec same)
  · intro same
    exact both.2 (congrArg UInt8.toBitVec same)

theorem handleWriteAnswer_read (uart : Uart1) : uart.handleWriteAnswer 1 = uart := by
  rw [Uart1.handleWriteAnswer, if_neg]
  rintro ⟨_, same⟩
  exact absurd same (by decide)

theorem handleReadAnswer_of_reads {uart first second : Uart1} {len : Nat} (long : 2 ≤ uart.rxLen)
    (count : uart.readOn 1 = first) (length : 4 * (first.rxBuf 2).toNat = len)
    (rest : first.readOn (len + 1) = second) :
    uart.handleReadAnswer 1 = { second with
      readRegBackBuf :=
        if second.rxBuf (second.rxLen - 1) = ~~~Buffer.byteSum second.rxBuf (len + 3) + 0x33 ∧
          len ≤ 4 then Buffer.copy second.readRegBackBuf 0 second.rxBuf 8
        else second.readRegBackBuf
      rxLen := 0 } := by
  subst count length rest
  rw [Uart1.handleReadAnswer, if_pos ⟨long, rfl⟩]

theorem Reading.zero {stream : List UInt8} {taken index : Nat} {uart : Uart1}
    (reading : Reading stream taken uart) (past : taken ≤ index) (bound : index < uartBufSize) :
    uart.rxBuf index = 0 := by
  rw [reading.buffer index bound]
  simp only [List.getD_eq_getElem?_getD, List.getElem?_take, Nat.not_lt.mpr past, if_false,
    Option.getD_none]

section Answers

variable {uart : Uart1} {command : UInt8} {rest : List UInt8}

theorem writeAnswer_refines (reading : Reading (0xFE :: command :: rest) 2 uart) :
    Refines ((uart.handleWriteAnswer 2).handleReadAnswer 2)
      ⟨.idle, if 2 ≤ rest.length then rest.drop 2 else rest, Buffer.toList uart.readRegBackBuf 8⟩ := by
  have long : 2 ≤ uart.rxLen := Nat.le_of_eq reading.rxLen.symm
  have noRead (next : Uart1) : next.handleReadAnswer 2 = next := by
    rw [Uart1.handleReadAnswer, if_neg]
    rintro ⟨_, same⟩
    exact absurd same (by decide)
  rw [noRead, Uart1.handleWriteAnswer, if_pos ⟨long, rfl⟩]
  refine ⟨rfl, ?_, rfl, not_started_of_idle⟩
  change (uart.readOn 2).recv.contents = _
  by_cases enough : 2 ≤ rest.length
  · have next := reading.readOn (by omega : 0 < 2) (by simp only [List.length_cons]; omega)
    rw [if_pos enough, next.unread]
    rfl
  · have short : uart.recv.contents.length < 2 := by
      rw [reading.unread]
      simpa using enough
    rw [if_neg enough, readOn_short uart (by omega) short, reading.unread]
    rfl

theorem readAnswer_alone (read : command &&& 0x0F = 1)
    (reading : Reading [0xFE, command] 2 uart) :
    Refines (uart.handleReadAnswer 1) ⟨.idle, [], Buffer.toList uart.readRegBackBuf 8⟩ := by
  have long : 2 ≤ uart.rxLen := Nat.le_of_eq reading.rxLen.symm
  have short : uart.recv.contents.length < 1 := by simp [reading.unread]
  have stays : uart.readOn 1 = uart := readOn_short uart (by omega) short
  have third : uart.rxBuf 2 = 0 := reading.zero (by omega) (by decide)
  have bytes : uart.rxBuf 0 = 0xFE ∧ uart.rxBuf 1 = command :=
    ⟨reading.byte (by omega) (by decide), reading.byte (by omega) (by decide)⟩
  have wrong : ¬uart.rxBuf (uart.rxLen - 1) = ~~~Buffer.byteSum uart.rxBuf 3 + 0x33 := by
    have differ := command_ne_check command read
    simpa [Buffer.byteSum, reading.rxLen, bytes, third] using differ
  rw [handleReadAnswer_of_reads long stays (by rw [third]; rfl : _ = 0) stays,
    if_neg (fun latches => wrong latches.1)]
  exact ⟨rfl, by rw [reading.unread]; rfl, rfl, not_started_of_idle⟩

theorem readAnswer_short {registers : UInt8} (read : command &&& 0x0F = 1)
    (reading : Reading (0xFE :: command :: registers :: rest) 2 uart)
    (few : rest.length < 4 * registers.toNat + 1) :
    Refines (uart.handleReadAnswer 1) ⟨.idle, rest, Buffer.toList uart.readRegBackBuf 8⟩ := by
  have long : 2 ≤ uart.rxLen := Nat.le_of_eq reading.rxLen.symm
  have next := reading.readOn (by omega : 0 < 1) (by simp)
  have short : (uart.readOn 1).recv.contents.length < 4 * registers.toNat + 1 := by
    rw [next.unread]
    simpa using few
  have stays := readOn_short (uart.readOn 1) (by omega) short
  have bytes : (uart.readOn 1).rxBuf 0 = 0xFE ∧ (uart.readOn 1).rxBuf 1 = command ∧
      (uart.readOn 1).rxBuf 2 = registers :=
    ⟨next.byte (by omega) (by decide), next.byte (by omega) (by decide),
      next.byte (by omega) (by decide)⟩
  have zeros (index : Nat) (past : 3 ≤ index) (bound : index < 8) :
      (uart.readOn 1).rxBuf index = 0 :=
    next.zero past (Nat.lt_of_lt_of_le bound (by decide))
  have wrong : ¬((uart.readOn 1).rxBuf ((uart.readOn 1).rxLen - 1) =
      ~~~Buffer.byteSum (uart.readOn 1).rxBuf (4 * registers.toNat + 3) + 0x33 ∧
        4 * registers.toNat ≤ 4) := by
    rintro ⟨checked, single⟩
    have either : registers = 0 ∨ registers = 1 := by
      have cases : registers.toNat = 0 ∨ registers.toNat = 1 := by omega
      rcases cases with zero | one
      · exact .inl (UInt8.toNat_inj.mp zero)
      · exact .inr (UInt8.toNat_inj.mp one)
    have differ := registers_ne_check command registers read either
    rcases either with rfl | rfl
    · apply differ
      simpa [Buffer.byteSum, next.rxLen, bytes] using checked
    · apply differ
      simpa [Buffer.byteSum, next.rxLen, bytes, zeros] using checked
  rw [handleReadAnswer_of_reads long rfl (by rw [bytes.2.2]) stays, if_neg wrong]
  exact ⟨rfl, by rw [next.unread]; rfl, rfl, not_started_of_idle⟩

theorem take_answer {registers : UInt8} {len : Nat} (enough : len + 1 ≤ rest.length) :
    (0xFE :: command :: registers :: rest).take (3 + (len + 1)) =
      0xFE :: command :: registers :: rest.take len ++ [rest.getD len 0] := by
  have last : rest[len]? = some (rest.getD len 0) := by
    simp [(by omega : len < rest.length)]
  rw [Nat.add_comm 3, List.take_succ_cons, List.take_succ_cons, List.take_succ_cons,
    List.take_add_one, last]
  rfl

/-- A buffer that holds an answer and its check byte, and the sum the receiver makes of it. -/
theorem checked_answer {buffer : Nat → UInt8} {answer : List UInt8} {check : UInt8}
    (holds : ∀ index ≤ answer.length, buffer index = (answer ++ [check]).getD index 0) :
    buffer answer.length = check ∧
      ~~~Buffer.byteSum buffer answer.length + 0x33 = answerCheck answer := by
  refine ⟨?_, ?_⟩
  · rw [holds _ (Nat.le_refl _)]
    simp
  · rw [answerCheck]
    congr 2
    apply Buffer.byteSum_congr
    intro index inside
    rw [holds index (Nat.le_of_lt inside)]
    simp [List.getElem?_append_left inside]

theorem readAnswer_whole {registers : UInt8}
    (reading : Reading (0xFE :: command :: registers :: rest) 2 uart)
    (enough : 4 * registers.toNat + 1 ≤ rest.length) :
    Refines (uart.handleReadAnswer 1)
      ⟨.idle, rest.drop (4 * registers.toNat + 1),
        if rest.getD (4 * registers.toNat) 0 = answerCheck (0xFE :: command :: registers ::
            rest.take (4 * registers.toNat)) ∧ 4 * registers.toNat ≤ 4 then
          latchedBytes (0xFE :: command :: registers :: rest.take (4 * registers.toNat) ++
            [rest.getD (4 * registers.toNat) 0])
        else Buffer.toList uart.readRegBackBuf 8⟩ := by
  have small := registers.toNat_lt
  have long : 2 ≤ uart.rxLen := Nat.le_of_eq reading.rxLen.symm
  have next := reading.readOn (by omega : 0 < 1) (by simp)
  have third : (uart.readOn 1).rxBuf 2 = registers := next.byte (by omega) (by decide)
  have whole : Reading _ (3 + (4 * registers.toNat + 1)) _ :=
    next.readOn (by omega : 0 < 4 * registers.toNat + 1) (by simp only [List.length_cons]; omega)
  rw [handleReadAnswer_of_reads long rfl (by rw [third]) rfl]
  have kept : ((uart.readOn 1).readOn (4 * registers.toNat + 1)).readRegBackBuf =
      uart.readRegBackBuf := rfl
  generalize (uart.readOn 1).readOn (4 * registers.toNat + 1) = last at whole kept
  generalize bytes : 0xFE :: command :: registers :: rest.take (4 * registers.toNat) = answer
  have size : answer.length = 4 * registers.toNat + 3 := by
    rw [← bytes]
    simp only [List.length_cons, List.length_take]
    omega
  have buffer (index : Nat) (bound : index < uartBufSize) :
      last.rxBuf index = (answer ++ [rest.getD (4 * registers.toNat) 0]).getD index 0 := by
    rw [whole.buffer index bound, take_answer enough, ← bytes]
  have final : last.rxLen - 1 = answer.length := by
    rw [whole.rxLen, size]
    omega
  obtain ⟨check, sum⟩ := checked_answer fun index inside =>
    buffer index (by rw [size] at inside; unfold uartBufSize; omega)
  rw [final, ← size, check, sum]
  refine ⟨rfl, ?_, ?_, not_started_of_idle⟩
  · change last.recv.contents = _
    rw [whole.unread, Nat.add_comm 3]
    rfl
  · change Buffer.toList (if _ then _ else _) 8 = _
    split
    · have copied := Buffer.toList_copy last.readRegBackBuf last.rxBuf 0 8
      rw [Nat.zero_add, Buffer.toList_zero, List.nil_append] at copied
      refine copied.trans ?_
      change _ = latchedBytes _
      apply Buffer.toList_congr
      intro index inside
      exact buffer index (Nat.lt_of_lt_of_le inside (by decide))
    · rw [kept]

end Answers

theorem takeAnswer_refines {uart : Uart1} {rest : List UInt8}
    (reading : Reading (0xFE :: rest) 1 uart.handleHead) :
    Refines (uart1RxHandle uart) ⟨(takeAnswer rest).stage, (takeAnswer rest).unread,
      (takeAnswer rest).latch.getD (Buffer.toList uart.handleHead.readRegBackBuf 8)⟩ := by
  cases rest with
  | nil =>
      rw [uart1RxHandle_of_command (handleCommand_alone reading),
        handleAnswers_rest (.inr (by decide))]
      exact ⟨reading.rxLen, reading.unread, rfl, fun _ => reading⟩
  | cons command rest =>
      obtain ⟨next, handled, behind, kept⟩ := handleCommand_second reading
      rw [uart1RxHandle_of_command handled, ← kept]
      by_cases write : command &&& 0x0F = 2
      · rw [takeAnswer_write write, write]
        exact writeAnswer_refines behind
      · by_cases read : command &&& 0x0F = 1
        · rw [read, handleWriteAnswer_read]
          cases rest with
          | nil =>
              rw [takeAnswer_alone read]
              exact readAnswer_alone read behind
          | cons registers rest =>
              by_cases enough : 4 * registers.toNat + 1 ≤ rest.length
              · have whole := readAnswer_whole behind enough
                rw [takeAnswer_whole read enough]
                split
                · rename_i latches
                  rw [if_pos latches] at whole
                  exact whole
                · rename_i differs
                  rw [if_neg differs] at whole
                  exact whole
              · have few : rest.length < 4 * registers.toNat + 1 := by omega
                rw [takeAnswer_short read few]
                exact readAnswer_short read behind few
        · rw [takeAnswer_unknown read write, handleAnswers_rest (.inr ⟨read, write⟩)]
          exact ⟨behind.rxLen, by rw [behind.unread]; rfl, rfl, not_started_of_stuck⟩

theorem handleHead_started {uart : Uart1} (started : uart.rxLen ≠ 0) : uart.handleHead = uart := by
  rw [Uart1.handleHead, if_neg started]

theorem handleHead_contents {uart : Uart1} (idle : uart.rxLen = 0) :
    uart.handleHead.recv.contents = uart.recv.contents.drop 1 := by
  unfold Uart1.handleHead
  rw [if_pos idle]
  cases pending : uart.recv.contents with
  | nil =>
      have short : uart.recv.contents.length < 1 := by simp [pending]
      rw [tlsUartRead_short _ _ _ (by omega) short]
      exact pending
  | cons byte rest =>
      have available : 1 ≤ uart.recv.contents.length := by
        rw [pending, List.length_cons]
        omega
      rw [tlsUartRead_enough _ _ _ (by omega) available]
      change (uart.recv.drop 1).contents = _
      rw [Ring.contents_drop _ (by simpa using available), pending]

theorem uart1RxHandle_skips {uart : Uart1} (idle : uart.rxLen = 0)
    (absent : uart.recv.contents[0]? ≠ some 0xFE) :
    uart1RxHandle uart = uart.handleHead := by
  have head := handleHead_idle idle absent
  have command : uart.handleHead.handleCommand = (uart.handleHead, 0) := by
    rw [Uart1.handleCommand, if_neg (by omega)]
  rw [uart1RxHandle_of_command command, handleAnswers_rest (.inl (by omega))]

theorem handleHead_readRegBackBuf (uart : Uart1) :
    uart.handleHead.readRegBackBuf = uart.readRegBackBuf := by
  unfold Uart1.handleHead
  split
  · rfl
  · rfl

theorem Refines.pending {uart : Uart1} {parser : Parser} (refines : Refines uart parser)
    (intr : RxInterrupt) :
    (uart1IrqReceive uart.recv intr).contents = parser.pending intr.accepted := by
  rw [contents_uart1IrqReceive, Parser.pending, RxInterrupt.accepted, ← Ring.contents_length,
    refines.unread]

theorem skip_refines {uart : Uart1} (zero : uart.rxLen = 0)
    (start : ¬uart.recv.contents[0]? = some 0xFE) :
    Refines (uart1RxHandle uart) ⟨(takeFrom .idle uart.recv.contents).stage,
      (takeFrom .idle uart.recv.contents).unread,
      (takeFrom .idle uart.recv.contents).latch.getD (Buffer.toList uart.readRegBackBuf 8)⟩ := by
  have skipped : takeFrom .idle uart.recv.contents = ⟨.idle, uart.recv.contents.drop 1, none⟩ := by
    cases bytes : uart.recv.contents with
    | nil => rfl
    | cons first rest =>
        have other : first ≠ 0xFE := by simpa [bytes] using start
        simp [takeFrom, other]
  rw [uart1RxHandle_skips zero start, skipped]
  refine ⟨handleHead_idle zero start, handleHead_contents zero, ?_, not_started_of_idle⟩
  exact congrArg (Buffer.toList · 8) (handleHead_readRegBackBuf uart)

/-- One callback of the interrupt handler is one callback of the parser. -/
theorem Refines.receive {uart : Uart1} {parser : Parser} (refines : Refines uart parser)
    (intr : RxInterrupt) : Refines (uart1IrqHandler uart intr) (parser.receive intr.accepted) := by
  obtain ⟨rxLen, unread, latched, started⟩ := refines
  have pending := Refines.pending ⟨rxLen, unread, latched, started⟩ intr
  let received : Uart1 := { uart with recv := uart1IrqReceive uart.recv intr }
  change Refines (uart1RxHandle received) ⟨(takeFrom parser.stage (parser.pending intr.accepted)).stage,
    (takeFrom parser.stage (parser.pending intr.accepted)).unread,
    (takeFrom parser.stage (parser.pending intr.accepted)).latch.getD parser.latched⟩
  rw [← pending, ← latched]
  cases stage : parser.stage with
  | stuck =>
      have two : received.rxLen = 2 := by rw [stage] at rxLen; exact rxLen
      have command : received.handleHead.handleCommand = (received, 0) := by
        rw [handleHead_started (by omega), Uart1.handleCommand, if_neg (by omega)]
      rw [uart1RxHandle_of_command command, handleAnswers_rest (.inr (by decide))]
      exact ⟨two, rfl, rfl, not_started_of_stuck⟩
  | started =>
      have before := started stage
      have reading : Reading (0xFE :: received.recv.contents) 1 received :=
        ⟨before.rxLen, rfl, before.buffer⟩
      have head : received.handleHead = received := handleHead_started (by rw [reading.rxLen]; decide)
      have ends := takeAnswer_refines (head.symm ▸ reading)
      rw [head] at ends
      exact ends
  | idle =>
      have zero : received.rxLen = 0 := by rw [stage] at rxLen; exact rxLen
      have back := handleHead_readRegBackBuf received
      by_cases start : received.recv.contents[0]? = some 0xFE
      · cases bytes : received.recv.contents with
        | nil => simp [bytes] at start
        | cons first rest =>
            obtain rfl : first = 0xFE := by simpa [bytes] using start
            have ends := takeAnswer_refines (handleHead_start zero bytes)
            rw [back] at ends
            exact ends
      · exact skip_refines zero start

theorem Refines.foldl {uart : Uart1} {parser : Parser} (refines : Refines uart parser)
    (intrs : List RxInterrupt) :
    Refines (intrs.foldl uart1IrqHandler uart)
      (intrs.foldl (fun parser intr => parser.receive intr.accepted) parser) := by
  induction intrs generalizing uart parser with
  | nil => exact refines
  | cons intr rest ih => exact ih (refines.receive intr)

theorem refines_idle {uart : Uart1} (idle : uart.rxLen = 0) :
    Refines uart ⟨.idle, uart.recv.contents, Buffer.toList uart.readRegBackBuf 8⟩ :=
  ⟨idle, rfl, rfl, not_started_of_idle⟩

/-- A read answer that announces no registers: four bytes in all. -/
structure IsEmptyAnswer (bytes : List UInt8) : Prop where
  length : bytes.length = 4
  start : bytes.getD 0 0 = 0xFE
  command : bytes.getD 1 0 &&& 0x0F = 1
  registers : bytes.getD 2 0 = 0x00
  check : bytes.getD 3 0 = ~~~Buffer.byteSum (fun index => bytes.getD index 0) 3 + 0x33

theorem isEmptyAnswer_iff (command registers check : UInt8) :
    IsEmptyAnswer [0xFE, command, registers, check] ↔
      command &&& 0x0F = 1 ∧ registers = 0 ∧ check = answerCheck [0xFE, command, registers] := by
  constructor
  · rintro ⟨_, _, read, zero, checked⟩
    exact ⟨read, zero, checked⟩
  · rintro ⟨read, zero, checked⟩
    exact ⟨rfl, rfl, read, zero, checked⟩

theorem isReadResponse_iff {answer : List UInt8} (size : answer.length = 7) (check : UInt8) :
    IsReadResponse (answer ++ [check]) ↔
      answer.getD 0 0 = 0xFE ∧ answer.getD 1 0 &&& 0x0F = 1 ∧ answer.getD 2 0 = 1 ∧
        check = answerCheck answer := by
  have inside (index : Nat) (bound : index < 7) :
      (answer ++ [check]).getD index 0 = answer.getD index 0 := by
    simp [List.getElem?_append_left (by omega : index < answer.length)]
  have last : (answer ++ [check]).getD 7 0 = check := by
    simp [← size]
  have sum : Buffer.byteSum (fun index => (answer ++ [check]).getD index 0) 7 =
      Buffer.byteSum (fun index => answer.getD index 0) answer.length := by
    rw [size]
    exact Buffer.byteSum_congr inside
  constructor
  · rintro ⟨_, start, command, registers, checked⟩
    rw [inside _ (by omega)] at start command registers
    rw [last, sum] at checked
    exact ⟨start, command, registers, checked⟩
  · rintro ⟨start, command, registers, checked⟩
    refine ⟨by simp [size], ?_, ?_, ?_, ?_⟩
    · rwa [inside _ (by omega)]
    · rwa [inside _ (by omega)]
    · rwa [inside _ (by omega)]
    · rw [last, sum]
      exact checked

theorem latchedBytes_of_length {bytes : List UInt8} (size : bytes.length = 8) :
    latchedBytes bytes = bytes := by
  apply List.ext_getElem
  · simp [latchedBytes, size]
  · intro index first second
    simp [latchedBytes, Buffer.toList, second]

/-- What can be latched from the bytes a start byte opens. -/
inductive Latches (stream : List UInt8) : List UInt8 → Prop
  | empty (answer : IsEmptyAnswer (stream.take 4)) : Latches stream (latchedBytes (stream.take 4))
  | response (answer : IsReadResponse (stream.take 8)) : Latches stream (stream.take 8)

theorem Latches.read {command : UInt8} {rest back : List UInt8}
    (latches : Latches (0xFE :: command :: rest) back) : command &&& 0x0F = 1 := by
  cases latches with
  | empty answer => exact answer.command
  | response answer => exact answer.command

theorem Latches.enough {command registers : UInt8} {rest back : List UInt8}
    (latches : Latches (0xFE :: command :: registers :: rest) back) :
    registers.toNat ≤ 1 ∧ 4 * registers.toNat + 1 ≤ rest.length := by
  cases latches with
  | empty answer =>
      have zero : registers = 0 := answer.registers
      have size := answer.length
      simp only [List.length_take, List.length_cons] at size
      subst zero
      exact ⟨by decide, by change 1 ≤ _; omega⟩
  | response answer =>
      have one : registers = 1 := answer.registers
      have size := answer.length
      simp only [List.length_take, List.length_cons] at size
      subst one
      exact ⟨by decide, by change 5 ≤ _; omega⟩

theorem not_latches_of_short {stream back : List UInt8} (short : stream.length < 4) :
    ¬Latches stream back := by
  intro latches
  cases latches with
  | empty answer =>
      have size := answer.length
      rw [List.length_take] at size
      omega
  | response answer =>
      have size := answer.length
      rw [List.length_take] at size
      omega

theorem latches_empty_iff {command check : UInt8} {rest back : List UInt8} :
    Latches (0xFE :: command :: 0 :: check :: rest) back ↔
      IsEmptyAnswer [0xFE, command, 0, check] ∧ latchedBytes [0xFE, command, 0, check] = back := by
  constructor
  · intro latches
    cases latches with
    | empty answer => exact ⟨answer, rfl⟩
    | response answer => exact absurd answer.registers (by simp)
  · rintro ⟨answer, rfl⟩
    exact .empty answer

theorem latches_response_iff {command : UInt8} {rest back : List UInt8} (enough : 5 ≤ rest.length) :
    Latches (0xFE :: command :: 1 :: rest) back ↔
      IsReadResponse (0xFE :: command :: 1 :: rest.take 4 ++ [rest.getD 4 0]) ∧
        0xFE :: command :: 1 :: rest.take 4 ++ [rest.getD 4 0] = back := by
  rw [← take_answer (by omega : 4 + 1 ≤ rest.length)]
  constructor
  · intro latches
    cases latches with
    | empty answer => exact absurd answer.registers (by simp)
    | response answer => exact ⟨answer, rfl⟩
  · rintro ⟨answer, rfl⟩
    exact .response answer

theorem latches_whole_iff {command registers : UInt8} {rest back : List UInt8}
    (read : command &&& 0x0F = 1) (enough : 4 * registers.toNat + 1 ≤ rest.length) :
    (rest.getD (4 * registers.toNat) 0 = answerCheck (0xFE :: command :: registers ::
          rest.take (4 * registers.toNat)) ∧ 4 * registers.toNat ≤ 4) ∧
        latchedBytes (0xFE :: command :: registers :: rest.take (4 * registers.toNat) ++
          [rest.getD (4 * registers.toNat) 0]) = back ↔
      Latches (0xFE :: command :: registers :: rest) back := by
  by_cases few : registers.toNat ≤ 1
  · have either : registers.toNat = 0 ∨ registers.toNat = 1 := by omega
    rcases either with zero | one
    · obtain rfl : registers = 0 := UInt8.toNat_inj.mp zero
      cases rest with
      | nil => simp at enough
      | cons check rest =>
          rw [latches_empty_iff, isEmptyAnswer_iff]
          simp [read]
    · obtain rfl : registers = 1 := UInt8.toNat_inj.mp one
      have five : 5 ≤ rest.length := enough
      have size : (0xFE :: command :: 1 :: rest.take 4).length = 7 := by
        simp only [List.length_cons, List.length_take]
        omega
      rw [latches_response_iff five, isReadResponse_iff size]
      change (rest.getD 4 0 = answerCheck (0xFE :: command :: 1 :: rest.take 4) ∧ 4 ≤ 4) ∧
        latchedBytes (0xFE :: command :: 1 :: rest.take 4 ++ [rest.getD 4 0]) = back ↔ _
      rw [latchedBytes_of_length (by rw [List.length_append, size]; rfl)]
      simp [read]
  · have long : ¬4 * registers.toNat ≤ 4 := by omega
    refine iff_of_false (fun holds => long holds.1.2) fun latches => few latches.enough.1

theorem takeAnswer_latch_iff (rest back : List UInt8) :
    (takeAnswer rest).latch = some back ↔ Latches (0xFE :: rest) back := by
  induction rest using takeAnswer_cases with
  | nothing => exact iff_of_false nofun (not_latches_of_short (by simp))
  | alone => exact iff_of_false nofun (not_latches_of_short (by simp))
  | write command rest write =>
      refine iff_of_false nofun fun latches => ?_
      rw [latches.read] at write
      exact absurd write (by decide)
  | short command registers rest read few =>
      exact iff_of_false nofun fun latches => Nat.not_lt.mpr latches.enough.2 few
  | whole command registers rest read enough =>
      rw [← latches_whole_iff read enough]
      simp only [Option.ite_none_right_eq_some, Option.some.injEq]
  | unknown command rest notRead =>
      exact iff_of_false nofun fun latches => notRead latches.read

-- The bytes a callback works on, from the start byte on if that was taken before.
def Parser.stream (parser : Parser) (bytes : List UInt8) : List UInt8 :=
  match parser.stage with
  | .idle => parser.pending bytes
  | .started => 0xFE :: parser.pending bytes
  | .stuck => []

theorem taken_latch_iff (parser : Parser) (bytes back : List UInt8) :
    (parser.taken bytes).latch = some back ↔ Latches (parser.stream bytes) back := by
  unfold Parser.taken Parser.stream
  cases parser.stage with
  | started => exact takeAnswer_latch_iff _ _
  | stuck => exact iff_of_false nofun (not_latches_of_short (by simp))
  | idle =>
      cases parser.pending bytes with
      | nil => exact iff_of_false nofun (not_latches_of_short (by simp))
      | cons first rest =>
          by_cases start : first = 0xFE
          · subst start
            exact takeAnswer_latch_iff rest back
          · simp only [takeFrom, start, if_false]
            refine iff_of_false nofun fun latches => start ?_
            cases latches with
            | empty answer => exact answer.start
            | response answer => exact answer.start

def Uart1.stream (uart : Uart1) (intr : RxInterrupt) : List UInt8 :=
  match uart.rxLen with
  | 0 => (uart1IrqReceive uart.recv intr).contents
  | 1 => 0xFE :: (uart1IrqReceive uart.recv intr).contents
  | _ => []

theorem Refines.stream {uart : Uart1} {parser : Parser} (refines : Refines uart parser)
    (intr : RxInterrupt) : uart.stream intr = parser.stream intr.accepted := by
  unfold Uart1.stream Parser.stream
  rw [refines.rxLen, refines.pending intr]
  cases parser.stage with
  | idle => rfl
  | started => rfl
  | stuck => rfl

end SmartMeter
