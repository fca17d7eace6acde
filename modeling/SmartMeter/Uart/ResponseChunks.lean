import Mathlib.Algebra.GroupWithZero.Nat
import Mathlib.Data.List.Chain
import SmartMeter.Uart.LatchedResponse

/-!
How the chip's answers may be divided over callbacks. A division says which answers are
sent and how many bytes each callback brings; it is judged by what it does to every
sequence of answers of these kinds.
-/

namespace SmartMeter

open RingBuffer

inductive Answer
  | written
  | register
deriving Repr, DecidableEq

def Answer.size : Answer → Nat
  | .written => 4
  | .register => 8

structure IsWriteAck (bytes : List UInt8) : Prop where
  length : bytes.length = 4
  start : bytes.getD 0 0 = 0xFE
  command : bytes.getD 1 0 &&& 0x0F = 2
  check : bytes.getD 3 0 = ~~~Buffer.byteSum (fun index => bytes.getD index 0) 3 + 0x33

def Answer.Bytes : Answer → List UInt8 → Prop
  | .written => IsWriteAck
  | .register => IsReadResponse

structure Division where
  answers : List Answer
  sizes : List Nat
  fits : ∀ size ∈ sizes, 0 < size ∧ size ≤ 63
  total : sizes.sum = (answers.map Answer.size).sum

structure Division.Delivers (division : Division) (responses : List (List UInt8))
    (chunks : List RxInterrupt) : Prop where
  answers : List.Forall₂ Answer.Bytes division.answers responses
  sizes : chunks.map (fun chunk => chunk.fifo.length) = division.sizes
  clean : ∀ chunk ∈ chunks, chunk.error = false
  bytes : chunks.flatMap RxInterrupt.fifo = responses.flatten

def wholeCallback (bytes : List UInt8) : RxInterrupt :=
  ⟨false, bytes.take 63, List.length_take_le 63 bytes⟩

def ChunkingIndependent (uart : Uart1) (responses : List (List UInt8))
    (chunks : List RxInterrupt) : Prop :=
  Buffer.toList (chunks.foldl uart1IrqHandler uart).readRegBackBuf 8 =
    Buffer.toList ((responses.map wholeCallback).foldl uart1IrqHandler uart).readRegBackBuf 8

-- A nearly full ring throws away its oldest bytes before it takes new ones.
def lostBytes (unread : Nat) : Nat :=
  if 4095 - unread ≤ rxCacheLimit then rxCacheLimit else 0

def skipBytes : Nat → List Answer → Option (List Answer)
  | count, [] => if count = 0 then some [] else none
  | count, answer :: rest =>
      if count = 0 then some (answer :: rest)
      else if answer.size ≤ count then skipBytes (count - answer.size) rest
      else none

/-- A callback does well when the oldest answer it has not handled is there in full, or when
only its start byte is. `unread` counts the bytes of the coming answers that have arrived;
the callbacks after the last register answer do not matter. -/
def settles : List Answer → Nat → List Nat → Bool
  | answers, _, [] => decide (.register ∉ answers)
  | answers, unread, size :: sizes =>
      decide (.register ∉ answers) ||
      match skipBytes (lostBytes unread) answers with
      | some (answer :: rest) =>
          let arrived := unread - lostBytes unread + size
          decide (.register ∈ answer :: rest) &&
            if answer.size ≤ arrived then settles rest (arrived - answer.size) sizes
            else decide (arrived = 1) && settles (answer :: rest) 1 sizes
      | _ => false

def latest : List Answer → List (List UInt8) → List UInt8 → List UInt8
  | .register :: answers, response :: responses, _ => latest answers responses response
  | .written :: answers, _ :: responses, latched => latest answers responses latched
  | _, _, latched => latched

theorem takeFrom_register {response : List UInt8} (answer : IsReadResponse response)
    (rest : List UInt8) : takeFrom .idle (response ++ rest) = ⟨.idle, rest, some response⟩ := by
  match response, answer.length with
  | [first, command, registers, b3, b4, b5, b6, check], _ =>
      obtain rfl : first = 0xFE := answer.start
      have read : command &&& 0x0F = 1 := answer.command
      obtain rfl : registers = 1 := answer.registers
      have latch := (takeAnswer_latch_iff (command :: 1 :: b3 :: b4 :: b5 :: b6 :: check :: rest) _).mpr
        (.response answer)
      have five : 4 * (1 : UInt8).toNat + 1 ≤ (b3 :: b4 :: b5 :: b6 :: check :: rest).length :=
        Nat.le_add_left 5 rest.length
      rw [takeAnswer_whole read five] at latch
      refine (takeAnswer_whole read five).trans ?_
      exact congrArg (Taken.mk .idle rest) latch

theorem takeFrom_written {response : List UInt8} (answer : IsWriteAck response)
    (rest : List UInt8) : takeFrom .idle (response ++ rest) = ⟨.idle, rest, none⟩ := by
  match response, answer.length with
  | [first, command, address, check], _ =>
      obtain rfl : first = 0xFE := answer.start
      have write : command &&& 0x0F = 2 := answer.command
      refine (takeAnswer_write write).trans ?_
      simp

theorem Answer.Bytes.length {answer : Answer} {response : List UInt8}
    (bytes : answer.Bytes response) : response.length = answer.size := by
  cases answer with
  | written => exact IsWriteAck.length bytes
  | register => exact IsReadResponse.length bytes

theorem Answer.Bytes.start {answer : Answer} {response : List UInt8}
    (bytes : answer.Bytes response) : ∃ rest, response = 0xFE :: rest := by
  have size := bytes.length
  cases response with
  | nil =>
      cases answer with
      | written => cases size
      | register => cases size
  | cons first rest =>
      refine ⟨rest, congrArg (· :: rest) ?_⟩
      cases answer with
      | written => exact IsWriteAck.start bytes
      | register => exact IsReadResponse.start bytes

theorem takeFrom_answer {answer : Answer} {response : List UInt8} (bytes : answer.Bytes response)
    (rest latched : List UInt8) :
    (takeFrom .idle (response ++ rest)).stage = .idle ∧
      (takeFrom .idle (response ++ rest)).unread = rest ∧
      (takeFrom .idle (response ++ rest)).latch.getD latched = latest [answer] [response] latched := by
  cases answer with
  | written =>
      rw [takeFrom_written bytes]
      exact ⟨rfl, rfl, rfl⟩
  | register =>
      rw [takeFrom_register bytes]
      exact ⟨rfl, rfl, rfl⟩

/-- The parser waits at the start of the answers to come, with the first `unread` of their
bytes at hand. -/
structure Parser.Aligned (parser : Parser) (coming : List UInt8) (unread : Nat) : Prop where
  moving : parser.stage ≠ .stuck
  held : parser.held = coming.take unread
  started : parser.stage = .started → parser.unread = []
  arrived : unread ≤ coming.length

section Aligned

variable {parser : Parser} {coming chunk future : List UInt8} {unread : Nat}

theorem Parser.Aligned.held_length (aligned : parser.Aligned coming unread) :
    parser.held.length = unread := by
  rw [aligned.held, List.length_take, Nat.min_eq_left aligned.arrived]

theorem stream_eq_drop (moving : parser.stage ≠ .stuck)
    (started : parser.stage = .started → parser.unread = []) (chunk : List UInt8) :
    parser.stream chunk = parser.held.drop (lostBytes parser.held.length) ++ chunk := by
  unfold Parser.stream Parser.held
  cases stage : parser.stage with
  | stuck => exact absurd stage moving
  | started =>
      simp only [started stage, Parser.pending]
      rfl
  | idle =>
      simp only [Parser.pending, lostBytes]
      split
      · rfl
      · rfl

theorem lostBytes_le (unread : Nat) : lostBytes unread ≤ unread := by
  have limit : rxCacheLimit = 128 := rfl
  unfold lostBytes
  split
  · omega
  · omega

theorem Parser.Aligned.stream (aligned : parser.Aligned coming unread)
    (next : coming.drop unread = chunk ++ future) :
    parser.stream chunk =
      (coming.drop (lostBytes unread)).take (unread - lostBytes unread + chunk.length) := by
  have size := aligned.held_length
  have inside : lostBytes unread ≤ parser.held.length := by
    rw [size]
    exact lostBytes_le unread
  have split : coming = parser.held ++ (chunk ++ future) := by
    rw [aligned.held, ← next, List.take_append_drop]
  rw [stream_eq_drop aligned.moving aligned.started, size, split,
    List.drop_append_of_le_length inside, ← List.append_assoc, List.take_left' (by simp [size])]

/-- What the bytes at hand begin with decides what the callback does. -/
theorem Parser.Aligned.receive (aligned : parser.Aligned coming unread)
    (next : coming.drop unread = chunk ++ future) {taken : Taken}
    (takes : takeFrom .idle ((coming.drop (lostBytes unread)).take
      (unread - lostBytes unread + chunk.length)) = taken) :
    parser.receive chunk = ⟨taken.stage, taken.unread, taken.latch.getD parser.latched⟩ := by
  unfold Parser.receive
  rw [taken_eq_takeFrom aligned.moving, aligned.stream next, takes]

theorem drop_arrived (next : coming.drop unread = chunk ++ future) :
    (coming.drop (lostBytes unread)).drop (unread - lostBytes unread + chunk.length) = future := by
  have lost := lostBytes_le unread
  rw [List.drop_drop, ← Nat.add_assoc, Nat.add_sub_cancel' lost, ← List.drop_drop, next,
    List.drop_left]

theorem arrived_le (inside : unread ≤ coming.length)
    (next : coming.drop unread = chunk ++ future) :
    unread - lostBytes unread + chunk.length ≤ (coming.drop (lostBytes unread)).length := by
  have lost := lostBytes_le unread
  have sizes := congrArg List.length next
  rw [List.length_drop, List.length_append] at sizes
  rw [List.length_drop]
  omega

theorem Parser.Aligned.consume (aligned : parser.Aligned coming unread)
    (next : coming.drop unread = chunk ++ future) {answer : Answer} {response later : List UInt8}
    (bytes : answer.Bytes response) (behind : coming.drop (lostBytes unread) = response ++ later)
    (whole : answer.size ≤ unread - lostBytes unread + chunk.length) :
    (parser.receive chunk).Aligned later
        (unread - lostBytes unread + chunk.length - answer.size) ∧
      (parser.receive chunk).latched = latest [answer] [response] parser.latched ∧
      later.drop (unread - lostBytes unread + chunk.length - answer.size) = future := by
  have size := bytes.length
  have inside := arrived_le aligned.arrived next
  have left := drop_arrived next
  have front : (coming.drop (lostBytes unread)).take (unread - lostBytes unread + chunk.length) =
      response ++ later.take (unread - lostBytes unread + chunk.length - answer.size) := by
    rw [behind, List.take_append, List.take_of_length_le (by omega), size]
  obtain ⟨stage, unreadBytes, latch⟩ := takeFrom_answer bytes
    (later.take (unread - lostBytes unread + chunk.length - answer.size)) parser.latched
  rw [aligned.receive next (congrArg (takeFrom .idle) front), stage, unreadBytes, latch]
  rw [behind, List.drop_append, List.drop_eq_nil_of_le (by omega), List.nil_append, size] at left
  rw [behind, List.length_append] at inside
  exact ⟨⟨nofun, rfl, nofun, by omega⟩, rfl, left⟩

theorem Parser.Aligned.wait (aligned : parser.Aligned coming unread)
    (next : coming.drop unread = chunk ++ future) {later : List UInt8}
    (behind : coming.drop (lostBytes unread) = 0xFE :: later)
    (one : unread - lostBytes unread + chunk.length = 1) :
    (parser.receive chunk).Aligned (coming.drop (lostBytes unread)) 1 ∧
      (parser.receive chunk).latched = parser.latched ∧
      (coming.drop (lostBytes unread)).drop 1 = future := by
  have left := drop_arrived next
  rw [one] at left
  have takes : takeFrom .idle ((coming.drop (lostBytes unread)).take
      (unread - lostBytes unread + chunk.length)) = ⟨.started, [], none⟩ := by
    rw [one, behind]
    rfl
  rw [aligned.receive next takes]
  refine ⟨⟨nofun, ?_, fun _ => rfl, ?_⟩, rfl, left⟩
  · rw [behind]
    rfl
  · rw [behind]
    simp

end Aligned

theorem latest_cons (answer : Answer) (answers : List Answer) (response : List UInt8)
    (responses : List (List UInt8)) (latched : List UInt8) :
    latest (answer :: answers) (response :: responses) latched =
      latest answers responses (latest [answer] [response] latched) := by
  cases answer with
  | written => rfl
  | register => rfl

theorem latest_of_register {answers : List Answer} {responses : List (List UInt8)}
    (bytes : List.Forall₂ Answer.Bytes answers responses) (some : .register ∈ answers)
    (first second : List UInt8) : latest answers responses first = latest answers responses second := by
  induction bytes with
  | nil => cases some
  | cons head tail ih =>
      rename_i answer response answers responses
      cases answer with
      | register => rfl
      | written => exact ih (by simpa using some)

theorem latest_of_no_register {answers : List Answer} (none : .register ∉ answers)
    (responses : List (List UInt8)) (latched : List UInt8) :
    latest answers responses latched = latched := by
  induction answers generalizing responses with
  | nil => rfl
  | cons answer answers ih =>
      obtain ⟨other, rest⟩ := not_or.mp (mt List.mem_cons.mpr none)
      cases responses with
      | nil =>
          cases answer with
          | written => rfl
          | register => rfl
      | cons response responses =>
          cases answer with
          | register => exact absurd rfl other
          | written => exact ih rest responses

theorem skipBytes_drop {count : Nat} {answers left : List Answer} {responses : List (List UInt8)}
    (bytes : List.Forall₂ Answer.Bytes answers responses) (skips : skipBytes count answers = some left) :
    ∃ after, List.Forall₂ Answer.Bytes left after ∧ responses.flatten.drop count = after.flatten ∧
      (.register ∈ left → ∀ latched, latest answers responses latched = latest left after latched) := by
  induction bytes generalizing count with
  | nil =>
      by_cases zero : count = 0
      · simp only [skipBytes, zero, if_true, Option.some.injEq] at skips
        subst skips zero
        exact ⟨[], .nil, rfl, nofun⟩
      · simp only [skipBytes, zero, if_false, reduceCtorEq] at skips
  | cons head tail ih =>
      rename_i answer response answers responses
      by_cases zero : count = 0
      · simp only [skipBytes, zero, if_true, Option.some.injEq] at skips
        subst skips zero
        exact ⟨response :: responses, .cons head tail, rfl, fun _ _ => rfl⟩
      · by_cases whole : answer.size ≤ count
        · simp only [skipBytes, zero, if_false, whole, if_true] at skips
          obtain ⟨after, kinds, dropped, same⟩ := ih skips
          refine ⟨after, kinds, ?_, ?_⟩
          · have size := head.length
            rw [List.flatten_cons, List.drop_append, List.drop_eq_nil_of_le (by omega), size, dropped]
            rfl
          · intro some latched
            rw [latest_cons, same some]
            exact latest_of_register kinds some _ _
        · simp only [skipBytes, zero, if_false, whole, reduceCtorEq] at skips

def Quiet (bytes : List UInt8) : Prop :=
  bytes.IsChain fun first second => first = 0xFE → second &&& 0x0F ≠ 1

theorem Quiet.not_latches {stream back : List UInt8} (quiet : Quiet stream) :
    ¬Latches stream back := by
  intro latches
  match stream with
  | [] => exact not_latches_of_short (by simp) latches
  | [first] => exact not_latches_of_short (by simp) latches
  | first :: command :: rest =>
      have start : first = 0xFE := by
        cases latches with
        | empty answer => exact answer.start
        | response answer => exact answer.start
      subst start
      exact (List.isChain_cons_cons.mp quiet).1 rfl latches.read

theorem writeAck_check {command check : UInt8} (write : command &&& 0x0F = 2)
    (checked : check = ~~~(0xFE + command + 0xFE) + 0x33) : check &&& 0x0F ≠ 1 := by
  have every : ∀ command : BitVec 8, command &&& 0x0F = 2 →
      (~~~(0xFE + command + 0xFE) + 0x33) &&& 0x0F ≠ 1 := by decide
  rw [checked]
  intro same
  exact every command.toBitVec (congrArg UInt8.toBitVec write) (congrArg UInt8.toBitVec same)

theorem quiet_written {response rest : List UInt8} (answer : IsWriteAck response)
    (start : ∀ byte ∈ rest.head?, byte = 0xFE) (quiet : Quiet rest) : Quiet (response ++ rest) := by
  match response, answer.length with
  | [first, command, address, check], _ =>
      have write : command &&& 0x0F = 2 := answer.command
      have other : command ≠ 0xFE := by
        rintro rfl
        exact absurd write (by decide)
      have closing : address = 0xFE → check &&& 0x0F ≠ 1 := by
        rintro rfl
        obtain rfl : first = 0xFE := answer.start
        exact writeAck_check write (by simpa [Buffer.byteSum] using answer.check)
      have next : Quiet (check :: rest) := by
        cases rest with
        | nil => exact .singleton check
        | cons byte rest =>
            obtain rfl : byte = 0xFE := start byte rfl
            exact .cons_cons (fun _ => by decide) quiet
      refine .cons_cons (fun _ => ?_) (.cons_cons (fun same => absurd same other)
        (.cons_cons closing next))
      rw [write]
      decide

theorem quiet_of_no_register {answers : List Answer} {responses : List (List UInt8)}
    (bytes : List.Forall₂ Answer.Bytes answers responses) (none : .register ∉ answers) :
    Quiet responses.flatten := by
  induction bytes with
  | nil => exact .nil
  | cons head tail ih =>
      rename_i answer response answers responses
      obtain ⟨other, rest⟩ := not_or.mp (mt List.mem_cons.mpr none)
      cases answer with
      | register => exact absurd rfl other
      | written =>
          refine quiet_written head ?_ (ih rest)
          intro byte first
          cases tail with
          | nil => cases first
          | cons next more =>
              obtain ⟨behind, rfl⟩ := next.start
              exact (Option.some.inj first).symm

theorem receive_quiet {parser : Parser} {chunk : List UInt8} (quiet : Quiet (parser.stream chunk)) :
    (parser.receive chunk).latched = parser.latched := by
  cases latch : (parser.taken chunk).latch with
  | none => simp only [Parser.receive, latch, Option.getD_none]
  | some back => exact absurd ((taken_latch_iff _ _ _).mp latch) quiet.not_latches

theorem foldl_receive_quiet {parser : Parser} {wire : List UInt8} (chunks : List (List UInt8))
    (follows : parser.Follows wire) (quiet : Quiet (wire ++ chunks.flatten)) :
    (chunks.foldl Parser.receive parser).latched = parser.latched := by
  induction chunks generalizing parser wire with
  | nil => rfl
  | cons chunk chunks ih =>
      rw [List.flatten_cons, ← List.append_assoc] at quiet
      have received : Quiet (wire ++ chunk) := quiet.left_of_append
      rw [List.foldl_cons, ih (follows.receive chunk) quiet,
        receive_quiet (received.suffix (follows.stream chunk))]

theorem Parser.Aligned.follows {parser : Parser} {coming : List UInt8} {unread : Nat}
    (aligned : parser.Aligned coming unread) : parser.Follows (coming.take unread) :=
  ⟨aligned.held ▸ List.suffix_rfl, aligned.started⟩

theorem settles_cons {answers : List Answer} {unread size : Nat} {sizes : List Nat}
    (some : .register ∈ answers) (settled : settles answers unread (size :: sizes) = true) :
    ∃ answer rest, skipBytes (lostBytes unread) answers = Option.some (answer :: rest) ∧
      .register ∈ answer :: rest ∧
      (answer.size ≤ unread - lostBytes unread + size ∧
          settles rest (unread - lostBytes unread + size - answer.size) sizes = true ∨
        unread - lostBytes unread + size = 1 ∧ settles (answer :: rest) 1 sizes = true) := by
  rw [settles, decide_eq_false (not_not_intro some), Bool.false_or] at settled
  cases skips : skipBytes (lostBytes unread) answers with
  | none =>
      rw [skips] at settled
      cases settled
  | some left =>
      rw [skips] at settled
      cases left with
      | nil => cases settled
      | cons answer rest =>
          obtain ⟨inside, next⟩ := (Bool.and_eq_true _ _).mp settled
          refine ⟨answer, rest, rfl, of_decide_eq_true inside, ?_⟩
          by_cases whole : answer.size ≤ unread - lostBytes unread + size
          · rw [if_pos whole] at next
            exact .inl ⟨whole, next⟩
          · rw [if_neg whole] at next
            obtain ⟨one, settled⟩ := (Bool.and_eq_true _ _).mp next
            exact .inr ⟨of_decide_eq_true one, settled⟩

/-- After callbacks that all do well the last register answer is latched, as if each answer
had come in a callback of its own. -/
theorem foldl_receive_settles (chunks : List (List UInt8)) {answers : List Answer}
    {responses : List (List UInt8)} {parser : Parser} {unread : Nat}
    (bytes : List.Forall₂ Answer.Bytes answers responses)
    (aligned : parser.Aligned responses.flatten unread)
    (future : responses.flatten.drop unread = chunks.flatten)
    (settled : settles answers unread (chunks.map List.length) = true) :
    (chunks.foldl Parser.receive parser).latched = latest answers responses parser.latched := by
  induction chunks generalizing answers responses parser unread with
  | nil =>
      have none : .register ∉ answers := of_decide_eq_true settled
      exact (latest_of_no_register none responses parser.latched).symm
  | cons chunk chunks ih =>
      by_cases some : .register ∈ answers
      · obtain ⟨answer, rest, skips, left, next⟩ := settles_cons some settled
        obtain ⟨after, kinds, dropped, same⟩ := skipBytes_drop bytes skips
        cases kinds with
        | cons head tail =>
            rename_i response later
            rw [List.flatten_cons] at dropped future
            rw [List.foldl_cons, same left, latest_cons]
            rcases next with ⟨whole, settled⟩ | ⟨one, settled⟩
            · obtain ⟨aligned, latched, remains⟩ := aligned.consume future head dropped whole
              rw [ih tail aligned remains settled, latched]
            · obtain ⟨behind, start⟩ := head.start
              obtain ⟨aligned, latched, remains⟩ := aligned.wait future
                (by rw [dropped, start]; rfl : _ = 0xFE :: (behind ++ later.flatten)) one
              rw [dropped, ← List.flatten_cons] at aligned remains
              rw [ih (.cons head tail) aligned remains settled, latched, latest_cons]
      · rw [latest_of_no_register some]
        refine foldl_receive_quiet (chunk :: chunks) aligned.follows ?_
        rw [← future, List.take_append_drop]
        exact quiet_of_no_register bytes some

theorem skipBytes_zero (answers : List Answer) : skipBytes 0 answers = some answers := by
  cases answers with
  | nil => rfl
  | cons => rfl

theorem settles_whole (answers : List Answer) : settles answers 0 (answers.map Answer.size) = true := by
  induction answers with
  | nil => rfl
  | cons answer rest ih =>
      have lost : lostBytes 0 = 0 := rfl
      rw [List.map_cons, settles, lost, skipBytes_zero]
      simp only [Nat.zero_add, Nat.le_refl, if_true, Nat.sub_self, ih, Bool.and_true]
      by_cases some : .register ∈ answer :: rest
      · simp [some]
      · simp [some]

theorem foldl_accepted {chunks : List RxInterrupt} (clean : ∀ chunk ∈ chunks, chunk.error = false)
    (parser : Parser) :
    chunks.foldl (fun parser intr => parser.receive intr.accepted) parser =
      (chunks.map RxInterrupt.fifo).foldl Parser.receive parser := by
  induction chunks generalizing parser with
  | nil => rfl
  | cons chunk chunks ih =>
      have accepted : chunk.accepted = chunk.fifo := by
        simp [RxInterrupt.accepted, clean chunk]
      rw [List.foldl_cons, List.map_cons, List.foldl_cons, accepted]
      exact ih (fun other inside => clean other (List.mem_cons_of_mem _ inside)) _

theorem wholeCallback_fifo {bytes : List UInt8} (small : bytes.length ≤ 63) :
    (wholeCallback bytes).fifo = bytes :=
  List.take_of_length_le small

def startParser (back : Nat → UInt8) : Parser :=
  ⟨.idle, [], Buffer.toList back 8⟩

theorem startParser_aligned (back : Nat → UInt8) (coming : List UInt8) :
    (startParser back).Aligned coming 0 :=
  ⟨nofun, rfl, fun _ => rfl, Nat.zero_le _⟩

theorem foldl_latched {recv : TlsUartCircBuf} (nothing : recv.contents = []) (back : Nat → UInt8)
    {chunks : List RxInterrupt} (clean : ∀ chunk ∈ chunks, chunk.error = false) :
    Buffer.toList (chunks.foldl uart1IrqHandler (uart1Init recv back)).readRegBackBuf 8 =
      ((chunks.map RxInterrupt.fifo).foldl Parser.receive (startParser back)).latched := by
  have start : Refines (uart1Init recv back) (startParser back) := by
    have idle : Refines (uart1Init recv back) _ := refines_idle rfl
    rw [show (uart1Init recv back).recv.contents = [] from nothing] at idle
    exact idle
  rw [(start.foldl chunks).latched, foldl_accepted clean]

theorem map_length_of_bytes {answers : List Answer} {responses : List (List UInt8)}
    (bytes : List.Forall₂ Answer.Bytes answers responses) :
    responses.map List.length = answers.map Answer.size := by
  induction bytes with
  | nil => rfl
  | cons head tail ih => rw [List.map_cons, List.map_cons, head.length, ih]

theorem map_wholeCallback_fifo {answers : List Answer} {responses : List (List UInt8)}
    (bytes : List.Forall₂ Answer.Bytes answers responses) :
    (responses.map wholeCallback).map RxInterrupt.fifo = responses := by
  induction bytes with
  | nil => rfl
  | cons head tail ih =>
      rename_i answer response answers responses
      have small : response.length ≤ 63 := by
        rw [head.length]
        cases answer with
        | written => decide
        | register => decide
      rw [List.map_cons, List.map_cons, wholeCallback_fifo small, ih]

theorem whole_latched {recv : TlsUartCircBuf} (nothing : recv.contents = []) (back : Nat → UInt8)
    {answers : List Answer} {responses : List (List UInt8)}
    (bytes : List.Forall₂ Answer.Bytes answers responses) :
    Buffer.toList ((responses.map wholeCallback).foldl uart1IrqHandler
        (uart1Init recv back)).readRegBackBuf 8 =
      latest answers responses (Buffer.toList back 8) := by
  have clean : ∀ chunk ∈ responses.map wholeCallback, chunk.error = false := by
    intro chunk inside
    obtain ⟨response, _, rfl⟩ := List.mem_map.mp inside
    rfl
  rw [foldl_latched nothing back clean, map_wholeCallback_fifo bytes]
  refine foldl_receive_settles responses bytes (startParser_aligned back _) rfl ?_
  rw [map_length_of_bytes bytes]
  exact settles_whole answers

theorem Division.Delivers.latched {division : Division} {responses : List (List UInt8)}
    {chunks : List RxInterrupt} (delivers : division.Delivers responses chunks)
    (settled : settles division.answers 0 division.sizes = true)
    {recv : TlsUartCircBuf} (nothing : recv.contents = []) (back : Nat → UInt8) :
    Buffer.toList (chunks.foldl uart1IrqHandler (uart1Init recv back)).readRegBackBuf 8 =
      latest division.answers responses (Buffer.toList back 8) := by
  rw [foldl_latched nothing back delivers.clean]
  refine foldl_receive_settles _ delivers.answers (startParser_aligned back _) ?_ ?_
  · rw [← List.flatMap_def]
    exact delivers.bytes.symm
  · rw [List.map_map]
    change settles division.answers 0 (chunks.map fun chunk => chunk.fifo.length) = true
    rw [delivers.sizes]
    exact settled

end SmartMeter
