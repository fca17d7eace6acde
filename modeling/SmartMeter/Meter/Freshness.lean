import SmartMeter.Meter.CalibrationLoop
import SmartMeter.Uart.ResponseParser

/-!
Where the data of a register request come from. A request is answered, if at all, during the
delay behind it; `ReadRegBackBuf` is one buffer for all requests and keeps its contents when
no answer comes.
-/

namespace SmartMeter

open Runs StateSimulation

inductive RegisterRequest
  | read (addr : UInt16)
  | write (addr : UInt16) (data : UInt32)
  | pause

def MeterTask.serve (task : MeterTask) : RegisterRequest → MeterTask
  | .read addr => ((readV9261fReg addr).run task).2
  | .write addr data => ((writeV9261fReg addr data).run task).2
  | .pause => ((tlsOsTimeDelay 1).run task).2

def MeterTask.started (task : MeterTask) (recv : TlsUartCircBuf) (back : Nat → UInt8) : MeterTask :=
  { task with uart := uart1Init recv back }

def MeterTask.withBack (task : MeterTask) (back : Nat → UInt8) : MeterTask :=
  { task with uart := { task.uart with readRegBackBuf := back } }

/-- What `ReadV9261fReg` returns now is a response received in its delay, whatever the buffer
held before. -/
def Fresh (addr : UInt16) (task : MeterTask) : Prop :=
  ∃ response, IsReadResponse response ∧
    response <:+: (task.arrivals 0).flatMap RxInterrupt.accepted ∧
    ∀ back, Buffer.toList ((readV9261fReg addr).run (task.withBack back)).1 8 = response

def NoStaleData (task : MeterTask) : RegisterRequest → Prop
  | .read addr => Fresh addr task
  | .write addr data =>
      ((writeV9261fReg addr data).run task).1 = 0 → Fresh addr ((sendWriteRequest addr data).run task).2
  | .pause => True

def FindsNoAnswer (uart : Uart1) (intr : RxInterrupt) : Prop :=
  ∀ answer, ¬Latches (uart.stream intr) answer

/-- `answer` is the last answer that a callback finds complete at the front of the unread bytes. -/
def LastAnswer : Uart1 → List RxInterrupt → List UInt8 → Prop
  | _, [], _ => False
  | uart, intr :: rest, answer =>
      LastAnswer (uart1IrqHandler uart intr) rest answer ∨
        Latches (uart.stream intr) answer ∧
          Along uart1IrqHandler FindsNoAnswer (uart1IrqHandler uart intr) rest

def Answered (uart : Uart1) (window : List RxInterrupt) : Prop :=
  ∃ response, LastAnswer uart window response ∧ IsReadResponse response ∧
    response <:+: window.flatMap RxInterrupt.accepted

def HoldsAfter (uart : Uart1) (window : List RxInterrupt) (answer : List UInt8) : Prop :=
  LastAnswer uart window answer ∨
    Along uart1IrqHandler FindsNoAnswer uart window ∧ answer = Buffer.toList uart.readRegBackBuf 8

def AnswersRequest (task : MeterTask) : RegisterRequest → Prop
  | .read _ => Answered task.uart (task.arrivals 0)
  | .write _ data =>
      Answered ((task.arrivals 0).foldl uart1IrqHandler task.uart) (task.arrivals 1) ∨
        ∃ answer, HoldsAfter task.uart (task.arrivals 0 ++ task.arrivals 1) answer ∧
          (answer.drop 3).take 4 ≠ littleEndian data
  | .pause => True

def Parser.lastLatch : Parser → List (List UInt8) → Option (List UInt8)
  | _, [] => none
  | parser, bytes :: rest => (Parser.lastLatch (parser.receive bytes) rest).or (parser.taken bytes).latch

theorem latched_eq_lastLatch (parser : Parser) (chunks : List (List UInt8)) :
    (chunks.foldl Parser.receive parser).latched = (parser.lastLatch chunks).getD parser.latched := by
  induction chunks generalizing parser with
  | nil => rfl
  | cons bytes rest ih =>
      rw [List.foldl_cons, ih, Parser.lastLatch]
      cases Parser.lastLatch (parser.receive bytes) rest with
      | none => rfl
      | some back => rfl

theorem lastLatch_congr {first second : Parser} (stage : first.stage = second.stage)
    (unread : first.unread = second.unread) (chunks : List (List UInt8)) :
    first.lastLatch chunks = second.lastLatch chunks := by
  induction chunks generalizing first second with
  | nil => rfl
  | cons bytes rest ih =>
      have same : first.taken bytes = second.taken bytes := by
        unfold Parser.taken Parser.pending
        rw [stage, unread]
      rw [Parser.lastLatch, Parser.lastLatch, same]
      congr 1
      apply ih
      · exact congrArg Taken.stage same
      · exact congrArg Taken.unread same

section Window

variable {uart : Uart1} {parser : Parser}

theorem findsNoAnswer_iff (refines : Refines uart parser) (intr : RxInterrupt) :
    FindsNoAnswer uart intr ↔ (parser.taken intr.accepted).latch = none := by
  unfold FindsNoAnswer
  rw [Option.eq_none_iff_forall_ne_some, refines.stream intr]
  exact forall_congr' fun answer => not_congr (taken_latch_iff parser intr.accepted answer).symm

theorem noAnswer_iff (refines : Refines uart parser) (window : List RxInterrupt) :
    Along uart1IrqHandler FindsNoAnswer uart window ↔
      parser.lastLatch (window.map RxInterrupt.accepted) = none := by
  induction window generalizing uart parser with
  | nil => exact iff_of_true trivial rfl
  | cons intr rest ih =>
      rw [Along, List.map_cons, Parser.lastLatch, Option.or_eq_none_iff,
        findsNoAnswer_iff refines, ih (refines.receive intr)]
      exact And.comm

theorem lastAnswer_iff (refines : Refines uart parser) (window : List RxInterrupt)
    (answer : List UInt8) :
    LastAnswer uart window answer ↔
      parser.lastLatch (window.map RxInterrupt.accepted) = some answer := by
  induction window generalizing uart parser with
  | nil => exact iff_of_false id nofun
  | cons intr rest ih =>
      have next := refines.receive intr
      rw [LastAnswer, ih next, noAnswer_iff next, refines.stream intr, ← taken_latch_iff,
        List.map_cons, Parser.lastLatch]
      cases Parser.lastLatch (parser.receive intr.accepted) (rest.map RxInterrupt.accepted) with
      | none => simp
      | some back => simp

theorem held_eq (refines : Refines uart parser) (window : List RxInterrupt) :
    Buffer.toList (window.foldl uart1IrqHandler uart).readRegBackBuf 8 =
      (parser.lastLatch (window.map RxInterrupt.accepted)).getD (Buffer.toList uart.readRegBackBuf 8) := by
  have chunks : window.foldl (fun parser intr => parser.receive intr.accepted) parser =
      (window.map RxInterrupt.accepted).foldl Parser.receive parser := List.foldl_map.symm
  rw [(refines.foldl window).latched, chunks, latched_eq_lastLatch, refines.latched]

theorem holdsAfter_iff (refines : Refines uart parser) (window : List RxInterrupt)
    (answer : List UInt8) :
    HoldsAfter uart window answer ↔
      answer = Buffer.toList (window.foldl uart1IrqHandler uart).readRegBackBuf 8 := by
  unfold HoldsAfter
  rw [held_eq refines, lastAnswer_iff refines, noAnswer_iff refines]
  cases parser.lastLatch (window.map RxInterrupt.accepted) with
  | none => simp
  | some back => simp [eq_comm]

end Window

theorem Refines.withBack {uart : Uart1} {parser : Parser} (refines : Refines uart parser)
    (back : Nat → UInt8) :
    Refines { uart with readRegBackBuf := back }
      { parser with latched := Buffer.toList back 8 } :=
  ⟨refines.rxLen, refines.unread, rfl, fun started =>
    ⟨(refines.started started).rxLen, (refines.started started).unread,
      (refines.started started).buffer⟩⟩

theorem fresh_iff {task : MeterTask} {parser : Parser} (refines : Refines task.uart parser)
    (addr : UInt16) : Fresh addr task ↔ Answered task.uart (task.arrivals 0) := by
  have result (back : Nat → UInt8) :
      Buffer.toList ((readV9261fReg addr).run (task.withBack back)).1 8 =
        (parser.lastLatch ((task.arrivals 0).map RxInterrupt.accepted)).getD (Buffer.toList back 8) := by
    refine (held_eq (refines.withBack back) (task.arrivals 0)).trans ?_
    have same := @lastLatch_congr ⟨parser.stage, parser.unread, Buffer.toList back 8⟩ parser rfl rfl
    rw [same]
  unfold Fresh Answered
  simp only [result, lastAnswer_iff refines]
  cases parser.lastLatch ((task.arrivals 0).map RxInterrupt.accepted) with
  | none =>
      refine iff_of_false ?_ (by simp)
      rintro ⟨response, _, _, same⟩
      have zeros : Buffer.toList (fun _ => (0 : UInt8)) 8 = response := same fun _ => 0
      have ones : Buffer.toList (fun _ => (1 : UInt8)) 8 = response := same fun _ => 1
      exact absurd (zeros.trans ones.symm) (by decide)
  | some answer =>
      constructor
      · rintro ⟨response, valid, received, same⟩
        obtain rfl : answer = response := same fun _ => 0
        exact ⟨answer, rfl, valid, received⟩
      · rintro ⟨response, same, valid, received⟩
        obtain rfl := Option.some.inj same
        exact ⟨answer, valid, received, fun _ => rfl⟩

theorem checkRegDataWrited_eq_zero_iff (regData back : Nat → UInt8) :
    checkRegDataWrited regData back = 0 ↔
      [regData 3, regData 4, regData 5, regData 6] = [back 3, back 4, back 5, back 6] := by
  have counts : ∀ b3 b4 b5 b6 : Bool,
      (if [b3, b4, b5, b6].foldl (fun (err : UInt8) same => if same then err + 0 else err + 1) 0 > 0
        then (1 : UInt8) else 0) = 0 ↔ b3 ∧ b4 ∧ b5 ∧ b6 := by decide
  have tested := counts (regData 3 = back 3) (regData 4 = back 4) (regData 5 = back 5)
    (regData 6 = back 6)
  simp only [List.foldl_cons, List.foldl_nil, decide_eq_true_eq] at tested
  simp only [checkRegDataWrited, List.foldl_cons, List.foldl_nil, List.cons.injEq, and_true]
  exact tested

theorem writeV9261fReg_eq_zero_iff (task : MeterTask) (addr : UInt16) (data : UInt32) :
    ((writeV9261fReg addr data).run task).1 = 0 ↔
      ((Buffer.toList ((task.arrivals 0 ++ task.arrivals 1).foldl uart1IrqHandler
        task.uart).readRegBackBuf 8).drop 3).take 4 = littleEndian data := by
  rw [List.foldl_append]
  refine (checkRegDataWrited_eq_zero_iff _ _).trans ?_
  exact eq_comm

theorem noStaleData_iff (task : MeterTask) (request : RegisterRequest)
    (reached : ∃ parser, Refines task.uart parser) :
    NoStaleData task request ↔ AnswersRequest task request := by
  obtain ⟨parser, refines⟩ := reached
  cases request with
  | pause => exact Iff.rfl
  | read addr => exact fresh_iff refines addr
  | write addr data =>
      have middle := refines.foldl (task.arrivals 0)
      have fresh : Fresh addr ((sendWriteRequest addr data).run task).2 ↔
          Answered ((task.arrivals 0).foldl uart1IrqHandler task.uart) (task.arrivals 1) :=
        @fresh_iff ((sendWriteRequest addr data).run task).2 _ middle addr
      simp only [NoStaleData, AnswersRequest, fresh, writeV9261fReg_eq_zero_iff,
        holdsAfter_iff refines, exists_eq_left]
      constructor
      · intro success
        by_cases verdict : ((Buffer.toList ((task.arrivals 0 ++ task.arrivals 1).foldl uart1IrqHandler
            task.uart).readRegBackBuf 8).drop 3).take 4 = littleEndian data
        · exact .inl (success verdict)
        · exact .inr verdict
      · rintro (answered | failed) verdict
        · exact answered
        · exact absurd verdict failed

theorem serve_refines (task : MeterTask) (request : RegisterRequest)
    (reached : ∃ parser, Refines task.uart parser) :
    ∃ parser, Refines (task.serve request).uart parser := by
  obtain ⟨parser, refines⟩ := reached
  cases request with
  | pause => exact ⟨_, refines.foldl (task.arrivals 0)⟩
  | read addr => exact ⟨_, refines.foldl (task.arrivals 0)⟩
  | write addr data => exact ⟨_, (refines.foldl (task.arrivals 0)).foldl (task.arrivals 1)⟩

/-- No request of a run works with old data, exactly when each has its answer: the last answer
found in its delay is a one-register response that came in there, or a write notices that what
the buffer holds is not what it wrote. -/
theorem run_noStaleData_iff (task : MeterTask) (recv : TlsUartCircBuf) (back : Nat → UInt8)
    (requests : List RegisterRequest) :
    Along MeterTask.serve NoStaleData (task.started recv back) requests ↔
      Along MeterTask.serve AnswersRequest (task.started recv back) requests :=
  along_iff_along_of_invariant noStaleData_iff
    (fun task request reached _ => serve_refines task request reached) ⟨_, refines_idle rfl⟩ requests

theorem silence_not_noStaleData :
    ¬Along MeterTask.serve NoStaleData (blankTask.started blankRing fun _ => 0) [.read aartu] := by
  rintro ⟨fresh, _⟩
  have answered : Answered (uart1Init blankRing fun _ => 0) [] :=
    (noStaleData_iff _ _ ⟨_, refines_idle rfl⟩).mp fresh
  obtain ⟨response, last, _⟩ := answered
  exact last

end SmartMeter
