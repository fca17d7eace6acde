import SmartMeter.Kernel.QueueControl

/-! How long a call on a queue waits before it fails. -/

namespace SmartMeter

open Runs

def TimeOut.time (timeOut : TimeOut) : Nat :=
  timeOut.xOverflowCount * 2 ^ 32 + timeOut.xTimeOnEntering.toNat

def QueuePoint.gaveUp : QueuePoint → Bool
  | .unlockTx outcome | .unlockRx outcome | .resumeAll outcome => decide (outcome = .expired)
  | _ => false

namespace Kernel

variable {T E : Type} {kernel : Kernel T E} {timeOut : TimeOut}

/-- The tick count has gone on, or has wrapped since. -/
theorem same_or_wrapped {early late low high : Nat} (small : high < 2 ^ 32)
    (past : early * 2 ^ 32 + low ≤ late * 2 ^ 32 + high) :
    early = late ∧ low ≤ high ∨ early * 2 ^ 32 + 2 ^ 32 ≤ late * 2 ^ 32 := by
  rcases Nat.lt_trichotomy early late with less | same | more
  · right
    rw [← Nat.succ_mul]
    exact Nat.mul_le_mul_right _ less
  · subst same
    exact .inl ⟨rfl, Nat.le_of_add_le_add_left past⟩
  · have ended := Nat.mul_le_mul_right (2 ^ 32) more
    rw [Nat.succ_mul] at ended
    omega

/-- The difference that the code takes is at most the time that has passed. -/
theorem elapsed_le (past : timeOut.time ≤ kernel.now) :
    timeOut.time + (kernel.xTickCount - timeOut.xTimeOnEntering).toNat ≤ kernel.now := by
  have tick := kernel.xTickCount.toNat_lt
  have entering := timeOut.xTimeOnEntering.toNat_lt
  rw [TimeOut.time, Kernel.now] at past ⊢
  rcases same_or_wrapped tick past with ⟨same, below⟩ | wrapped
  · rw [UInt32.toNat_sub_of_le _ _ (UInt32.le_iff_toNat_le.mpr below), same]
    generalize kernel.xNumOfOverflows * 2 ^ 32 = late
    omega
  · have difference : (kernel.xTickCount - timeOut.xTimeOnEntering).toNat ≤
        2 ^ 32 - timeOut.xTimeOnEntering.toNat + kernel.xTickCount.toNat :=
      UInt32.toNat_sub .. ▸ Nat.mod_le ..
    calc timeOut.xOverflowCount * 2 ^ 32 + timeOut.xTimeOnEntering.toNat +
          (kernel.xTickCount - timeOut.xTimeOnEntering).toNat
      _ ≤ timeOut.xOverflowCount * 2 ^ 32 + timeOut.xTimeOnEntering.toNat +
          (2 ^ 32 - timeOut.xTimeOnEntering.toNat + kernel.xTickCount.toNat) :=
            Nat.add_le_add_left difference _
      _ = timeOut.xOverflowCount * 2 ^ 32 + 2 ^ 32 + kernel.xTickCount.toNat := by omega
      _ ≤ kernel.xNumOfOverflows * 2 ^ 32 + kernel.xTickCount.toNat :=
            Nat.add_le_add_right wrapped _

/-- Where nothing is counted down a task gives up only after its time, and never when it waits
without a limit. -/
theorem check_counts (past : timeOut.time ≤ kernel.now) (ticks : UInt32) :
    let result := kernel.xTaskCheckForTimeOut timeOut ticks
    result.2 = (timeOut, ticks) ∧
        (result.1 = true → ticks ≠ portMaxDelay ∧ timeOut.time + ticks.toNat ≤ kernel.now) ∨
      result.1 = false ∧ ticks ≠ portMaxDelay ∧ result.2.1.time = kernel.now ∧ result.2.2 ≠ 0 ∧
        result.2.2 ≠ portMaxDelay ∧
        timeOut.time + ticks.toNat ≤ kernel.now + result.2.2.toNat := by
  have elapsed := elapsed_le past
  have small := ticks.toNat_lt
  dsimp only
  rw [xTaskCheckForTimeOut]
  split
  next => exact .inl ⟨rfl, by simp⟩
  next limited =>
    split
    next wrapped =>
      refine .inl ⟨rfl, fun _ => ⟨limited, ?_⟩⟩
      have above := UInt32.le_iff_toNat_le.mp wrapped.2
      have tick := kernel.xTickCount.toNat_lt
      rw [TimeOut.time, Kernel.now] at past ⊢
      rcases same_or_wrapped tick past with ⟨same, -⟩ | ended
      · exact absurd same.symm wrapped.1
      · refine (Nat.add_le_add (Nat.add_le_add_left above _) small.le).trans ?_
        rw [Nat.add_right_comm]
        exact Nat.add_le_add_right ended _
    next =>
      split
      next short =>
        have less := UInt32.lt_iff_toNat_lt.mp short
        have rest := UInt32.toNat_sub_of_le _ _ (UInt32.le_iff_toNat_le.mpr less.le)
        have highest : portMaxDelay.toNat = 2 ^ 32 - 1 := rfl
        have below : ticks.toNat ≠ portMaxDelay.toNat :=
          fun same => limited (UInt32.toNat_inj.mp same)
        refine .inr ⟨rfl, limited, rfl, fun none_ => ?_, fun most => ?_, ?_⟩
        · have zero : (0 : UInt32).toNat = 0 := rfl
          dsimp only at none_
          rw [none_] at rest
          omega
        · dsimp only at most
          rw [most] at rest
          omega
        · dsimp only
          omega
      next ended =>
        have long := UInt32.le_iff_toNat_le.mp (UInt32.not_lt.mp ended)
        exact .inl ⟨rfl, fun _ => ⟨limited, by omega⟩⟩

end Kernel

variable {T Q : Type} [DecidableEq T] [DecidableEq Q]

namespace QueueSystem

variable {system after : QueueSystem T Q} {idle task : T} {program : QueueProgram Q}
variable {kernel moved : Kernel T (WaitingList Q)}

structure InTime (kernel : Kernel T (WaitingList Q)) (program : QueueProgram Q) : Prop where
  began : program.called ≤ kernel.now
  first : program.xEntryTimeSet = false →
    program.xTicksToWait = program.limit ∧ program.point = .loop
  limited : program.xTicksToWait = portMaxDelay ↔ program.limit = portMaxDelay
  counted : program.xEntryTimeSet = true → program.xTicksToWait ≠ 0 ∧
    program.xTimeOut.time ≤ kernel.now ∧ (program.limit ≠ portMaxDelay →
      program.called + program.limit.toNat ≤
        program.xTimeOut.time + program.xTicksToWait.toNat)
  ended : program.point.gaveUp → program.limit ≠ portMaxDelay ∧
    program.called + program.limit.toNat ≤ kernel.now

omit [DecidableEq T] [DecidableEq Q] in
theorem InTime.later (inTime : InTime kernel program) (later : kernel.now ≤ moved.now) :
    InTime moved program where
  began := inTime.began.trans later
  first := inTime.first
  limited := inTime.limited
  counted set_ :=
    have ⟨some_, past, enough⟩ := inTime.counted set_
    ⟨some_, past.trans later, enough⟩
  ended gaveUp := (inTime.ended gaveUp).imp_right later.trans'

omit [DecidableEq T] [DecidableEq Q] in
theorem InTime.goTo (inTime : InTime kernel program) (inside : program.point ≠ .loop)
    (point : QueuePoint) (gaveUp : point.gaveUp → program.point.gaveUp) :
    InTime kernel { program with point := point } where
  began := inTime.began
  first unset := absurd (inTime.first unset).2 inside
  limited := inTime.limited
  counted := inTime.counted
  ended gone := inTime.ended (gaveUp gone)

structure Waited (system : QueueSystem T Q) : Prop where
  programs : ∀ task program, system.programs task = some program → InTime system.kernel program
  returns : ∀ entry ∈ system.returns, entry.passed = false →
    entry.program.limit ≠ portMaxDelay ∧
      entry.program.called + entry.program.limit.toNat ≤ entry.time

omit [DecidableEq T] [DecidableEq Q] in
theorem Waited.later (waited : Waited system) (programs : after.programs = system.programs)
    (returns : after.returns = system.returns)
    (later : (∃ task program, system.programs task = some program) →
      system.kernel.now ≤ after.kernel.now) : Waited after where
  programs task program there :=
    have before := programs ▸ there
    (waited.programs task program before).later (later ⟨task, program, before⟩)
  returns := returns ▸ waited.returns

omit [DecidableEq Q] in
theorem Waited.goOn (waited : Waited system) (task : T) (next : QueueProgram Q)
    (programs : after.programs = Function.update system.programs task (some next))
    (returns : after.returns = system.returns)
    (later : system.kernel.now ≤ after.kernel.now) (inTime : InTime after.kernel next) :
    Waited after where
  programs other found there := by
    rw [programs] at there
    by_cases same : other = task
    · rw [same, Function.update_self] at there
      exact Option.some.inj there ▸ inTime
    · rw [Function.update_of_ne same] at there
      exact (waited.programs other found there).later later
  returns := returns ▸ waited.returns

omit [DecidableEq Q] in
theorem Waited.finish (waited : Waited system) (task : T) (program : QueueProgram Q) (passed : Bool)
    (programs : after.programs = Function.update system.programs task none)
    (returns : after.returns = ⟨task, program, passed, after.kernel.now⟩ :: system.returns)
    (later : system.kernel.now ≤ after.kernel.now)
    (ended : passed = false → program.limit ≠ portMaxDelay ∧
      program.called + program.limit.toNat ≤ after.kernel.now) : Waited after where
  programs other found there := by
    rw [programs] at there
    by_cases same : other = task
    · rw [same, Function.update_self] at there
      cases there
    · rw [Function.update_of_ne same] at there
      exact (waited.programs other found there).later later
  returns entry member failed := by
    rw [returns] at member
    rcases List.mem_cons.mp member with rfl | member
    · exact ended failed
    · exact waited.returns entry member failed

theorem Waited.loopTop (waited : Waited system)
    (held : system.programs task = some program)
    (later : system.kernel.now ≤ (system.loopTop task program).kernel.now) :
    Waited (system.loopTop task program) := by
  have inTime := waited.programs task program held
  rw [QueueSystem.loopTop] at later ⊢
  split at later
  next passed =>
    rw [if_pos passed]
    exact waited.finish task program true rfl rfl later (by simp)
  next failed =>
    rw [if_neg failed]
    split
    next none_ =>
      refine waited.finish task program false rfl rfl (Nat.le_refl _) fun _ => ?_
      cases set_ : program.xEntryTimeSet with
      | true => exact absurd none_ (inTime.counted set_).1
      | false =>
          rw [← (inTime.first set_).1, none_]
          exact ⟨by decide, inTime.began⟩
    next some_ =>
      refine waited.goOn task _ rfl rfl (Nat.le_refl _) ⟨inTime.began, (by simp), inTime.limited,
        fun _ => ?_, by simp [QueuePoint.gaveUp]⟩
      dsimp only
      cases set_ : program.xEntryTimeSet with
      | true => exact inTime.counted set_
      | false =>
          rw [if_neg Bool.false_ne_true, (inTime.first set_).1]
          exact ⟨(inTime.first set_).1 ▸ some_, Nat.le_refl _,
            fun _ => Nat.add_le_add_right inTime.began _⟩

omit [DecidableEq Q] in
theorem Waited.checkTimeOut (waited : Waited system)
    (held : system.programs task = some program) (point : program.point = .checkForTimeOut) :
    Waited (system.checkTimeOut task program) := by
  have inTime := waited.programs task program held
  have set_ : program.xEntryTimeSet = true := by
    refine (Bool.eq_false_or_eq_true _).resolve_right fun unset => ?_
    cases point.symm.trans (inTime.first unset).2
  have unset {goal : Prop} (false_ : program.xEntryTimeSet = false) : goal :=
    absurd (set_.symm.trans false_) nofun
  obtain ⟨some_, past, enough⟩ := inTime.counted set_
  have counts := Kernel.check_counts past program.xTicksToWait
  rw [QueueSystem.checkTimeOut]
  refine waited.goOn task _ rfl rfl (Nat.le_refl _) ?_
  change InTime system.kernel _
  dsimp only at counts ⊢
  rcases counts with ⟨same, expired⟩ | ⟨left, limited, reset, more, finite, rest⟩
  · rw [same]
    refine ⟨inTime.began, unset, inTime.limited, fun _ => ⟨some_, past, enough⟩, fun gaveUp => ?_⟩
    dsimp only at gaveUp
    split at gaveUp
    next ended =>
      obtain ⟨limited, later⟩ := expired ended
      have bounded : program.limit ≠ portMaxDelay := fun most => limited (inTime.limited.mpr most)
      exact ⟨bounded, (enough bounded).trans later⟩
    next => cases gaveUp
  · rw [left]
    have bounded : program.limit ≠ portMaxDelay := fun most => limited (inTime.limited.mpr most)
    refine ⟨inTime.began, unset, ⟨fun most => absurd most finite, fun most => absurd most bounded⟩,
      fun _ => ⟨more, reset.le, fun _ => (enough bounded).trans ?_⟩, nofun⟩
    dsimp only
    rw [reset]
    exact rest

theorem Waited.taskStep (waited : Waited system)
    (held : system.programs task = some program)
    (later : system.kernel.now ≤ (system.taskStep task program).kernel.now) :
    Waited (system.taskStep task program) := by
  have inTime := waited.programs task program held
  have goes (point : QueuePoint) (inside : program.point ≠ .loop)
      (gaveUp : point.gaveUp → program.point.gaveUp) :=
    (inTime.goTo inside point gaveUp).later later
  cases point : program.point with
  | loop =>
      rw [QueueSystem.taskStep, point] at later ⊢
      exact waited.loopTop held later
  | checkForTimeOut =>
      rw [QueueSystem.taskStep, point]
      exact waited.checkTimeOut held point
  | suspendAll =>
      have there := goes .lockQueue (by simp [point]) (by simp [QueuePoint.gaveUp])
      rw [QueueSystem.taskStep, point] at later there ⊢
      exact waited.goOn task _ rfl rfl later there
  | lockQueue =>
      have there := goes .checkForTimeOut (by simp [point]) (by simp [QueuePoint.gaveUp])
      rw [QueueSystem.taskStep, point] at later there ⊢
      exact waited.goOn task _ rfl rfl later there
  | checkQueue =>
      have there := goes (if program.operation.hasToWait (system.queues program.pxQueue) then
        .placeOnEventList else .unlockTx .again)
        (by simp [point]) (by split <;> simp [QueuePoint.gaveUp])
      rw [QueueSystem.taskStep, point] at later there ⊢
      exact waited.goOn task _ rfl rfl later there
  | placeOnEventList =>
      have there := goes (.unlockTx .blocked) (by simp [point]) (by simp [QueuePoint.gaveUp])
      rw [QueueSystem.taskStep, point] at later there ⊢
      exact waited.goOn task _ rfl rfl later there
  | unlockTx outcome =>
      have there := goes (.unlockRx outcome) (by simp [point]) (point ▸ id)
      rw [QueueSystem.taskStep, point] at later there ⊢
      exact waited.goOn task _ rfl rfl later there
  | unlockRx outcome =>
      have there := goes (.resumeAll outcome) (by simp [point]) (point ▸ id)
      rw [QueueSystem.taskStep, point] at later there ⊢
      exact waited.goOn task _ rfl rfl later there
  | resumeAll outcome =>
      have there := goes .loop (by simp [point]) (by simp [QueuePoint.gaveUp])
      rw [QueueSystem.taskStep, point] at later there ⊢
      cases outcome with
      | blocked => exact waited.goOn task _ rfl rfl later there
      | again => exact waited.goOn task _ rfl rfl later there
      | expired =>
          refine waited.finish task program false rfl rfl later fun _ => ?_
          exact (inTime.ended (point ▸ rfl)).imp_right later.trans'

theorem Waited.step (waited : Waited system) (controlled : Controlled idle system)
    {event : QueueEvent T Q} (allowed : system.Allowed idle event) :
    Waited (system.step event) := by
  have leads := (controlled.step allowed).2
  have later (running : system.kernel.xSchedulerRunning) :
      system.kernel.now ≤ (system.step event).kernel.now :=
    (controlled.steady.later running leads).2
  have lasts (some_ : ∃ task program, system.programs task = some program) :
      system.kernel.now ≤ (system.step event).kernel.now := by
    obtain ⟨task, program, held⟩ := some_
    exact later (controlled.running task program held)
  cases event with
  | call pxQueue operation ticks =>
      exact waited.goOn system.kernel.pxCurrentTCB _ rfl rfl (Nat.le_refl _)
        ⟨Nat.le_refl _, fun _ => ⟨rfl, rfl⟩, Iff.rfl, nofun, nofun⟩
  | proceed =>
      have goes := later allowed.1
      rw [QueueSystem.step] at goes ⊢
      split at goes
      next none_ => exact waited
      next program held => exact waited.taskStep held goes
  | sendFromISR pxQueue item position isrcount =>
      refine waited.later ?_ ?_ lasts
      all_goals
        rw [QueueSystem.step, xQueueGenericSendFromISR]
        repeat' split
        all_goals rfl
  | receiveFromISR pxQueue isrcount =>
      refine waited.later ?_ ?_ lasts
      all_goals
        rw [QueueSystem.step, xQueueReceiveFromISR]
        repeat' split
        all_goals rfl
  | other event => exact waited.later rfl rfl lasts

/-! Runs. -/

theorem Reached.waited (reached : Reached idle system) : Waited system := by
  obtain ⟨task, priority, queues, events, fresh, allowed, rfl⟩ := reached
  have run {system : QueueSystem T Q} {events : List (QueueEvent T Q)}
      (controlled : Controlled idle system) (waited : Waited system)
      (allowed : Along QueueSystem.step (Allowed idle) system events) :
      Waited (events.foldl QueueSystem.step system) := by
    induction events generalizing system with
    | nil => exact waited
    | cons next rest ih =>
        exact ih (controlled.step allowed.1).1 (waited.step controlled allowed.1) allowed.2
  exact run (controlled_created idle task priority fresh) ⟨nofun, nofun⟩ allowed

/-- In every interleaving a call that fails has waited for as many ticks as its limit, and a call
without a limit does not fail. -/
theorem fails_after_limit (reached : Reached idle system) {entry : QueueReturn T Q}
    (returned : entry ∈ system.returns) (failed : entry.passed = false) :
    entry.program.limit ≠ portMaxDelay ∧
      entry.program.called + entry.program.limit.toNat ≤ entry.time :=
  reached.waited.returns entry returned failed

def unansweredCall : List (QueueEvent Nat Unit) :=
  .other (.vTaskStartScheduler 8 9) :: .call () .receive 2 :: (List.replicate 9 .proceed ++
    ([.other .pendSV, .other .sysTick, .other .pendSV, .other .sysTick, .other .pendSV] ++
      List.replicate 7 .proceed))

def unansweredSample : QueueSystem Nat Unit :=
  unansweredCall.foldl QueueSystem.step (created 1 2 fun _ => .xQueueCreateExt (fun _ => 0) 4 2 1)

theorem fails_after_limit_unansweredSample :
    ∃ entry ∈ unansweredSample.returns,
      entry.program.called + entry.program.limit.toNat ≤ entry.time := by
  have allowed : Along QueueSystem.step (Allowed 8)
      (created 1 2 fun _ => .xQueueCreateExt (fun _ => 0) 4 2 1) unansweredCall := by
    decide +kernel
  have reached : Reached 8 unansweredSample :=
    ⟨1, 2, _, unansweredCall, fun _ => ⟨_, _, _, _, by decide, by decide, rfl⟩, allowed, rfl⟩
  have last : unansweredSample.returns.head?.map QueueReturn.passed = some false := by
    decide +kernel
  obtain ⟨entry, first, failed⟩ := Option.map_eq_some_iff.mp last
  have member := List.mem_of_mem_head? first
  exact ⟨entry, member, (fails_after_limit reached member failed).2⟩

end QueueSystem

end SmartMeter
