import SmartMeter.Kernel.TaskDelays

/-!
Ticks that come while the scheduler is stopped are made up for when it goes on, so none is lost.
-/

namespace SmartMeter

open Runs

variable {T E : Type}

def KernelEvent.isSysTick : KernelEvent T E → Bool
  | .sysTick => true
  | _ => false

namespace Kernel

variable {kernel moved after : Kernel T E} {idle : T}

structure SameClock (kernel after : Kernel T E) : Prop where
  tick : after.xTickCount = kernel.xTickCount
  overflows : after.xNumOfOverflows = kernel.xNumOfOverflows
  missed : after.uxMissedTicks = kernel.uxMissedTicks
  suspended : after.uxSchedulerSuspended = kernel.uxSchedulerSuspended

theorem SameClock.trans (first : SameClock kernel moved) (second : SameClock moved after) :
    SameClock kernel after :=
  ⟨second.tick.trans first.tick, second.overflows.trans first.overflows,
    second.missed.trans first.missed, second.suspended.trans first.suspended⟩

theorem sameClock_refl (kernel : Kernel T E) : SameClock kernel kernel := ⟨rfl, rfl, rfl, rfl⟩

theorem SameClock.yieldIf (same : SameClock kernel after) (yields : Prop) [Decidable yields] :
    SameClock kernel (if yields then after.portYield else after) := by
  split
  · exact { same with }
  · exact same

variable [DecidableEq T] [DecidableEq E]

theorem sameClock_leaveEventList (kernel : Kernel T E) (task : T) :
    SameClock kernel (kernel.leaveEventList task) := by
  rw [leaveEventList]
  split <;> exact ⟨rfl, rfl, rfl, rfl⟩

theorem sameClock_unblock (kernel : Kernel T E) (task : T) :
    SameClock kernel (kernel.unblock task) :=
  { sameClock_leaveEventList (kernel.vListRemove (.xGenericListItem task)) task with }

theorem sameClock_delayCurrent (kernel : Kernel T E) (ticks : UInt32) :
    SameClock kernel (kernel.delayCurrent ticks) := by
  rw [delayCurrent, prvAddCurrentTaskToDelayedList]
  split <;> exact ⟨rfl, rfl, rfl, rfl⟩

theorem sameClock_readyOrPending (kernel : Kernel T E) (task : T) :
    SameClock kernel (kernel.readyOrPending task) := by
  rw [readyOrPending]
  split <;> exact ⟨rfl, rfl, rfl, rfl⟩

theorem sameClock_create (kernel : Kernel T E) (task : T) (priority : Nat) :
    SameClock kernel (kernel.xTaskGenericCreate task priority) := by
  rw [xTaskGenericCreate]
  split <;> exact ⟨rfl, rfl, rfl, rfl⟩

theorem sameClock_prioritySet (kernel : Kernel T E) (task : T) (priority : Nat) :
    SameClock kernel (kernel.vTaskPrioritySet task priority) := by
  have moved (priority current : Nat) :
      SameClock kernel ((kernel.setPriority task priority).relistReady task current) := by
    rw [relistReady]
    split <;> exact ⟨rfl, rfl, rfl, rfl⟩
  rw [vTaskPrioritySet]
  split
  · exact (moved _ _).yieldIf _
  · exact sameClock_refl kernel

theorem sameClock_delete (kernel : Kernel T E) (task : T) :
    SameClock kernel (kernel.vTaskDelete task) := by
  have left := sameClock_leaveEventList (kernel.vListRemove (.xGenericListItem task)) task
  rw [vTaskDelete]
  split
  · exact { left with }
  · exact { left with }

theorem sameClock_suspend (kernel : Kernel T E) (task : T) :
    SameClock kernel (kernel.vTaskSuspend task) := by
  have left := sameClock_leaveEventList (kernel.vListRemove (.xGenericListItem task)) task
  rw [vTaskSuspend]
  split
  · exact { left with }
  · exact { left with }

theorem sameClock_placeOnEventList (kernel : Kernel T E) (event : E) (ticks : UInt32) :
    SameClock kernel (kernel.vTaskPlaceOnEventList event ticks) := by
  rw [vTaskPlaceOnEventList]
  split
  · exact ⟨rfl, rfl, rfl, rfl⟩
  · exact { sameClock_delayCurrent (kernel.vListInsert (.pxEventList event)
      (.xEventListItem kernel.pxCurrentTCB)) ticks with }

theorem sameClock_removeFromEventList (kernel : Kernel T E) (event : E) (caller : Unblocker) :
    SameClock kernel (unblockedBy caller (kernel.xTaskRemoveFromEventList event)) := by
  have removed : SameClock kernel (kernel.xTaskRemoveFromEventList event).2 := by
    rw [xTaskRemoveFromEventList]
    split
    next => exact sameClock_refl kernel
    next head rest held =>
      exact { sameClock_readyOrPending (kernel.vListRemove (.xEventListItem head.pvOwner))
        head.pvOwner with }
  unfold unblockedBy
  split
  next =>
    cases caller with
    | task => exact { removed with }
    | unlockQueue => exact { removed with }
    | isr isrcount => exact removed.yieldIf _
  next => exact removed

theorem sameClock_reap (kernel : Kernel T E) : SameClock kernel kernel.reapTerminated := by
  obtain same | ⟨head, rest, held, same⟩ := kernel.reapTerminated_cases
  · rw [same]
    exact sameClock_refl kernel
  · rw [same]
    exact ⟨rfl, rfl, rfl, rfl⟩

theorem sameClock_resume (kernel : Kernel T E) (task : T) :
    SameClock kernel (kernel.vTaskResume task) := by
  rw [vTaskResume]
  split
  · dsimp only
    split <;> exact ⟨rfl, rfl, rfl, rfl⟩
  · exact sameClock_refl kernel

theorem sameClock_resumeFromISR (kernel : Kernel T E) (task : T) :
    SameClock kernel (kernel.xTaskResumeFromISR task).2 := by
  rw [xTaskResumeFromISR]
  split
  · split <;> exact ⟨rfl, rfl, rfl, rfl⟩
  · exact sameClock_refl kernel

theorem sameClock_pendSV (kernel : Kernel T E) :
    SameClock kernel (kernel.pendSVHandler.getD kernel) := by
  rw [pendSVHandler, vTaskSwitchContext]
  split
  · exact ⟨rfl, rfl, rfl, rfl⟩
  · cases topReady { kernel with pendSV := false } kernel.uxTopReadyPriority <;>
      exact ⟨rfl, rfl, rfl, rfl⟩

theorem sameClock_movePendingLoop (kernel : Kernel T E) (turns : Nat) (yields : Bool) :
    SameClock kernel (kernel.movePendingLoop turns yields).2 := by
  induction turns generalizing kernel yields with
  | zero => exact sameClock_refl kernel
  | succ turns ih =>
      rw [movePendingLoop]
      split
      next => exact sameClock_refl kernel
      next head rest held =>
        have moved : SameClock kernel (kernel.moveReadied head.pvOwner) := ⟨rfl, rfl, rfl, rfl⟩
        exact moved.trans (ih _ _)

theorem sameClock_checkDelayedLoop (kernel : Kernel T E) (turns : Nat) :
    SameClock kernel (kernel.checkDelayedLoop turns) := by
  induction turns generalizing kernel with
  | zero => exact sameClock_refl kernel
  | succ turns ih =>
      rw [checkDelayedLoop]
      split
      next => exact ⟨rfl, rfl, rfl, rfl⟩
      next head rest held =>
        dsimp only
        split
        next => exact ⟨rfl, rfl, rfl, rfl⟩
        next => exact (sameClock_unblock kernel head.pvOwner).trans (ih _)

/-- A tick that is processed is not counted as missed. -/
theorem vTaskIncrementTick_missed (going : kernel.uxSchedulerSuspended = 0) :
    kernel.vTaskIncrementTick.uxMissedTicks = kernel.uxMissedTicks ∧
      kernel.vTaskIncrementTick.uxSchedulerSuspended = 0 := by
  have ticked : kernel.ticked.uxMissedTicks = kernel.uxMissedTicks ∧
      kernel.ticked.uxSchedulerSuspended = kernel.uxSchedulerSuspended := by
    rw [Kernel.ticked]
    split <;> exact ⟨rfl, rfl⟩
  have result : kernel.vTaskIncrementTick = kernel.ticked.prvCheckDelayedTasks := if_pos going
  rw [result, prvCheckDelayedTasks]
  split
  · have same := sameClock_checkDelayedLoop kernel.ticked
      ((kernel.ticked.items kernel.ticked.pxDelayedTaskList).length + 1)
    exact ⟨same.missed.trans ticked.1, (same.suspended.trans ticked.2).trans going⟩
  · exact ⟨ticked.1, ticked.2.trans going⟩

theorem replayLoop_missed (going : kernel.uxSchedulerSuspended = 0) {uxMissedTicks : Nat}
    (count : kernel.uxMissedTicks.toNat = uxMissedTicks) :
    (kernel.replayLoop uxMissedTicks).uxMissedTicks = 0 ∧
      (kernel.replayLoop uxMissedTicks).uxSchedulerSuspended = 0 := by
  induction uxMissedTicks generalizing kernel with
  | zero => exact ⟨UInt32.toNat_inj.mp count, going⟩
  | succ uxMissedTicks ih =>
      obtain ⟨missed, still⟩ := vTaskIncrementTick_missed going
      refine ih still ?_
      have bound := kernel.uxMissedTicks.toNat_lt
      change (kernel.vTaskIncrementTick.uxMissedTicks - 1).toNat = _
      rw [missed, UInt32.toNat_sub_of_le, count, UInt32.toNat_one]
      · omega
      · rw [UInt32.le_iff_toNat_le, UInt32.toNat_one]
        omega

/-- The ticks that came: those that were processed and those that are yet to be. None of these is
left while the scheduler goes. -/
structure Accounted (kernel : Kernel T E) (ticks : Nat) : Prop where
  total : kernel.now + kernel.uxMissedTicks.toNat = ticks
  settled : kernel.uxSchedulerSuspended = 0 → kernel.uxMissedTicks = 0

variable {ticks : Nat}

omit [DecidableEq T] [DecidableEq E] in
theorem Accounted.same (accounted : Accounted kernel ticks) (same : SameClock kernel after) :
    Accounted after ticks := by
  refine ⟨?_, fun going => ?_⟩
  · rw [now, same.tick, same.overflows, same.missed]
    exact accounted.total
  · rw [same.missed]
    exact accounted.settled (same.suspended.symm.trans going)

theorem Steady.accounted_sysTick (steady : Steady idle kernel) (accounted : Accounted kernel ticks)
    (room : kernel.uxMissedTicks + 1 ≠ 0) : Accounted kernel.sysTickHandler (ticks + 1) := by
  by_cases going : kernel.uxSchedulerSuspended = 0
  · have keeps : Kept idle kernel.portYield := { steady.toKept with }
    have tick := keeps.tick_spec { steady.timed with } going
    have yielding : kernel.portYield.uxSchedulerSuspended = 0 := going
    have missed : kernel.sysTickHandler.uxMissedTicks = kernel.uxMissedTicks :=
      (vTaskIncrementTick_missed yielding).1
    refine ⟨?_, fun _ => missed.trans (accounted.settled going)⟩
    have now : kernel.sysTickHandler.now = kernel.now + 1 := tick.now
    rw [missed, now, ← accounted.total]
    omega
  · have stopped : kernel.sysTickHandler =
        { kernel.portYield with uxMissedTicks := kernel.uxMissedTicks + 1 } :=
      if_neg going
    rw [stopped]
    refine ⟨?_, fun now => absurd now going⟩
    rw [← accounted.total]
    rcases toNat_add_one kernel.uxMissedTicks with ⟨zero, -⟩ | ⟨-, next⟩
    · exact absurd zero room
    · change kernel.now + (kernel.uxMissedTicks + 1).toNat = _
      omega

/-- The ticks that were missed are made up for. -/
theorem Placed.accounted_resumed (placed : Placed idle kernel) (counted : kernel.Counted)
    (timed : kernel.Timed) (going : kernel.uxSchedulerSuspended = 0)
    (total : kernel.now + kernel.uxMissedTicks.toNat = ticks) :
    Accounted kernel.resumed.2 ticks := by
  have same := sameClock_movePendingLoop kernel ((kernel.items .xPendingReadyList).length + 1) false
  obtain ⟨pending, now, suspended⟩ := placed.movePendingLoop_follows counted timed
    ((kernel.items .xPendingReadyList).length + 1) false
  have moved := placed.movePending counted
  have time := (moved.replayLoop_follows pending.timed (suspended.trans going)
    kernel.movePending.2.uxMissedTicks.toNat).2
  have still : kernel.movePending.2.uxSchedulerSuspended = 0 := suspended.trans going
  obtain ⟨none_, -⟩ := replayLoop_missed still rfl
  have missed : kernel.movePending.2.uxMissedTicks = kernel.uxMissedTicks := same.missed
  have whole : Accounted kernel.movePending.2.replayed ticks := by
    refine ⟨?_, fun _ => none_⟩
    have clock : kernel.movePending.2.now = kernel.now := now
    rw [replayed, none_, UInt32.toNat_zero, time, missed, clock, total, Nat.add_zero]
  rw [Kernel.resumed]
  split
  · exact { whole with }
  · exact whole

theorem Steady.accounted_resumeAll (steady : Steady idle kernel)
    (accounted : Accounted kernel ticks) (started : kernel.xSchedulerRunning) :
    Accounted kernel.xTaskResumeAll.2 ticks := by
  have lowered : Placed idle
      { kernel with uxSchedulerSuspended := kernel.uxSchedulerSuspended - 1 } :=
    { steady.toPlaced with }
  have some_ := steady.counted.pos (steady.idle started ▸ Option.some_ne_none _)
  rw [Kernel.xTaskResumeAll]
  split
  next going =>
    exact lowered.accounted_resumed steady.counted { steady.timed with } going.1 accounted.total
  next still => exact ⟨accounted.total, fun going => absurd ⟨going, some_⟩ still⟩

/-- The clock of a kernel that is started stands at 0, as it did. -/
theorem Steady.accounted_start (steady : Steady idle kernel) (accounted : Accounted kernel ticks)
    (stopped : kernel.xSchedulerRunning = false) (timers : T) :
    Accounted (kernel.vTaskStartScheduler idle timers) ticks := by
  have same := (sameClock_create kernel idle tskIdlePriority).trans
    (sameClock_create (kernel.xTaskGenericCreate idle tskIdlePriority) timers
      configTimerTaskPriority)
  obtain ⟨zero, -⟩ := steady.unstarted stopped
  have created := accounted.same same
  refine ⟨?_, created.settled⟩
  have total := created.total
  rwa [now, same.tick, zero] at total

/-- A step in which a tick comes is one tick more. -/
theorem Steady.accounted_step (steady : Steady idle kernel) (accounted : Accounted kernel ticks)
    {next : KernelEvent T E} (allowed : kernel.Allowed idle next)
    (room : next.isSysTick → kernel.uxMissedTicks + 1 ≠ 0) :
    Accounted (kernel.step next) (ticks + if next.isSysTick then 1 else 0) := by
  cases next with
  | sysTick => exact steady.accounted_sysTick accounted (room rfl)
  | xTaskGenericCreate task priority => exact accounted.same (sameClock_create kernel task priority)
  | vTaskStartScheduler first timers =>
      obtain ⟨stopped, rfl, -⟩ := allowed
      exact steady.accounted_start accounted stopped timers
  | pendSV => exact accounted.same (sameClock_pendSV kernel)
  | taskYield => exact { accounted with }
  | vTaskSuspendAll => exact ⟨accounted.total, nofun⟩
  | xTaskResumeAll => exact steady.accounted_resumeAll accounted allowed.1
  | vTaskDelay delay => exact accounted.same (sameClock_delayCurrent kernel delay)
  | vTaskPlaceOnEventList event delay =>
      exact accounted.same (sameClock_placeOnEventList kernel event delay)
  | vTaskPlaceOnEventListRestricted event delay =>
      exact accounted.same { sameClock_delayCurrent (kernel.vListInsertEnd (.pxEventList event)
        (.xEventListItem kernel.pxCurrentTCB)) delay with }
  | xTaskRemoveFromEventList event caller =>
      exact accounted.same (sameClock_removeFromEventList kernel event caller)
  | vTaskDelete task => exact accounted.same (sameClock_delete kernel task)
  | prvCheckTasksWaitingTermination => exact accounted.same (sameClock_reap kernel)
  | vTaskPrioritySet task priority =>
      exact accounted.same (sameClock_prioritySet kernel task priority)
  | vTaskSuspend task => exact accounted.same (sameClock_suspend kernel task)
  | vTaskResume task => exact accounted.same (sameClock_resume kernel task)
  | xTaskResumeFromISR task =>
      exact accounted.same ((sameClock_resumeFromISR kernel task).yieldIf _)

theorem Steady.accounted_run (steady : Steady idle kernel) (accounted : Accounted kernel ticks)
    {events : List (KernelEvent T E)} (allowed : Along Kernel.step (Allowed idle) kernel events)
    (room : Along Kernel.step
      (fun state next => next.isSysTick → state.uxMissedTicks + 1 ≠ 0) kernel
      events) :
    Accounted (events.foldl Kernel.step kernel) (ticks + events.countP KernelEvent.isSysTick) := by
  induction events generalizing kernel ticks with
  | nil => exact accounted
  | cons next rest ih =>
      have first := steady.accounted_step accounted allowed.1 room.1
      have whole := ih (steady.step allowed.1) first allowed.2 room.2
      rw [List.countP_cons, Nat.add_comm (rest.countP _), ← Nat.add_assoc]
      exact whole

/-- From the creation of the first task on no tick is lost: the clock is behind the number of the
ticks that came by those that came while the scheduler was stopped, and right while it goes. -/
theorem ticks_accounted (task : T) (priority : Nat) {events : List (KernelEvent T E)}
    (allowed : Along step (Allowed idle) (firstCreated task priority) events)
    (room : Along step (fun state next => next.isSysTick → state.uxMissedTicks + 1 ≠ 0)
      (firstCreated task priority) events) :
    let last := events.foldl step (firstCreated task priority)
    last.now + last.uxMissedTicks.toNat = events.countP KernelEvent.isSysTick ∧
      (last.uxSchedulerSuspended = 0 → last.uxMissedTicks = 0) := by
  have steady : Steady idle (firstCreated task priority : Kernel T E) :=
    steady_firstCreated idle task priority
  have same := sameClock_create (unstarted task : Kernel T E) task priority
  have start : Accounted (firstCreated task priority : Kernel T E) 0 :=
    .same ⟨by simp [now, unstarted], fun _ => rfl⟩ same
  have whole := steady.accounted_run start allowed room
  rw [Nat.zero_add] at whole
  exact ⟨whole.total, whole.settled⟩

def sampleTicks : List (KernelEvent Nat Unit) :=
  [.vTaskStartScheduler 8 9, .vTaskSuspendAll, .sysTick, .sysTick, .xTaskResumeAll, .sysTick]

theorem ticks_accounted_sample :
    let last := sampleTicks.foldl step (firstCreated 1 2)
    last.now + last.uxMissedTicks.toNat = 3 := by
  have allowed : Along step (Allowed 8) (firstCreated 1 2) sampleTicks :=
    ⟨⟨rfl, rfl, by decide, ⟨rfl, rfl⟩, rfl, rfl⟩, rfl, rfl, rfl, ⟨rfl, by decide⟩, rfl, trivial⟩
  exact (ticks_accounted 1 2 allowed
    ⟨nofun, nofun, by decide, by decide, nofun, by decide, trivial⟩).1

end Kernel

end SmartMeter
