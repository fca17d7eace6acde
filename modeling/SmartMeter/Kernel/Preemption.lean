import SmartMeter.Kernel.TaskDelays

/-! A task that is made ready over the running one gets the processor as soon as it may have it. -/

namespace SmartMeter

open Runs

variable {T E : Type}

namespace Kernel

variable {kernel moved after : Kernel T E} {idle task : T}
variable {generic event : Option (TaskList E)} {wake : UInt32}

def Topmost (kernel : Kernel T E) : Prop :=
  ∀ task, kernel.Ready task → kernel.uxPriority task ≤ kernel.uxPriority kernel.pxCurrentTCB

structure Preempts (kernel : Kernel T E) : Prop where
  top : kernel.pendSV = true ∨ kernel.xMissedYield = true ∨ kernel.Topmost
  missed : kernel.uxSchedulerSuspended = 0 → kernel.xMissedYield = false
  chosen : kernel.xSchedulerRunning = false → kernel.Ready kernel.pxCurrentTCB

/-- Nothing is noted about a switch of tasks, nor is the running one another. -/
structure Quiet (kernel after : Kernel T E) : Prop where
  pend : after.pendSV = kernel.pendSV
  missed : after.xMissedYield = kernel.xMissedYield
  suspended : after.uxSchedulerSuspended = kernel.uxSchedulerSuspended
  running : after.xSchedulerRunning = kernel.xSchedulerRunning
  current : after.pxCurrentTCB = kernel.pxCurrentTCB
  priorities : after.uxPriority = kernel.uxPriority

theorem Quiet.trans (first : Quiet kernel moved) (second : Quiet moved after) :
    Quiet kernel after :=
  ⟨second.pend.trans first.pend, second.missed.trans first.missed,
    second.suspended.trans first.suspended, second.running.trans first.running,
    second.current.trans first.current, second.priorities.trans first.priorities⟩

theorem quiet_refl (kernel : Kernel T E) : Quiet kernel kernel := ⟨rfl, rfl, rfl, rfl, rfl, rfl⟩

theorem Topmost.move [DecidableEq T] (top : kernel.Topmost)
    (there : MovedTo task kernel moved generic event wake)
    (quiet : Quiet kernel moved)
    (low : moved.Ready task → kernel.uxPriority task ≤ kernel.uxPriority kernel.pxCurrentTCB) :
    moved.Topmost := by
  intro other ready
  rw [quiet.current, quiet.priorities]
  by_cases same : other = task
  · subst same
    exact low ready
  · obtain ⟨priority, place⟩ := ready
    rw [there.others (.xGenericListItem other) same] at place
    exact top other ⟨priority, place⟩

theorem Preempts.settle (preempts : Preempts kernel) (started : kernel.xSchedulerRunning)
    {uxPriority : T → Nat} (quiet : Quiet { kernel with uxPriority := uxPriority } moved)
    (top : kernel.Topmost → moved.Topmost) : Preempts moved where
  top := by
    rw [quiet.pend, quiet.missed]
    exact preempts.top.imp_right (Or.imp_right top)
  missed going := quiet.missed.trans (preempts.missed (quiet.suspended.symm.trans going))
  chosen stopped := nomatch started.symm.trans (quiet.running.symm.trans stopped)

theorem Preempts.yielding (preempts : Preempts kernel) (started : kernel.xSchedulerRunning)
    {uxPriority : T → Nat} (quiet : Quiet { kernel with uxPriority := uxPriority } moved) :
    Preempts moved.portYield where
  top := .inl rfl
  missed going := quiet.missed.trans (preempts.missed (quiet.suspended.symm.trans going))
  chosen stopped := nomatch started.symm.trans (quiet.running.symm.trans stopped)

/-- A switch is asked for where it is needed. -/
theorem Preempts.settleYield (preempts : Preempts kernel) (started : kernel.xSchedulerRunning)
    {uxPriority : T → Nat} (quiet : Quiet { kernel with uxPriority := uxPriority } moved)
    (yields : Prop) [Decidable yields] (top : ¬yields → kernel.Topmost → moved.Topmost) :
    Preempts (if yields then moved.portYield else moved) := by
  split
  next => exact preempts.yielding started quiet
  next still => exact preempts.settle started quiet (top still)

theorem Preempts.move [DecidableEq T] (preempts : Preempts kernel)
    (started : kernel.xSchedulerRunning)
    (there : MovedTo task kernel moved generic event wake) (quiet : Quiet kernel moved)
    (low : kernel.Topmost → moved.Ready task →
      kernel.uxPriority task ≤ kernel.uxPriority kernel.pxCurrentTCB) : Preempts moved :=
  preempts.settle started quiet fun top => top.move there quiet (low top)

theorem Preempts.moveYield [DecidableEq T] (preempts : Preempts kernel)
    (started : kernel.xSchedulerRunning)
    (there : MovedTo task kernel moved generic event wake) (quiet : Quiet kernel moved)
    (yields : Prop) [Decidable yields]
    (low : ¬yields → moved.Ready task →
      kernel.uxPriority task ≤ kernel.uxPriority kernel.pxCurrentTCB) :
    Preempts (if yields then moved.portYield else moved) :=
  preempts.settleYield started quiet yields fun still top => top.move there quiet (low still)

variable [DecidableEq T] [DecidableEq E]

theorem quiet_leaveEventList (kernel : Kernel T E) (task : T) :
    Quiet kernel (kernel.leaveEventList task) := by
  rw [leaveEventList]
  split <;> exact ⟨rfl, rfl, rfl, rfl, rfl, rfl⟩

theorem quiet_unblock (kernel : Kernel T E) (task : T) : Quiet kernel (kernel.unblock task) :=
  { quiet_leaveEventList (kernel.vListRemove (.xGenericListItem task)) task with }

theorem quiet_delayCurrent (kernel : Kernel T E) (ticks : UInt32) :
    Quiet kernel (kernel.delayCurrent ticks) := by
  rw [delayCurrent, prvAddCurrentTaskToDelayedList]
  split <;> exact ⟨rfl, rfl, rfl, rfl, rfl, rfl⟩

theorem quiet_readyOrPending (kernel : Kernel T E) (task : T) :
    Quiet kernel (kernel.readyOrPending task) := by
  rw [readyOrPending]
  split <;> exact ⟨rfl, rfl, rfl, rfl, rfl, rfl⟩

theorem quiet_checkDelayedLoop (kernel : Kernel T E) (turns : Nat) :
    Quiet kernel (kernel.checkDelayedLoop turns) := by
  induction turns generalizing kernel with
  | zero => exact quiet_refl kernel
  | succ turns ih =>
      rw [checkDelayedLoop]
      split
      next => exact ⟨rfl, rfl, rfl, rfl, rfl, rfl⟩
      next head rest held =>
        dsimp only
        split
        next => exact ⟨rfl, rfl, rfl, rfl, rfl, rfl⟩
        next => exact (quiet_unblock kernel head.pvOwner).trans (ih _)

theorem quiet_tick (kernel : Kernel T E) : Quiet kernel kernel.vTaskIncrementTick := by
  rw [vTaskIncrementTick]
  split
  next =>
    have ticked : Quiet kernel kernel.ticked := by
      rw [Kernel.ticked]
      split <;> exact ⟨rfl, rfl, rfl, rfl, rfl, rfl⟩
    refine ticked.trans ?_
    change Quiet kernel.ticked kernel.ticked.prvCheckDelayedTasks
    rw [prvCheckDelayedTasks]
    split
    · exact quiet_checkDelayedLoop ..
    · exact quiet_refl _
  next => exact ⟨rfl, rfl, rfl, rfl, rfl, rfl⟩

theorem quiet_replayLoop (kernel : Kernel T E) (uxMissedTicks : Nat) :
    Quiet kernel (kernel.replayLoop uxMissedTicks) := by
  induction uxMissedTicks generalizing kernel with
  | zero => exact quiet_refl kernel
  | succ uxMissedTicks ih =>
      have first : Quiet kernel { kernel.vTaskIncrementTick with
          uxMissedTicks := kernel.vTaskIncrementTick.uxMissedTicks - 1 } :=
        { quiet_tick kernel with }
      exact first.trans (ih _)

/-! The steps. -/

theorem Preempts.sysTick (preempts : Preempts kernel) (started : kernel.xSchedulerRunning) :
    Preempts kernel.sysTickHandler := by
  have quiet := quiet_tick kernel.portYield
  refine ⟨.inl quiet.pend, fun going => ?_, fun stopped => ?_⟩
  · exact quiet.missed.trans (preempts.missed (quiet.suspended.symm.trans going))
  · exact nomatch started.symm.trans (quiet.running.symm.trans stopped)

theorem Preempts.pendSV (preempts : Preempts kernel) (kept : Kept idle kernel)
    (started : kernel.xSchedulerRunning) : Preempts (kernel.pendSVHandler.getD kernel) := by
  have cleared : Kept idle { kernel with pendSV := false } := { kept with }
  by_cases going : kernel.uxSchedulerSuspended = 0
  · obtain ⟨next, found, -, top⟩ := cleared.vTaskSwitchContext started going
    have shape := found
    rw [Kernel.vTaskSwitchContext, if_neg (not_not.mpr going), Option.map_eq_some_iff] at shape
    obtain ⟨priority, -, rfl⟩ := shape
    have result : kernel.pendSVHandler.getD kernel =
        Kernel.switchedTo priority { kernel with pendSV := false } := by
      rw [Kernel.pendSVHandler, found, Option.getD_some]
    rw [result]
    exact ⟨.inr (.inr top), preempts.missed,
      fun stopped => absurd (started.symm.trans stopped) (by simp)⟩
  · have result : kernel.pendSVHandler.getD kernel =
        { kernel with pendSV := false, xMissedYield := true } := by
      rw [Kernel.pendSVHandler, Kernel.vTaskSwitchContext, if_pos going, Option.getD_some]
    rw [result]
    exact ⟨.inr (.inl rfl), fun now => absurd now going,
      fun stopped => absurd (started.symm.trans stopped) (by simp)⟩

theorem Preempts.vTaskDelete (preempts : Preempts kernel) (placed : Placed idle kernel)
    (started : kernel.xSchedulerRunning) (task : T) : Preempts (kernel.vTaskDelete task) := by
  have there := (MovedTo.stay placed.sound task).removeGeneric.leaveEventList.insertEndGeneric
    .xTasksWaitingTermination nofun
  have left := quiet_leaveEventList (kernel.vListRemove (.xGenericListItem task)) task
  rw [Kernel.vTaskDelete]
  split
  next => exact preempts.yielding started { left with }
  next =>
    refine preempts.move started { there with } { left with } fun _ ready => ?_
    obtain ⟨priority, place⟩ := ready
    cases there.generic.symm.trans place

theorem Preempts.vTaskSuspend (preempts : Preempts kernel) (placed : Placed idle kernel)
    (started : kernel.xSchedulerRunning) (task : T) : Preempts (kernel.vTaskSuspend task) := by
  have there := (MovedTo.stay placed.sound task).removeGeneric.leaveEventList.insertEndGeneric
    .xSuspendedTaskList nofun
  have left := quiet_leaveEventList (kernel.vListRemove (.xGenericListItem task)) task
  refine preempts.moveYield started there { left with } _ fun _ ready => ?_
  obtain ⟨priority, place⟩ := ready
  cases there.generic.symm.trans place

theorem Preempts.reapTerminated (preempts : Preempts kernel) (placed : Placed idle kernel)
    (started : kernel.xSchedulerRunning) : Preempts kernel.reapTerminated := by
  obtain same | ⟨head, rest, held, same⟩ := kernel.reapTerminated_cases
  · rw [same]
    exact preempts
  · rw [same]
    have there := (MovedTo.stay placed.sound head.pvOwner).removeGeneric
    refine preempts.move started { there with } ⟨rfl, rfl, rfl, rfl, rfl, rfl⟩ fun _ ready => ?_
    obtain ⟨priority, place⟩ := ready
    cases there.generic.symm.trans place

theorem Preempts.delayCurrent (preempts : Preempts kernel) (placed : Placed idle kernel)
    (started : kernel.xSchedulerRunning) (moved : Kernel T E)
    (there : MovedTo moved.pxCurrentTCB kernel moved generic event wake)
    (quiet : Quiet kernel moved) (ticks : UInt32) : Preempts (moved.delayCurrent ticks) := by
  have blocking := placed.blocking_moved there ticks
  have waits := there.delayCurrent ticks blocking
  refine preempts.move started waits (quiet.trans (quiet_delayCurrent moved ticks))
    fun _ ready => ?_
  obtain ⟨priority, place⟩ := ready
  exact absurd (waits.generic.symm.trans place) (blocking.not_ready priority)

theorem Preempts.vTaskPlaceOnEventList (preempts : Preempts kernel) (placed : Placed idle kernel)
    (started : kernel.xSchedulerRunning) (ready : kernel.Ready kernel.pxCurrentTCB) (event : E)
    (ticks : UInt32) : Preempts (kernel.vTaskPlaceOnEventList event ticks) := by
  have start := MovedTo.stay placed.sound kernel.pxCurrentTCB
  rw [(placed.ready_task ready).2.2] at start
  have waiting := start.insertEvent (.pxEventList event) (by simp)
  rw [Kernel.vTaskPlaceOnEventList]
  split
  next =>
    have there := waiting.removeGeneric.insertEndGeneric .xSuspendedTaskList (by simp)
    refine preempts.move started there ⟨rfl, rfl, rfl, rfl, rfl, rfl⟩ fun _ ready => ?_
    obtain ⟨priority, place⟩ := ready
    cases there.generic.symm.trans place
  next =>
    exact preempts.delayCurrent placed started (kernel.vListInsert _ _) waiting
      ⟨rfl, rfl, rfl, rfl, rfl, rfl⟩ ticks

theorem Preempts.vTaskPlaceOnEventListRestricted (preempts : Preempts kernel)
    (placed : Placed idle kernel) (started : kernel.xSchedulerRunning)
    (ready : kernel.Ready kernel.pxCurrentTCB) (event : E) (ticks : UInt32) :
    Preempts (kernel.vTaskPlaceOnEventListRestricted event ticks) := by
  have start := MovedTo.stay placed.sound kernel.pxCurrentTCB
  rw [(placed.ready_task ready).2.2] at start
  exact preempts.delayCurrent placed started (kernel.vListInsertEnd _ _)
    (start.insertEndEvent (.pxEventList event) nofun) ⟨rfl, rfl, rfl, rfl, rfl, rfl⟩ ticks

theorem MovedTo.readyOrPending (there : MovedTo task kernel moved generic none wake) :
    ∃ generic event, MovedTo task kernel (moved.readyOrPending task) generic event wake := by
  rw [Kernel.readyOrPending]
  split
  next => exact ⟨_, _, there.removeGeneric.addReady⟩
  next => exact ⟨_, _, there.insertEndEvent .xPendingReadyList (by simp)⟩

theorem Preempts.readyOrPending (preempts : Preempts kernel) (started : kernel.xSchedulerRunning)
    (there : MovedTo task kernel moved generic none wake) (quiet : Quiet kernel moved)
    (low : kernel.uxPriority task < kernel.uxPriority kernel.pxCurrentTCB) :
    Preempts (moved.readyOrPending task) := by
  obtain ⟨generic, event, moves⟩ := there.readyOrPending
  exact preempts.move started moves (quiet.trans (quiet_readyOrPending moved task))
    fun _ _ => Nat.le_of_lt low

/-- A wake-up that asks for a switch is not from an interrupt within another one, and a queue is
unlocked while the scheduler is stopped. -/
def Prompt (kernel : Kernel T E) : KernelEvent T E → Prop
  | .xTaskRemoveFromEventList _ .unlockQueue => kernel.uxSchedulerSuspended ≠ 0
  | .xTaskRemoveFromEventList _ (.isr isrcount) => isrcount = 1
  | _ => True

omit [DecidableEq T] [DecidableEq E] in
theorem Preempts.unblockedBy (preempts : Preempts kernel) (started : kernel.xSchedulerRunning)
    {result : Bool × Kernel T E} (quiet : Quiet kernel result.2)
    (low : result.1 = false → Preempts result.2) {event : E} {caller : Unblocker}
    (prompt : kernel.Prompt (.xTaskRemoveFromEventList event caller)) :
    Preempts (unblockedBy caller result) := by
  unfold Kernel.unblockedBy
  split
  next =>
    cases caller with
    | task => exact preempts.yielding started quiet
    | unlockQueue =>
        refine ⟨.inr (.inl rfl), fun going => ?_, fun stopped => ?_⟩
        · exact absurd (quiet.suspended.symm.trans going) prompt
        · exact nomatch started.symm.trans (quiet.running.symm.trans stopped)
    | isr isrcount =>
        rw [show isrcount = 1 from prompt]
        exact preempts.yielding started quiet
  next still => exact low (Bool.eq_false_iff.mpr still)

theorem quiet_removeFromEventList (kernel : Kernel T E) (event : E) :
    Quiet kernel (kernel.xTaskRemoveFromEventList event).2 := by
  rw [Kernel.xTaskRemoveFromEventList]
  split
  next => exact quiet_refl kernel
  next head rest held =>
    have first : Quiet kernel (kernel.vListRemove (.xEventListItem head.pvOwner)) :=
      ⟨rfl, rfl, rfl, rfl, rfl, rfl⟩
    exact first.trans (quiet_readyOrPending _ head.pvOwner)

theorem Preempts.xTaskRemoveFromEventList (preempts : Preempts kernel) (placed : Placed idle kernel)
    (started : kernel.xSchedulerRunning) {event : E}
    (low : (kernel.xTaskRemoveFromEventList event).1 = false) :
    Preempts (kernel.xTaskRemoveFromEventList event).2 := by
  have quiet := quiet_removeFromEventList kernel event
  rw [Kernel.xTaskRemoveFromEventList] at low quiet ⊢
  cases held : kernel.items (.pxEventList event) with
  | nil => exact preempts
  | cons head rest =>
      rw [held] at low quiet
      have below := of_decide_eq_false low
      rw [quiet.priorities, quiet.current] at below
      exact preempts.readyOrPending started (MovedTo.stay placed.sound head.pvOwner).removeEvent
        ⟨rfl, rfl, rfl, rfl, rfl, rfl⟩ (Nat.lt_of_not_le below)

theorem Preempts.vTaskResume (preempts : Preempts kernel) (placed : Placed idle kernel)
    (started : kernel.xSchedulerRunning) (task : T) : Preempts (kernel.vTaskResume task) := by
  rw [Kernel.vTaskResume]
  split
  next =>
    have there := (MovedTo.stay placed.sound task).removeGeneric.addReady
    refine preempts.moveYield started there ⟨rfl, rfl, rfl, rfl, rfl, rfl⟩ _ fun low _ => ?_
    exact Nat.le_of_lt (Nat.lt_of_not_le low)
  next => exact preempts

theorem Preempts.xTaskResumeFromISR (preempts : Preempts kernel) (placed : Placed idle kernel)
    (started : kernel.xSchedulerRunning) (task : T) :
    Preempts (if (kernel.xTaskResumeFromISR task).1 then
      (kernel.xTaskResumeFromISR task).2.portYield
      else (kernel.xTaskResumeFromISR task).2) := by
  rw [Kernel.xTaskResumeFromISR]
  split
  next suspended =>
    obtain ⟨place, nowhere⟩ := suspended_of_isTaskSuspended suspended
    have start := MovedTo.stay placed.sound task
    rw [nowhere] at start
    split
    next going =>
      have there := start.removeGeneric.addReady
      refine preempts.moveYield started there ⟨rfl, rfl, rfl, rfl, rfl, rfl⟩ _ fun low _ => ?_
      exact Nat.le_of_lt (Nat.lt_of_not_le fun above => low (decide_eq_true above))
    next stopped =>
      have there := start.insertEndEvent .xPendingReadyList (by simp)
      refine preempts.move started there ⟨rfl, rfl, rfl, rfl, rfl, rfl⟩ fun _ ready => ?_
      obtain ⟨priority, ready⟩ := ready
      cases (there.generic.symm.trans ready).symm.trans place
  next => exact preempts

/-! The priority of a task. -/

theorem quiet_relistReady (kernel : Kernel T E) (task : T) (priority current : Nat) :
    Quiet { kernel with uxPriority := Function.update kernel.uxPriority task priority }
      ((kernel.setPriority task priority).relistReady task current) := by
  rw [Kernel.relistReady]
  split <;> exact ⟨rfl, rfl, rfl, rfl, rfl, rfl⟩

theorem Placed.relistReady_moved (placed : Placed idle kernel) (task : T) (priority : Nat) :
    let moved := (kernel.setPriority task priority).relistReady task (kernel.uxPriority task)
    (∃ generic event wake, MovedTo task kernel moved generic event wake) ∧
      (moved.Ready task → kernel.Ready task) := by
  have changed := (MovedTo.stay placed.sound task).setPriority priority
    fun list held => placed.not_delayed held
  dsimp only
  rw [Kernel.relistReady]
  split
  next ready => exact ⟨⟨_, _, _, changed.removeGeneric.addReady⟩, fun _ => ⟨_, ready⟩⟩
  next => exact ⟨⟨_, _, _, changed⟩, id⟩

/-- Where the running task stays the topmost one no switch is asked for. -/
theorem Preempts.vTaskPrioritySet (preempts : Preempts kernel) (placed : Placed idle kernel)
    (started : kernel.xSchedulerRunning) (task : T) (priority : Nat) :
    Preempts (kernel.vTaskPrioritySet task priority) := by
  obtain ⟨⟨generic, event, wake, there⟩, ready⟩ := placed.relistReady_moved task (capped priority)
  have quiet := quiet_relistReady kernel task (capped priority) (kernel.uxPriority task)
  rw [Kernel.vTaskPrioritySet]
  split
  next differ =>
    dsimp only
    refine preempts.settleYield started quiet _ fun still top other now => ?_
    rw [quiet.current, quiet.priorities]
    dsimp only
    have before : kernel.uxPriority other ≤ kernel.uxPriority kernel.pxCurrentTCB := by
      by_cases same : other = task
      · subst same
        exact top other (ready now)
      · obtain ⟨level, place⟩ := now
        rw [there.others (.xGenericListItem other) same] at place
        exact top other ⟨level, place⟩
    by_cases above : capped priority > kernel.uxPriority task
    · -- only the running task can be raised without a switch
      rw [if_pos above, decide_eq_true_eq, not_not] at still
      subst still
      by_cases same : other = kernel.pxCurrentTCB
      · rw [same]
      · rw [Function.update_of_ne same, Function.update_self]
        omega
    · rw [if_neg above, decide_eq_true_eq] at still
      rw [Function.update_of_ne (Ne.symm still)]
      by_cases same : other = task
      · rw [same, Function.update_self]
        rw [same] at before
        omega
      · rwa [Function.update_of_ne same]
  next => exact preempts

/-! The scheduler goes on. -/

theorem quiet_movePendingLoop (kernel : Kernel T E) (turns : Nat) (yields : Bool) :
    Quiet kernel (kernel.movePendingLoop turns yields).2 := by
  induction turns generalizing kernel yields with
  | zero => exact quiet_refl kernel
  | succ turns ih =>
      rw [movePendingLoop]
      split
      next => exact quiet_refl kernel
      next head rest held =>
        have moved : Quiet kernel (kernel.moveReadied head.pvOwner) :=
          ⟨rfl, rfl, rfl, rfl, rfl, rfl⟩
        exact moved.trans (ih _ _)

/-- Where the first loop asks for no switch it has made no task ready over the running one. -/
theorem Placed.movePendingLoop_topmost (placed : Placed idle kernel) (counted : kernel.Counted)
    {turns : Nat} {yields : Bool} (none_ : (kernel.movePendingLoop turns yields).1 = false) :
    yields = false ∧ (kernel.Topmost → (kernel.movePendingLoop turns yields).2.Topmost) := by
  induction turns generalizing kernel yields with
  | zero => exact ⟨none_, id⟩
  | succ turns ih =>
      rw [Kernel.movePendingLoop] at none_ ⊢
      cases held : kernel.items .xPendingReadyList with
      | nil =>
          rw [held] at none_
          exact ⟨none_, id⟩
      | cons head rest =>
          rw [held] at none_
          have place := placed.head_of_awaits held (.inl rfl)
          obtain ⟨moved, still⟩ := placed.moveReadied counted place
          obtain ⟨both, later⟩ := ih moved still none_
          rw [Bool.or_eq_false_iff] at both
          have there :=
            (MovedTo.stay placed.sound head.pvOwner).removeEvent.removeGeneric.addReady
          refine ⟨both.1, fun top =>
            later (top.move there ⟨rfl, rfl, rfl, rfl, rfl, rfl⟩ fun _ => ?_)⟩
          exact Nat.le_of_lt (Nat.lt_of_not_le (of_decide_eq_false both.2))

/-- Every task that comes to be ready while the scheduler goes on is over the running one with a
switch that is asked for. -/
theorem Preempts.resumed (preempts : Preempts kernel) (placed : Placed idle kernel)
    (counted : kernel.Counted) (started : kernel.xSchedulerRunning)
    (lowered : Kernel T E) (same : lowered = { kernel with uxSchedulerSuspended := 0 }) :
    Preempts lowered.resumed.2 := by
  have start : Quiet { kernel with uxSchedulerSuspended := 0 } lowered := same ▸ quiet_refl _
  have here : Placed idle lowered := same ▸ { placed with }
  have number : lowered.Counted := same ▸ counted
  have moved := start.trans (quiet_movePendingLoop lowered
    ((lowered.items .xPendingReadyList).length + 1) false)
  have whole := moved.trans (quiet_replayLoop lowered.movePending.2
    lowered.movePending.2.uxMissedTicks.toNat)
  have running (after : Kernel T E) (same : after.xSchedulerRunning =
      lowered.movePending.2.replayed.xSchedulerRunning) : after.xSchedulerRunning = true :=
    same.trans (whole.running.trans started)
  rw [Kernel.resumed]
  split
  next =>
    exact ⟨.inl rfl, fun _ => rfl,
      fun stopped => absurd ((running _ rfl).symm.trans stopped) (by simp)⟩
  next none_ =>
    simp only [Bool.or_eq_true, not_or, Bool.not_eq_true, decide_eq_false_iff_not] at none_
    obtain ⟨⟨yields, ticks⟩, missed⟩ := none_
    refine ⟨?_, fun _ => missed,
      fun stopped => absurd ((running _ rfl).symm.trans stopped) (by simp)⟩
    have zero : lowered.movePending.2.uxMissedTicks.toNat = 0 := by
      rw [gt_iff_lt, UInt32.lt_iff_toNat_lt, UInt32.toNat_zero] at ticks
      omega
    have none_ : lowered.movePending.2.replayed = lowered.movePending.2 := by
      rw [replayed, zero, Kernel.replayLoop]
    rw [none_] at missed ⊢
    rcases preempts.top with pends | misses | top
    · exact .inl (moved.pend.trans pends)
    · exact absurd (misses.symm.trans (moved.missed.symm.trans missed)) (by simp)
    · refine .inr (.inr ((here.movePendingLoop_topmost number yields).2 ?_))
      subst same
      exact top

theorem Preempts.xTaskResumeAll (preempts : Preempts kernel) (kept : Kept idle kernel)
    (started : kernel.xSchedulerRunning) : Preempts kernel.xTaskResumeAll.2 := by
  have some_ := kept.counted.pos (kept.idle started ▸ Option.some_ne_none _)
  rw [Kernel.xTaskResumeAll]
  dsimp only
  split
  next going =>
    refine preempts.resumed kept.toPlaced kept.counted started _ ?_
    rw [going.1]
  next still =>
    exact ⟨preempts.top, fun going => absurd ⟨going, some_⟩ still,
      fun stopped => absurd (started.symm.trans stopped) (by simp)⟩

/-! Tasks are created. -/

/-- What `xTaskGenericCreate` does to a kernel for a new task. -/
theorem create_spec (absent : kernel.Absent task) (priority : Nat) :
    let after := kernel.xTaskGenericCreate task priority
    let priorities := Function.update kernel.uxPriority task (capped priority)
    after.uxPriority = priorities ∧
      after.pxCurrentTCB =
        (if kernel.xSchedulerRunning = false ∧ priorities kernel.pxCurrentTCB ≤ priority then task
        else kernel.pxCurrentTCB) ∧
      after.xMissedYield = kernel.xMissedYield ∧
      (after.pendSV = false → kernel.pendSV = false ∧
        (kernel.xSchedulerRunning = true → priority ≤ priorities after.pxCurrentTCB)) := by
  dsimp only
  rw [Kernel.xTaskGenericCreate, prvInitialiseTCBVariables_of_absent absent]
  split
  next => exact ⟨rfl, rfl, rfl, by simp [portYield]⟩
  next still =>
    refine ⟨rfl, rfl, rfl, fun none_ => ⟨none_, fun started => ?_⟩⟩
    exact Nat.le_of_not_lt fun above => still ⟨started, above⟩

theorem capped_le (priority : Nat) : capped priority ≤ priority := by
  rw [capped]
  split <;> omega

theorem le_capped {level priority : Nat} (low : level < configMaxPriorities)
    (below : level ≤ priority) : level ≤ capped priority := by
  rw [capped]
  split <;> omega

/-- The new task becomes the current one, a switch is asked for, or it has no higher priority. -/
theorem Preempts.xTaskGenericCreate (preempts : Preempts kernel) (placed : Placed idle kernel)
    (absent : kernel.Absent task) (ready : kernel.Ready kernel.pxCurrentTCB) (priority : Nat) :
    Preempts (kernel.xTaskGenericCreate task priority) := by
  have there := xTaskGenericCreate_moved placed.sound absent priority
  obtain ⟨priorities, current, missed, pends⟩ := create_spec absent priority
  have other : kernel.pxCurrentTCB ≠ task := by
    intro same
    obtain ⟨level, place⟩ := ready
    cases absent.1.symm.trans (same ▸ place)
  rw [Function.update_of_ne other] at current
  have before (next : T) (apart : next ≠ task)
      (now : (kernel.xTaskGenericCreate task priority).Ready next) : kernel.Ready next := by
    obtain ⟨level, place⟩ := now
    exact ⟨level, (there.others (.xGenericListItem next) apart).symm.trans place⟩
  refine ⟨?_, fun going => ?_, fun stopped => ?_⟩
  · by_cases pending : (kernel.xTaskGenericCreate task priority).pendSV = true
    · exact .inl pending
    · obtain ⟨none_, low⟩ := pends (Bool.eq_false_iff.mpr pending)
      rw [missed]
      refine .inr ((preempts.top.resolve_left (Bool.eq_false_iff.mp none_)).imp_right ?_)
      intro top next now
      rw [current] at low
      rw [priorities, current]
      by_cases taken : kernel.xSchedulerRunning = false ∧
          kernel.uxPriority kernel.pxCurrentTCB ≤ priority
      · rw [if_pos taken, Function.update_self]
        by_cases same : next = task
        · rw [same, Function.update_self]
        · rw [Function.update_of_ne same]
          exact (top next (before next same now)).trans
            (le_capped (placed.priority _) taken.2)
      · rw [if_neg taken] at low ⊢
        rw [Function.update_of_ne other] at low ⊢
        by_cases same : next = task
        · rw [same, Function.update_self]
          refine (capped_le priority).trans ?_
          cases running : kernel.xSchedulerRunning with
          | true => exact low running
          | false => exact Nat.le_of_lt (Nat.lt_of_not_le fun below => taken ⟨running, below⟩)
        · rw [Function.update_of_ne same]
          exact top next (before next same now)
  · exact missed.trans (preempts.missed (there.suspended.symm.trans going))
  · rw [current]
    split
    · exact ⟨_, there.generic⟩
    · obtain ⟨level, place⟩ := ready
      exact ⟨level, (there.others (.xGenericListItem kernel.pxCurrentTCB) other).trans place⟩

theorem Preempts.vTaskStartScheduler (preempts : Preempts kernel) (kept : Kept idle kernel)
    (stopped : kernel.xSchedulerRunning = false) (first : kernel.Absent idle)
    (second : kernel.Absent task) (apart : task ≠ idle) :
    Preempts (kernel.vTaskStartScheduler idle task) := by
  have one := preempts.xTaskGenericCreate kept.toPlaced first (preempts.chosen stopped)
    tskIdlePriority
  have keeps := kept.xTaskGenericCreate first (fun started => nomatch stopped ▸ started)
    tskIdlePriority
  have there := xTaskGenericCreate_moved kept.sound first tskIdlePriority
  have absent : (kernel.xTaskGenericCreate idle tskIdlePriority).Absent task :=
    ⟨(there.others (.xGenericListItem task) apart).trans second.1,
      (there.others (.xEventListItem task) apart).trans second.2⟩
  have two := one.xTaskGenericCreate keeps.toPlaced absent
    (one.chosen (there.running.trans stopped)) configTimerTaskPriority
  exact ⟨two.top, two.missed, nofun⟩

theorem Preempts.step (preempts : Preempts kernel) (kept : Kept idle kernel)
    {next : KernelEvent T E} (allowed : kernel.Allowed idle next) (prompt : kernel.Prompt next) :
    Preempts (kernel.step next) := by
  have placed := kept.toPlaced
  cases next with
  | xTaskGenericCreate task priority =>
      exact preempts.xTaskGenericCreate placed allowed.1 allowed.2 priority
  | vTaskStartScheduler task timers =>
      obtain ⟨stopped, rfl, apart, first, second⟩ := allowed
      exact preempts.vTaskStartScheduler kept stopped first second apart
  | sysTick => exact preempts.sysTick allowed
  | pendSV => exact preempts.pendSV kept allowed
  | taskYield => exact ⟨.inl rfl, preempts.missed, preempts.chosen⟩
  | vTaskSuspendAll => exact ⟨preempts.top, nofun, preempts.chosen⟩
  | xTaskResumeAll => exact preempts.xTaskResumeAll kept allowed.1
  | vTaskDelay ticks =>
      exact preempts.delayCurrent placed allowed.1 kernel (MovedTo.stay kept.sound _)
        (quiet_refl kernel) ticks
  | vTaskPlaceOnEventList event ticks =>
      exact preempts.vTaskPlaceOnEventList placed allowed.1 allowed.2.1 event ticks
  | vTaskPlaceOnEventListRestricted event ticks =>
      exact preempts.vTaskPlaceOnEventListRestricted placed allowed.1 allowed.2.1 event ticks
  | xTaskRemoveFromEventList event caller =>
      exact preempts.unblockedBy allowed (quiet_removeFromEventList kernel event)
        (preempts.xTaskRemoveFromEventList placed allowed) prompt
  | vTaskDelete task => exact preempts.vTaskDelete placed allowed.1 task
  | prvCheckTasksWaitingTermination => exact preempts.reapTerminated placed allowed
  | vTaskPrioritySet task priority => exact preempts.vTaskPrioritySet placed allowed.1 task priority
  | vTaskSuspend task => exact preempts.vTaskSuspend placed allowed.1 task
  | vTaskResume task => exact preempts.vTaskResume placed allowed task
  | xTaskResumeFromISR task => exact preempts.xTaskResumeFromISR placed allowed task

theorem preempts_firstCreated (task : T) (priority : Nat) :
    Preempts (firstCreated task priority : Kernel T E) := by
  have absent : (unstarted task : Kernel T E).Absent task := ⟨rfl, rfl⟩
  have there := xTaskGenericCreate_moved (kept_unstarted task task).sound absent priority
  obtain ⟨-, current, missed, -⟩ := create_spec absent priority
  have chosen : (firstCreated task priority : Kernel T E).pxCurrentTCB = task :=
    current.trans (ite_self _)
  refine ⟨.inr (.inr fun next ready => ?_), fun _ => missed, fun _ => ?_⟩
  · by_cases same : next = task
    · rw [same, chosen]
    · obtain ⟨level, place⟩ := ready
      cases (there.others (.xGenericListItem next) same).symm.trans place
  · rw [chosen]
    exact ⟨_, there.generic⟩

def sampleSwitch : List (KernelEvent Nat Unit) :=
  [.vTaskStartScheduler 8 9, .xTaskGenericCreate 3 5, .pendSV]

end Kernel

end SmartMeter
