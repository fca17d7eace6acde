import SmartMeter.Kernel.TaskMoves

/-!
The kernel takes one step after another: the interrupts, and the critical sections of the tasks.
-/

namespace SmartMeter

open Runs

/-- Who takes a task off an event list: a task, `prvUnlockQueue`, or an interrupt, which is the
outermost one when `isrcount` is 1. -/
inductive Unblocker
  | task
  | unlockQueue
  | isr (isrcount : Nat)
deriving DecidableEq

inductive KernelEvent (T E : Type)
  | xTaskGenericCreate (pxNewTCB : T) (uxPriority : Nat)
  | vTaskStartScheduler (idle timers : T)
  | sysTick
  | pendSV
  | taskYield
  | vTaskSuspendAll
  | xTaskResumeAll
  | vTaskDelay (xTicksToDelay : UInt32)
  | vTaskPlaceOnEventList (event : E) (xTicksToWait : UInt32)
  | vTaskPlaceOnEventListRestricted (event : E) (xTicksToWait : UInt32)
  | xTaskRemoveFromEventList (event : E) (caller : Unblocker)
  | vTaskDelete (pxTaskToDelete : T)
  | prvCheckTasksWaitingTermination
  | vTaskPrioritySet (pxTask : T) (uxNewPriority : Nat)
  | vTaskSuspend (pxTaskToSuspend : T)
  | vTaskResume (pxTaskToResume : T)
  | xTaskResumeFromISR (pxTaskToResume : T)

namespace Kernel

variable {T E : Type} [DecidableEq T] [DecidableEq E]

/-- A caller looks at `xReturn` in its own way. -/
def unblockedBy (caller : Unblocker) (result : Bool × Kernel T E) : Kernel T E :=
  if result.1 then
    match caller with
    | .task => result.2.portYield
    | .unlockQueue => result.2.vTaskMissedYield
    | .isr isrcount => if isrcount = 1 then result.2.portYield else result.2
  else result.2

def step (kernel : Kernel T E) : KernelEvent T E → Kernel T E
  | .xTaskGenericCreate pxNewTCB uxPriority => kernel.xTaskGenericCreate pxNewTCB uxPriority
  | .vTaskStartScheduler idle timers => kernel.vTaskStartScheduler idle timers
  | .sysTick => kernel.sysTickHandler
  | .pendSV => kernel.pendSVHandler.getD kernel
  | .taskYield => kernel.portYield
  | .vTaskSuspendAll => kernel.vTaskSuspendAll
  | .xTaskResumeAll => kernel.xTaskResumeAll.2
  | .vTaskDelay xTicksToDelay => kernel.delayCurrent xTicksToDelay
  | .vTaskPlaceOnEventList event xTicksToWait => kernel.vTaskPlaceOnEventList event xTicksToWait
  | .vTaskPlaceOnEventListRestricted event xTicksToWait =>
      kernel.vTaskPlaceOnEventListRestricted event xTicksToWait
  | .xTaskRemoveFromEventList event caller =>
      unblockedBy caller (kernel.xTaskRemoveFromEventList event)
  | .vTaskDelete pxTaskToDelete => kernel.vTaskDelete pxTaskToDelete
  | .prvCheckTasksWaitingTermination => kernel.reapTerminated
  | .vTaskPrioritySet pxTask uxNewPriority => kernel.vTaskPrioritySet pxTask uxNewPriority
  | .vTaskSuspend pxTaskToSuspend => kernel.vTaskSuspend pxTaskToSuspend
  | .vTaskResume pxTaskToResume => kernel.vTaskResume pxTaskToResume
  | .xTaskResumeFromISR pxTaskToResume =>
      if (kernel.xTaskResumeFromISR pxTaskToResume).1 then
        (kernel.xTaskResumeFromISR pxTaskToResume).2.portYield
      else (kernel.xTaskResumeFromISR pxTaskToResume).2

def Ready (kernel : Kernel T E) (task : T) : Prop :=
  ∃ priority, kernel.pvContainer (.xGenericListItem task) = some (.pxReadyTasksLists priority)

def Absent (kernel : Kernel T E) (task : T) : Prop :=
  kernel.pvContainer (.xGenericListItem task) = none ∧
    kernel.pvContainer (.xEventListItem task) = none

def Alive (kernel : Kernel T E) (task : T) : Prop :=
  kernel.pvContainer (.xGenericListItem task) ≠ none ∧
    kernel.pvContainer (.xGenericListItem task) ≠ some .xTasksWaitingTermination

/-- Before the scheduler is started tasks are created, and nothing else is done. Then the running
task calls the kernel, which no one does for the idle task, a task that waits waits for one tick at
least, and the scheduler is stopped before it goes on. -/
def Allowed (idle : T) (kernel : Kernel T E) : KernelEvent T E → Prop
  | .xTaskGenericCreate pxNewTCB _ => kernel.Absent pxNewTCB ∧ kernel.Ready kernel.pxCurrentTCB
  | .vTaskStartScheduler task timers =>
      kernel.xSchedulerRunning = false ∧ task = idle ∧ timers ≠ idle ∧ kernel.Absent idle ∧
        kernel.Absent timers
  | .vTaskDelay xTicksToDelay =>
      kernel.xSchedulerRunning ∧ kernel.Ready kernel.pxCurrentTCB ∧ kernel.pxCurrentTCB ≠ idle ∧
        xTicksToDelay ≠ 0 ∧ kernel.uxSchedulerSuspended ≠ 0
  | .vTaskPlaceOnEventList _ xTicksToWait | .vTaskPlaceOnEventListRestricted _ xTicksToWait =>
      kernel.xSchedulerRunning ∧ kernel.Ready kernel.pxCurrentTCB ∧ kernel.pxCurrentTCB ≠ idle ∧
        xTicksToWait ≠ 0
  | .vTaskDelete task | .vTaskSuspend task =>
      kernel.xSchedulerRunning ∧ task ≠ idle ∧ kernel.Alive task
  | .vTaskPrioritySet task _ => kernel.xSchedulerRunning ∧ task ≠ idle
  | .xTaskResumeAll => kernel.xSchedulerRunning ∧ kernel.uxSchedulerSuspended ≠ 0
  | _ => kernel.xSchedulerRunning

/-! Where the tasks are. -/

def Blocking (list : TaskList E) : Prop :=
  list = .xDelayedTaskList1 ∨ list = .xDelayedTaskList2 ∨ list = .xSuspendedTaskList

def Awaits (list : TaskList E) : Prop :=
  list = .xPendingReadyList ∨ ∃ event, list = .pxEventList event

inductive Legal (uxPriority uxTopReadyPriority : Nat) :
    Option (TaskList E) → Option (TaskList E) → Prop
  | absent : Legal uxPriority uxTopReadyPriority none none
  | ready (top : uxPriority ≤ uxTopReadyPriority) :
      Legal uxPriority uxTopReadyPriority (some (.pxReadyTasksLists uxPriority)) none
  | terminated : Legal uxPriority uxTopReadyPriority (some .xTasksWaitingTermination) none
  | blocked {list : TaskList E} (blocking : Blocking list) :
      Legal uxPriority uxTopReadyPriority (some list) none
  | waiting {list event : TaskList E} (blocking : Blocking list) (awaits : Awaits event) :
      Legal uxPriority uxTopReadyPriority (some list) (some event)

/-- Every task is in one place, a ready one in the list of its priority, and the idle task is
ready. -/
structure Placed (idle : T) (kernel : Kernel T E) : Prop where
  sound : kernel.lists.Sound
  legal : ∀ task, Legal (kernel.uxPriority task) kernel.uxTopReadyPriority
    (kernel.pvContainer (.xGenericListItem task)) (kernel.pvContainer (.xEventListItem task))
  priority : ∀ task, kernel.uxPriority task < configMaxPriorities
  delayed : kernel.pxDelayedTaskList = .xDelayedTaskList1 ∧
      kernel.pxOverflowDelayedTaskList = .xDelayedTaskList2 ∨
    kernel.pxDelayedTaskList = .xDelayedTaskList2 ∧
      kernel.pxOverflowDelayedTaskList = .xDelayedTaskList1
  idle : kernel.xSchedulerRunning →
    kernel.pvContainer (.xGenericListItem idle) = some (.pxReadyTasksLists tskIdlePriority)

/-- No task is pending while the scheduler goes. -/
def Settled (kernel : Kernel T E) : Prop :=
  kernel.uxSchedulerSuspended = 0 → ∀ item, kernel.pvContainer item ≠ some .xPendingReadyList

/-- There are `number` tasks with the property. -/
def Census (number : Nat) (property : T → Prop) : Prop :=
  ∃ tasks : List T, tasks.Nodup ∧ tasks.length = number ∧ ∀ task, task ∈ tasks ↔ property task

/-- The kernel counts the tasks, and those that were deleted and are still to be freed. -/
def Counted (kernel : Kernel T E) : Prop :=
  (Census kernel.uxCurrentNumberOfTasks fun task =>
    kernel.pvContainer (.xGenericListItem task) ≠ none) ∧
  Census kernel.uxTasksDeleted fun task =>
    kernel.pvContainer (.xGenericListItem task) = some .xTasksWaitingTermination

structure Kept (idle : T) (kernel : Kernel T E) : Prop extends Placed idle kernel where
  settled : kernel.Settled
  counted : kernel.Counted

end Kernel

end SmartMeter
