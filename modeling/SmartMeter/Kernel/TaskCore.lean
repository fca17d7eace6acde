import SmartMeter.Kernel.ListCore

/-! `tasks.c`: the lists the tasks are in, the ticks that wake them, and the choice of the next. -/

namespace SmartMeter

def configMaxPriorities : Nat := 63
def tskIdlePriority : Nat := 0
def configTimerTaskPriority : Nat := 1

inductive TaskItem (T : Type)
  | xGenericListItem (pxTCB : T)
  | xEventListItem (pxTCB : T)
deriving DecidableEq

def TaskItem.pvOwner {T : Type} : TaskItem T → T
  | .xGenericListItem pxTCB | .xEventListItem pxTCB => pxTCB

/-- `pxEventList` are the lists of tasks that wait for a queue. -/
inductive TaskList (E : Type)
  | pxReadyTasksLists (uxPriority : Nat)
  | xDelayedTaskList1
  | xDelayedTaskList2
  | xPendingReadyList
  | xTasksWaitingTermination
  | xSuspendedTaskList
  | pxEventList (event : E)
deriving DecidableEq

/-- `pendSV` is set while an interrupt waits to switch tasks. The counters of 32 bits are numbers:
the tasks, nested stops and wraps of the tick count are fewer than 2 ^ 32. -/
structure Kernel (T E : Type) where
  lists : ListStore (TaskList E) (TaskItem T)
  uxPriority : T → Nat
  pxCurrentTCB : T
  xSchedulerRunning : Bool
  xTickCount : UInt32
  xNumOfOverflows : Nat
  pxDelayedTaskList : TaskList E
  pxOverflowDelayedTaskList : TaskList E
  xNextTaskUnblockTime : UInt32
  uxTopReadyPriority : Nat
  uxTopUsedPriority : Nat
  uxSchedulerSuspended : Nat
  uxMissedTicks : UInt32
  xMissedYield : Bool
  pendSV : Bool
  uxCurrentNumberOfTasks : Nat
  uxTasksDeleted : Nat

namespace Kernel

variable {T E : Type} [DecidableEq T] [DecidableEq E]

def items (kernel : Kernel T E) (list : TaskList E) : List (TaskItem T) := kernel.lists.items list

def pvContainer (kernel : Kernel T E) (item : TaskItem T) : Option (TaskList E) :=
  kernel.lists.pvContainer item

def vListRemove (item : TaskItem T) (kernel : Kernel T E) : Kernel T E :=
  { kernel with lists := kernel.lists.vListRemove item }

def vListInsertEnd (list : TaskList E) (item : TaskItem T) (kernel : Kernel T E) : Kernel T E :=
  { kernel with lists := kernel.lists.vListInsertEnd list item }

def vListInsert (list : TaskList E) (item : TaskItem T) (kernel : Kernel T E) : Kernel T E :=
  { kernel with lists := kernel.lists.vListInsert list item }

def listSetListItemValue (item : TaskItem T) (value : UInt32) (kernel : Kernel T E) : Kernel T E :=
  { kernel with lists := kernel.lists.setListItemValue item value }

def portYield (kernel : Kernel T E) : Kernel T E := { kernel with pendSV := true }

def prvAddTaskToReadyQueue (pxTCB : T) (kernel : Kernel T E) : Kernel T E :=
  vListInsertEnd (.pxReadyTasksLists (kernel.uxPriority pxTCB)) (.xGenericListItem pxTCB)
    { kernel with
      uxTopReadyPriority :=
        if kernel.uxPriority pxTCB > kernel.uxTopReadyPriority then kernel.uxPriority pxTCB
        else kernel.uxTopReadyPriority }

def leaveEventList (pxTCB : T) (kernel : Kernel T E) : Kernel T E :=
  if kernel.pvContainer (.xEventListItem pxTCB) ≠ none then
    kernel.vListRemove (.xEventListItem pxTCB)
  else kernel

/-! The tick. -/

def unblock (pxTCB : T) (kernel : Kernel T E) : Kernel T E :=
  ((kernel.vListRemove (.xGenericListItem pxTCB)).leaveEventList pxTCB).prvAddTaskToReadyQueue pxTCB

/-- The loop of `prvCheckDelayedTasks`, which takes one task out of the list in every turn. -/
def checkDelayedLoop : Nat → Kernel T E → Kernel T E
  | 0, kernel => kernel
  | turns + 1, kernel =>
      match kernel.items kernel.pxDelayedTaskList with
      | [] => { kernel with xNextTaskUnblockTime := portMaxDelay }
      | head :: _ =>
          let xItemValue := kernel.lists.xItemValue (.xGenericListItem head.pvOwner)
          if kernel.xTickCount < xItemValue then { kernel with xNextTaskUnblockTime := xItemValue }
          else checkDelayedLoop turns (kernel.unblock head.pvOwner)

def prvCheckDelayedTasks (kernel : Kernel T E) : Kernel T E :=
  if kernel.xTickCount ≥ kernel.xNextTaskUnblockTime then
    checkDelayedLoop ((kernel.items kernel.pxDelayedTaskList).length + 1) kernel
  else kernel

def switchDelayedLists (kernel : Kernel T E) : Kernel T E :=
  { kernel with
    pxDelayedTaskList := kernel.pxOverflowDelayedTaskList
    pxOverflowDelayedTaskList := kernel.pxDelayedTaskList
    xNumOfOverflows := kernel.xNumOfOverflows + 1
    xNextTaskUnblockTime :=
      match kernel.items kernel.pxOverflowDelayedTaskList with
      | [] => portMaxDelay
      | head :: _ => kernel.lists.xItemValue (.xGenericListItem head.pvOwner) }

def countTick (kernel : Kernel T E) : Kernel T E :=
  { kernel with xTickCount := kernel.xTickCount + 1 }

def vTaskIncrementTick (kernel : Kernel T E) : Kernel T E :=
  if kernel.uxSchedulerSuspended = 0 then
    let counted := kernel.countTick
    prvCheckDelayedTasks (if counted.xTickCount = 0 then counted.switchDelayedLists else counted)
  else { kernel with uxMissedTicks := kernel.uxMissedTicks + 1 }

def sysTickHandler (kernel : Kernel T E) : Kernel T E := kernel.portYield.vTaskIncrementTick

/-! The scheduler is stopped and goes on. -/

def vTaskSuspendAll (kernel : Kernel T E) : Kernel T E :=
  { kernel with uxSchedulerSuspended := kernel.uxSchedulerSuspended + 1 }

def moveReadied (pxTCB : T) (kernel : Kernel T E) : Kernel T E :=
  ((kernel.vListRemove (.xEventListItem pxTCB)).vListRemove
    (.xGenericListItem pxTCB)).prvAddTaskToReadyQueue pxTCB

def movePendingLoop : Nat → Bool → Kernel T E → Bool × Kernel T E
  | 0, xYieldRequired, kernel => (xYieldRequired, kernel)
  | turns + 1, xYieldRequired, kernel =>
      match kernel.items .xPendingReadyList with
      | [] => (xYieldRequired, kernel)
      | head :: _ =>
          let moved := kernel.moveReadied head.pvOwner
          movePendingLoop turns
            (xYieldRequired ||
              decide (moved.uxPriority head.pvOwner ≥ moved.uxPriority moved.pxCurrentTCB)) moved

def replayLoop : Nat → Kernel T E → Kernel T E
  | 0, kernel => kernel
  | uxMissedTicks + 1, kernel =>
      let ticked := kernel.vTaskIncrementTick
      replayLoop uxMissedTicks { ticked with uxMissedTicks := ticked.uxMissedTicks - 1 }

def movePending (kernel : Kernel T E) : Bool × Kernel T E :=
  movePendingLoop ((kernel.items .xPendingReadyList).length + 1) false kernel

def replayed (kernel : Kernel T E) : Kernel T E := kernel.replayLoop kernel.uxMissedTicks.toNat

def resumed (kernel : Kernel T E) : Bool × Kernel T E :=
  let moved := kernel.movePending
  if moved.1 || decide (moved.2.uxMissedTicks > 0) || moved.2.replayed.xMissedYield then
    (true, portYield { moved.2.replayed with xMissedYield := false })
  else (false, moved.2.replayed)

/-- Gives `xAlreadyYielded`. -/
def xTaskResumeAll (kernel : Kernel T E) : Bool × Kernel T E :=
  let lowered := { kernel with uxSchedulerSuspended := kernel.uxSchedulerSuspended - 1 }
  if lowered.uxSchedulerSuspended = 0 ∧ lowered.uxCurrentNumberOfTasks > 0 then lowered.resumed
  else (false, lowered)

def topReady (kernel : Kernel T E) : Nat → Option Nat
  | 0 => if kernel.items (.pxReadyTasksLists 0) = [] then none else some 0
  | uxTopReadyPriority + 1 =>
      if kernel.items (.pxReadyTasksLists (uxTopReadyPriority + 1)) = [] then
        kernel.topReady uxTopReadyPriority
      else some (uxTopReadyPriority + 1)

def switchedTo (uxTopReadyPriority : Nat) (kernel : Kernel T E) : Kernel T E :=
  let lists := kernel.lists.listGetOwnerOfNextEntry (.pxReadyTasksLists uxTopReadyPriority)
  { kernel with
    uxTopReadyPriority := uxTopReadyPriority
    lists := lists
    pxCurrentTCB := ((lists.list (.pxReadyTasksLists uxTopReadyPriority)).index.map
      TaskItem.pvOwner).getD kernel.pxCurrentTCB }

/-- Without a task that is ready the search would run past the last list. -/
def vTaskSwitchContext (kernel : Kernel T E) : Option (Kernel T E) :=
  if kernel.uxSchedulerSuspended ≠ 0 then some { kernel with xMissedYield := true }
  else (kernel.topReady kernel.uxTopReadyPriority).map (kernel.switchedTo ·)

def pendSVHandler (kernel : Kernel T E) : Option (Kernel T E) :=
  vTaskSwitchContext { kernel with pendSV := false }

/-! The running task waits. -/

def prvAddCurrentTaskToDelayedList (xTimeToWake : UInt32) (kernel : Kernel T E) : Kernel T E :=
  let item := TaskItem.xGenericListItem kernel.pxCurrentTCB
  let valued := kernel.listSetListItemValue item xTimeToWake
  if xTimeToWake < kernel.xTickCount then
    valued.vListInsert kernel.pxOverflowDelayedTaskList item
  else
    { valued.vListInsert kernel.pxDelayedTaskList item with
      xNextTaskUnblockTime :=
        if xTimeToWake < kernel.xNextTaskUnblockTime then xTimeToWake
        else kernel.xNextTaskUnblockTime }

/-- `vTaskDelay` between its stop of the scheduler and the resumption. -/
def delayCurrent (xTicksToDelay : UInt32) (kernel : Kernel T E) : Kernel T E :=
  (kernel.vListRemove (.xGenericListItem kernel.pxCurrentTCB)).prvAddCurrentTaskToDelayedList
    (kernel.xTickCount + xTicksToDelay)

def vTaskPlaceOnEventList (event : E) (xTicksToWait : UInt32) (kernel : Kernel T E) : Kernel T E :=
  let waiting := kernel.vListInsert (.pxEventList event) (.xEventListItem kernel.pxCurrentTCB)
  if xTicksToWait = portMaxDelay then
    (waiting.vListRemove (.xGenericListItem kernel.pxCurrentTCB)).vListInsertEnd
      .xSuspendedTaskList (.xGenericListItem kernel.pxCurrentTCB)
  else waiting.delayCurrent xTicksToWait

def vTaskPlaceOnEventListRestricted (event : E) (xTicksToWait : UInt32) (kernel : Kernel T E) :
    Kernel T E :=
  (kernel.vListInsertEnd (.pxEventList event) (.xEventListItem kernel.pxCurrentTCB)).delayCurrent
    xTicksToWait

/-- The task is made ready, or noted as readied while the scheduler is stopped. -/
def readyOrPending (pxUnblockedTCB : T) (kernel : Kernel T E) : Kernel T E :=
  if kernel.uxSchedulerSuspended = 0 then
    (kernel.vListRemove (.xGenericListItem pxUnblockedTCB)).prvAddTaskToReadyQueue pxUnblockedTCB
  else kernel.vListInsertEnd .xPendingReadyList (.xEventListItem pxUnblockedTCB)

/-- The list has an item, which the callers have looked for. -/
def xTaskRemoveFromEventList (event : E) (kernel : Kernel T E) : Bool × Kernel T E :=
  match kernel.items (.pxEventList event) with
  | [] => (false, kernel)
  | head :: _ =>
      let removed := (kernel.vListRemove (.xEventListItem head.pvOwner)).readyOrPending head.pvOwner
      (decide (removed.uxPriority head.pvOwner ≥ removed.uxPriority removed.pxCurrentTCB), removed)

def vTaskMissedYield (kernel : Kernel T E) : Kernel T E := { kernel with xMissedYield := true }

/-! The task control interface. -/

def capped (uxPriority : Nat) : Nat :=
  if uxPriority ≥ configMaxPriorities then configMaxPriorities - 1 else uxPriority

/-- Event lists are in the order of priorities. -/
def setPriority (pxTCB : T) (uxPriority : Nat) (kernel : Kernel T E) : Kernel T E :=
  listSetListItemValue (.xEventListItem pxTCB)
    (UInt32.ofNat configMaxPriorities - UInt32.ofNat uxPriority)
    { kernel with uxPriority := Function.update kernel.uxPriority pxTCB uxPriority }

def prvInitialiseTCBVariables (pxTCB : T) (uxPriority : Nat) (kernel : Kernel T E) : Kernel T E :=
  setPriority pxTCB (capped uxPriority) { kernel with
    lists := (kernel.lists.vListInitialiseItem (.xGenericListItem pxTCB)).vListInitialiseItem
      (.xEventListItem pxTCB) }

/-- Before the scheduler is started the task of the highest priority becomes the current one. -/
def countTask (pxNewTCB : T) (uxPriority : Nat) (kernel : Kernel T E) : Kernel T E :=
  { kernel with
    uxCurrentNumberOfTasks := kernel.uxCurrentNumberOfTasks + 1
    pxCurrentTCB :=
      if kernel.xSchedulerRunning = false ∧ kernel.uxPriority kernel.pxCurrentTCB ≤ uxPriority then
        pxNewTCB
      else kernel.pxCurrentTCB
    uxTopUsedPriority :=
      if kernel.uxPriority pxNewTCB > kernel.uxTopUsedPriority then kernel.uxPriority pxNewTCB
      else kernel.uxTopUsedPriority }

/-- `xTaskGenericCreate` once there is the memory for the task, and a current task. -/
def xTaskGenericCreate (pxNewTCB : T) (uxPriority : Nat) (kernel : Kernel T E) : Kernel T E :=
  let added := ((kernel.prvInitialiseTCBVariables pxNewTCB uxPriority).countTask pxNewTCB
    uxPriority).prvAddTaskToReadyQueue pxNewTCB
  if added.xSchedulerRunning ∧ added.uxPriority added.pxCurrentTCB < uxPriority then added.portYield
  else added

/-- The static variables, and the lists as `prvInitialiseTaskLists` leaves them. -/
def unstarted (pxCurrentTCB : T) : Kernel T E where
  lists := .boot
  uxPriority _ := 0
  pxCurrentTCB := pxCurrentTCB
  xSchedulerRunning := false
  xTickCount := 0
  xNumOfOverflows := 0
  pxDelayedTaskList := .xDelayedTaskList1
  pxOverflowDelayedTaskList := .xDelayedTaskList2
  xNextTaskUnblockTime := portMaxDelay
  uxTopReadyPriority := tskIdlePriority
  uxTopUsedPriority := tskIdlePriority
  uxSchedulerSuspended := 0
  uxMissedTicks := 0
  xMissedYield := false
  pendSV := false
  uxCurrentNumberOfTasks := 0
  uxTasksDeleted := 0

def firstCreated (pxNewTCB : T) (uxPriority : Nat) : Kernel T E :=
  (unstarted pxNewTCB).xTaskGenericCreate pxNewTCB uxPriority

def vTaskStartScheduler (idle timers : T) (kernel : Kernel T E) : Kernel T E :=
  let created := (kernel.xTaskGenericCreate idle tskIdlePriority).xTaskGenericCreate timers
    configTimerTaskPriority
  { created with xSchedulerRunning := true, xTickCount := 0 }

def vTaskDelete (pxTCB : T) (kernel : Kernel T E) : Kernel T E :=
  let removed := (kernel.vListRemove (.xGenericListItem pxTCB)).leaveEventList pxTCB
  let listed := removed.vListInsertEnd .xTasksWaitingTermination (.xGenericListItem pxTCB)
  let deleted := { listed with uxTasksDeleted := listed.uxTasksDeleted + 1 }
  if deleted.xSchedulerRunning ∧ pxTCB = deleted.pxCurrentTCB then deleted.portYield else deleted

/-- `prvCheckTasksWaitingTermination`, without the stop of the scheduler for the look at the
list. -/
def reapTerminated (kernel : Kernel T E) : Kernel T E :=
  if kernel.uxTasksDeleted > 0 then
    match kernel.items .xTasksWaitingTermination with
    | [] => kernel
    | head :: _ =>
        { kernel.vListRemove (.xGenericListItem head.pvOwner) with
          uxCurrentNumberOfTasks := kernel.uxCurrentNumberOfTasks - 1
          uxTasksDeleted := kernel.uxTasksDeleted - 1 }
  else kernel

def relistReady (pxTCB : T) (uxCurrentPriority : Nat) (kernel : Kernel T E) : Kernel T E :=
  if kernel.pvContainer (.xGenericListItem pxTCB) = some (.pxReadyTasksLists uxCurrentPriority) then
    (kernel.vListRemove (.xGenericListItem pxTCB)).prvAddTaskToReadyQueue pxTCB
  else kernel

def vTaskPrioritySet (pxTCB : T) (uxNewPriority : Nat) (kernel : Kernel T E) : Kernel T E :=
  let uxCurrentPriority := kernel.uxPriority pxTCB
  if uxCurrentPriority ≠ capped uxNewPriority then
    let xYieldRequired :=
      if capped uxNewPriority > uxCurrentPriority then decide (pxTCB ≠ kernel.pxCurrentTCB)
      else decide (pxTCB = kernel.pxCurrentTCB)
    let moved := (kernel.setPriority pxTCB (capped uxNewPriority)).relistReady pxTCB
      uxCurrentPriority
    if xYieldRequired then moved.portYield else moved
  else kernel

/-- `vTaskSuspend` while the scheduler runs. -/
def vTaskSuspend (pxTCB : T) (kernel : Kernel T E) : Kernel T E :=
  let removed := (kernel.vListRemove (.xGenericListItem pxTCB)).leaveEventList pxTCB
  let suspended := removed.vListInsertEnd .xSuspendedTaskList (.xGenericListItem pxTCB)
  if pxTCB = suspended.pxCurrentTCB then suspended.portYield else suspended

/-- A task that waits for an event without a time limit is in the list of the suspended too. -/
def xTaskIsTaskSuspended (pxTCB : T) (kernel : Kernel T E) : Bool :=
  decide (kernel.pvContainer (.xGenericListItem pxTCB) = some .xSuspendedTaskList) &&
    (decide (kernel.pvContainer (.xEventListItem pxTCB) ≠ some .xPendingReadyList) &&
      decide (kernel.pvContainer (.xEventListItem pxTCB) = none))

def vTaskResume (pxTCB : T) (kernel : Kernel T E) : Kernel T E :=
  if pxTCB ≠ kernel.pxCurrentTCB ∧ kernel.xTaskIsTaskSuspended pxTCB then
    let resumed := (kernel.vListRemove (.xGenericListItem pxTCB)).prvAddTaskToReadyQueue pxTCB
    if resumed.uxPriority pxTCB ≥ resumed.uxPriority resumed.pxCurrentTCB then resumed.portYield
    else resumed
  else kernel

/-- Gives `xYieldRequired`. -/
def xTaskResumeFromISR (pxTCB : T) (kernel : Kernel T E) : Bool × Kernel T E :=
  if kernel.xTaskIsTaskSuspended pxTCB then
    if kernel.uxSchedulerSuspended = 0 then
      (decide (kernel.uxPriority pxTCB ≥ kernel.uxPriority kernel.pxCurrentTCB),
        (kernel.vListRemove (.xGenericListItem pxTCB)).prvAddTaskToReadyQueue pxTCB)
    else (false, kernel.vListInsertEnd .xPendingReadyList (.xEventListItem pxTCB))
  else (false, kernel)

end Kernel

end SmartMeter
