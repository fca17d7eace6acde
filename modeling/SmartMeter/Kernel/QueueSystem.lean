import SmartMeter.Kernel.EventLists
import SmartMeter.Kernel.MissedTicks
import SmartMeter.Kernel.QueueRefines

/-! Tasks and interrupts that use queues, each of them between two steps of another one. -/

namespace SmartMeter

open Runs

inductive QueueSide
  | xTasksWaitingToSend
  | xTasksWaitingToReceive
deriving DecidableEq

structure WaitingList (Q : Type) where
  pxQueue : Q
  side : QueueSide
deriving DecidableEq

/-- The overflow count has 32 bits in the source, for fewer than 2 ^ 32 wraps of the tick count. -/
structure TimeOut where
  xOverflowCount : Nat
  xTimeOnEntering : UInt32
deriving DecidableEq

namespace Kernel

variable {T E : Type}

def vTaskSetTimeOutState (kernel : Kernel T E) : TimeOut :=
  ⟨kernel.xNumOfOverflows, kernel.xTickCount⟩

/-- Gives `xReturn` and what it leaves in `pxTimeOut` and `pxTicksToWait`. -/
def xTaskCheckForTimeOut (pxTimeOut : TimeOut) (pxTicksToWait : UInt32) (kernel : Kernel T E) :
    Bool × TimeOut × UInt32 :=
  if pxTicksToWait = portMaxDelay then (false, pxTimeOut, pxTicksToWait)
  else if kernel.xNumOfOverflows ≠ pxTimeOut.xOverflowCount ∧
      kernel.xTickCount ≥ pxTimeOut.xTimeOnEntering then (true, pxTimeOut, pxTicksToWait)
  else if kernel.xTickCount - pxTimeOut.xTimeOnEntering < pxTicksToWait then
    (false, kernel.vTaskSetTimeOutState,
      pxTicksToWait - (kernel.xTickCount - pxTimeOut.xTimeOnEntering))
  else (true, pxTimeOut, pxTicksToWait)

end Kernel

def QueueCall.side : QueueCall → QueueSide
  | .send _ _ => .xTasksWaitingToSend
  | .receive | .peek => .xTasksWaitingToReceive

def QueueCall.wakes : QueueCall → QueueSide
  | .send _ _ | .peek => .xTasksWaitingToReceive
  | .receive => .xTasksWaitingToSend

def QueueCall.hasToWait (queue : QueueDefinition) : QueueCall → Bool
  | .send _ _ => queue.prvIsQueueFull
  | .receive | .peek => queue.prvIsQueueEmpty

def QueueAnswer.passed : QueueAnswer → Bool
  | .sent pass => pass
  | .received item => item.isSome

inductive QueueOutcome
  | blocked
  | again
  | expired
deriving DecidableEq

/-- Where a task is in the loop of `xQueueGenericSend` or `xQueueGenericReceive`: what it will
do next. -/
inductive QueuePoint
  | loop
  | suspendAll
  | lockQueue
  | checkForTimeOut
  | checkQueue
  | placeOnEventList
  | unlockTx (outcome : QueueOutcome)
  | unlockRx (outcome : QueueOutcome)
  | resumeAll (outcome : QueueOutcome)
deriving DecidableEq

def QueuePoint.stopped : QueuePoint → Bool
  | .loop | .suspendAll => false
  | _ => true

/-- A task in a call. It was `called` with the `limit` as its `xTicksToWait`, which the loop counts
down. -/
structure QueueProgram (Q : Type) where
  pxQueue : Q
  operation : QueueCall
  xTicksToWait : UInt32
  xEntryTimeSet : Bool
  xTimeOut : TimeOut
  point : QueuePoint
  called : Nat
  limit : UInt32

structure QueueReturn (T Q : Type) where
  task : T
  program : QueueProgram Q
  passed : Bool
  time : Nat

structure QueueSystem (T Q : Type) where
  kernel : Kernel T (WaitingList Q)
  queues : Q → QueueDefinition
  programs : T → Option (QueueProgram Q)
  returns : List (QueueReturn T Q)

inductive QueueEvent (T Q : Type)
  | call (pxQueue : Q) (operation : QueueCall) (xTicksToWait : UInt32)
  | proceed
  | sendFromISR (pxQueue : Q) (pvItemToQueue : Nat → UInt8) (xCopyPosition : Int) (isrcount : Nat)
  | receiveFromISR (pxQueue : Q) (isrcount : Nat)
  | other (event : KernelEvent T (WaitingList Q))

namespace QueueSystem

variable {T Q : Type} [DecidableEq T] [DecidableEq Q]

def wakeOne (list : WaitingList Q) (caller : Unblocker) (kernel : Kernel T (WaitingList Q)) :
    Kernel T (WaitingList Q) :=
  if kernel.items (.pxEventList list) ≠ [] then
    kernel.step (.xTaskRemoveFromEventList list caller)
  else kernel

def unlockLoop (list : WaitingList Q) :
    Nat → Kernel T (WaitingList Q) → Kernel T (WaitingList Q)
  | 0, kernel => kernel
  | lock + 1, kernel =>
      if kernel.items (.pxEventList list) ≠ [] then
        unlockLoop list lock (kernel.step (.xTaskRemoveFromEventList list .unlockQueue))
      else kernel

def goOn (task : T) (program : QueueProgram Q) (system : QueueSystem T Q) : QueueSystem T Q :=
  { system with programs := Function.update system.programs task (some program) }

def finish (task : T) (program : QueueProgram Q) (passed : Bool) (system : QueueSystem T Q) :
    QueueSystem T Q :=
  { system with
    programs := Function.update system.programs task none
    returns := ⟨task, program, passed, system.kernel.now⟩ :: system.returns }

def setQueue (pxQueue : Q) (queue : QueueDefinition) (system : QueueSystem T Q) :
    QueueSystem T Q :=
  { system with queues := Function.update system.queues pxQueue queue }

def loopTop (task : T) (program : QueueProgram Q) (system : QueueSystem T Q) : QueueSystem T Q :=
  let result := (system.queues program.pxQueue).call program.operation
  if result.1.passed then
    finish task program true (setQueue program.pxQueue result.2 { system with
      kernel := wakeOne ⟨program.pxQueue, program.operation.wakes⟩ .task system.kernel })
  else if program.xTicksToWait = 0 then finish task program false system
  else goOn task { program with
    xTimeOut := if program.xEntryTimeSet then program.xTimeOut
      else system.kernel.vTaskSetTimeOutState
    xEntryTimeSet := true
    point := .suspendAll } system

def checkTimeOut (task : T) (program : QueueProgram Q) (system : QueueSystem T Q) :
    QueueSystem T Q :=
  let result := system.kernel.xTaskCheckForTimeOut program.xTimeOut program.xTicksToWait
  goOn task { program with
    xTimeOut := result.2.1
    xTicksToWait := result.2.2
    point := if result.1 then .unlockTx .expired else .checkQueue } system

/-- The scheduler goes on. A task that waits then yields, if that has not come about already. -/
def resume (task : T) (program : QueueProgram Q) (system : QueueSystem T Q) :
    QueueOutcome → QueueSystem T Q
  | .blocked =>
      let resumed := system.kernel.step .xTaskResumeAll
      goOn task { program with point := .loop } { system with
        kernel := if system.kernel.xTaskResumeAll.1 then resumed else resumed.step .taskYield }
  | .again =>
      goOn task { program with point := .loop } { system with
        kernel := system.kernel.step .xTaskResumeAll }
  | .expired => finish task program false { system with
      kernel := system.kernel.step .xTaskResumeAll }

def taskStep (task : T) (program : QueueProgram Q) (system : QueueSystem T Q) :
    QueueSystem T Q :=
  let queue := system.queues program.pxQueue
  match program.point with
  | .loop => system.loopTop task program
  | .suspendAll => goOn task { program with point := .lockQueue } { system with
      kernel := system.kernel.step .vTaskSuspendAll }
  | .lockQueue => goOn task { program with point := .checkForTimeOut }
      (system.setQueue program.pxQueue queue.prvLockQueue)
  | .checkForTimeOut => system.checkTimeOut task program
  | .checkQueue => goOn task { program with
      point := if program.operation.hasToWait queue then .placeOnEventList else .unlockTx .again }
        system
  | .placeOnEventList => goOn task { program with point := .unlockTx .blocked } { system with
      kernel := system.kernel.step (.vTaskPlaceOnEventList
        ⟨program.pxQueue, program.operation.side⟩ program.xTicksToWait) }
  | .unlockTx outcome => goOn task { program with point := .unlockRx outcome }
      (setQueue program.pxQueue { queue with xTxLock := queueUnlocked } { system with
        kernel := unlockLoop ⟨program.pxQueue, .xTasksWaitingToReceive⟩ queue.xTxLock.toNat
          system.kernel })
  | .unlockRx outcome => goOn task { program with point := .resumeAll outcome }
      (setQueue program.pxQueue { queue with xRxLock := queueUnlocked } { system with
        kernel := unlockLoop ⟨program.pxQueue, .xTasksWaitingToSend⟩ queue.xRxLock.toNat
          system.kernel })
  | .resumeAll outcome => system.resume task program outcome

/-- An interrupt leaves the event lists of a locked queue alone. -/
def xQueueGenericSendFromISR (pxQueue : Q) (pvItemToQueue : Nat → UInt8) (xCopyPosition : Int)
    (isrcount : Nat) (system : QueueSystem T Q) : QueueSystem T Q :=
  let result := (system.queues pxQueue).call (.send pvItemToQueue xCopyPosition)
  if result.1.passed then
    if result.2.xTxLock = queueUnlocked then
      setQueue pxQueue result.2 { system with
        kernel := wakeOne ⟨pxQueue, .xTasksWaitingToReceive⟩ (.isr isrcount) system.kernel }
    else system.setQueue pxQueue { result.2 with xTxLock := result.2.xTxLock + 1 }
  else system

def xQueueReceiveFromISR (pxQueue : Q) (isrcount : Nat) (system : QueueSystem T Q) :
    QueueSystem T Q :=
  let result := (system.queues pxQueue).call .receive
  if result.1.passed then
    if result.2.xRxLock = queueUnlocked then
      setQueue pxQueue result.2 { system with
        kernel := wakeOne ⟨pxQueue, .xTasksWaitingToSend⟩ (.isr isrcount) system.kernel }
    else system.setQueue pxQueue { result.2 with xRxLock := result.2.xRxLock + 1 }
  else system

def step (system : QueueSystem T Q) : QueueEvent T Q → QueueSystem T Q
  | .call pxQueue operation xTicksToWait =>
      system.goOn system.kernel.pxCurrentTCB
        ⟨pxQueue, operation, xTicksToWait, false, ⟨0, 0⟩, .loop, system.kernel.now, xTicksToWait⟩
  | .proceed =>
      match system.programs system.kernel.pxCurrentTCB with
      | none => system
      | some program => system.taskStep system.kernel.pxCurrentTCB program
  | .sendFromISR pxQueue pvItemToQueue xCopyPosition isrcount =>
      system.xQueueGenericSendFromISR pxQueue pvItemToQueue xCopyPosition isrcount
  | .receiveFromISR pxQueue isrcount => system.xQueueReceiveFromISR pxQueue isrcount
  | .other event => { system with kernel := system.kernel.step event }

/-- Other steps of the kernel come from interrupts, or from the running task when it is in no call.
What they do to event lists is done by the calls, and no task is deleted in a call. -/
def Other (system : QueueSystem T Q) : KernelEvent T (WaitingList Q) → Prop
  | .sysTick | .pendSV | .xTaskResumeFromISR _ => True
  | .vTaskPlaceOnEventList _ _ | .vTaskPlaceOnEventListRestricted _ _
  | .xTaskRemoveFromEventList _ _ => False
  | .vTaskDelete task =>
      system.programs system.kernel.pxCurrentTCB = none ∧ system.programs task = none
  | _ => system.programs system.kernel.pxCurrentTCB = none

/-- The running task goes on when no switch of tasks is pending, and unless it has stopped the
scheduler it is ready. -/
def Allowed (idle : T) (system : QueueSystem T Q) : QueueEvent T Q → Prop
  | .call _ _ _ =>
    system.kernel.xSchedulerRunning ∧ system.kernel.Ready system.kernel.pxCurrentTCB ∧
      system.kernel.pxCurrentTCB ≠ idle ∧ system.programs system.kernel.pxCurrentTCB = none
  | .proceed => system.kernel.xSchedulerRunning ∧ system.kernel.pendSV = false ∧
      ∀ program, system.programs system.kernel.pxCurrentTCB = some program →
        program.point.stopped = false → system.kernel.Ready system.kernel.pxCurrentTCB
  | .sendFromISR _ _ _ _ | .receiveFromISR _ _ => system.kernel.xSchedulerRunning
  | .other event => system.kernel.Allowed idle event ∧ system.Other event

/-! A run is checked by a calculation. -/

def isReady (kernel : Kernel T (WaitingList Q)) (task : T) : Bool :=
  match kernel.pvContainer (.xGenericListItem task) with
  | some (.pxReadyTasksLists _) => true
  | _ => false

omit [DecidableEq T] [DecidableEq Q] in
theorem isReady_iff (kernel : Kernel T (WaitingList Q)) (task : T) :
    isReady kernel task ↔ kernel.Ready task := by
  rw [isReady, Kernel.Ready]
  split
  next priority place => exact ⟨fun _ => ⟨priority, place⟩, fun _ => rfl⟩
  next other => exact ⟨nofun, fun ⟨priority, place⟩ => absurd place (other priority)⟩

instance (kernel : Kernel T (WaitingList Q)) (task : T) : Decidable (kernel.Ready task) :=
  decidable_of_iff _ (isReady_iff kernel task)

instance (kernel : Kernel T (WaitingList Q)) (task : T) : Decidable (kernel.Absent task) :=
  inferInstanceAs (Decidable (_ ∧ _))

instance (kernel : Kernel T (WaitingList Q)) (task : T) : Decidable (kernel.Alive task) :=
  inferInstanceAs (Decidable (_ ∧ _))

instance (idle : T) (kernel : Kernel T (WaitingList Q)) :
    (event : KernelEvent T (WaitingList Q)) → Decidable (kernel.Allowed idle event)
  | .xTaskGenericCreate _ _ | .xTaskResumeAll => inferInstanceAs (Decidable (_ ∧ _))
  | .vTaskStartScheduler _ _ => inferInstanceAs (Decidable (_ ∧ _ ∧ _ ∧ _ ∧ _))
  | .vTaskDelay _ => inferInstanceAs (Decidable (_ ∧ _ ∧ _ ∧ _ ∧ _))
  | .vTaskPlaceOnEventList _ _ | .vTaskPlaceOnEventListRestricted _ _ =>
      inferInstanceAs (Decidable (_ ∧ _ ∧ _ ∧ _))
  | .vTaskDelete _ | .vTaskSuspend _ => inferInstanceAs (Decidable (_ ∧ _ ∧ _))
  | .vTaskPrioritySet _ _ => inferInstanceAs (Decidable (_ ∧ _))
  | .sysTick | .pendSV | .taskYield | .vTaskSuspendAll | .xTaskRemoveFromEventList _ _
  | .prvCheckTasksWaitingTermination | .vTaskResume _ | .xTaskResumeFromISR _ =>
      inferInstanceAs (Decidable (kernel.xSchedulerRunning = true))

instance (system : QueueSystem T Q) :
    (event : KernelEvent T (WaitingList Q)) → Decidable (system.Other event)
  | .sysTick | .pendSV | .xTaskResumeFromISR _ => isTrue trivial
  | .vTaskPlaceOnEventList _ _ | .vTaskPlaceOnEventListRestricted _ _
  | .xTaskRemoveFromEventList _ _ => isFalse id
  | .vTaskDelete _ => inferInstanceAs (Decidable (_ ∧ _))
  | .xTaskGenericCreate _ _ | .vTaskStartScheduler _ _ | .taskYield | .vTaskSuspendAll
  | .xTaskResumeAll | .vTaskDelay _ | .prvCheckTasksWaitingTermination | .vTaskPrioritySet _ _
  | .vTaskSuspend _ | .vTaskResume _ =>
      inferInstanceAs (Decidable (system.programs system.kernel.pxCurrentTCB = none))

instance (idle : T) (system : QueueSystem T Q) :
    (event : QueueEvent T Q) → Decidable (system.Allowed idle event)
  | .call _ _ _ => inferInstanceAs (Decidable (_ ∧ _ ∧ _ ∧ _))
  | .proceed => inferInstanceAs (Decidable (_ ∧ _ ∧
      ∀ program ∈ system.programs system.kernel.pxCurrentTCB, program.point.stopped = false →
        system.kernel.Ready system.kernel.pxCurrentTCB))
  | .sendFromISR _ _ _ _ | .receiveFromISR _ _ =>
      inferInstanceAs (Decidable (system.kernel.xSchedulerRunning = true))
  | .other _ => inferInstanceAs (Decidable (_ ∧ _))

instance decidableAlong (idle : T) : (system : QueueSystem T Q) → (events : List (QueueEvent T Q)) →
    Decidable (Along step (Allowed idle) system events)
  | _, [] => isTrue trivial
  | system, event :: rest =>
      have := decidableAlong idle (system.step event) rest
      inferInstanceAs (Decidable (_ ∧ _))

/-- The queues are created before the first task is. -/
def created (task : T) (priority : Nat) (queues : Q → QueueDefinition) : QueueSystem T Q where
  kernel := .firstCreated task priority
  queues := queues
  programs _ := none
  returns := []

end QueueSystem

end SmartMeter
