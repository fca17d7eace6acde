import SmartMeter.Kernel.QueueControl
import SmartMeter.Library.WakeUps

/-! No task waits at a queue for what the queue has, unless another task is going to take it. -/

namespace SmartMeter

open Runs

def QueueDefinition.available (queue : QueueDefinition) : QueueSide → Nat
  | .xTasksWaitingToReceive => queue.uxMessagesWaiting
  | .xTasksWaitingToSend => queue.uxLength - queue.uxMessagesWaiting

namespace QueueDefinition

variable {queue : QueueDefinition} {operation : QueueCall}

theorem available_of_passed (fits : queue.uxMessagesWaiting ≤ queue.uxLength)
    (passed : (queue.call operation).1.passed = true) :
    (queue.call operation).2.uxMessagesWaiting ≤ (queue.call operation).2.uxLength ∧
      ∀ side, (queue.call operation).2.available side ≤
        (if side = operation.wakes then queue.available side + 1 else queue.available side) -
          (if side = operation.side then 1 else 0) := by
  cases operation with
  | send item position =>
      rw [call, sendNow] at passed ⊢
      split at passed
      next room =>
        rw [if_pos room]
        obtain ⟨length, -, -, waiting⟩ := queue.prvCopyDataToQueue_same item position
        refine ⟨by dsimp only [Option.getD_some]; omega, fun side => ?_⟩
        cases side with
        | xTasksWaitingToSend =>
            simp [available, QueueCall.wakes, QueueCall.side, length, waiting]
            omega
        | xTasksWaitingToReceive =>
            simp [available, QueueCall.wakes, QueueCall.side, waiting]
      next => cases passed
  | receive =>
      rw [call, receiveNow] at passed ⊢
      split at passed
      next some_ =>
        rw [if_pos some_]
        refine ⟨(Nat.sub_le _ 1).trans fits, fun side => ?_⟩
        cases side <;> simp [available, QueueCall.wakes, QueueCall.side, received,
          prvCopyDataFromQueue]
        omega
      next => cases passed
  | peek =>
      rw [call, receiveNow] at passed ⊢
      split at passed
      next some_ =>
        rw [if_pos some_]
        refine ⟨fits, fun side => ?_⟩
        cases side <;> simp [available, QueueCall.wakes, QueueCall.side, received,
          prvCopyDataFromQueue]
      next => cases passed

theorem available_of_failed (failed : (queue.call operation).1.passed = false) :
    queue.available operation.side = 0 := by
  cases operation with
  | send item position =>
      rw [call, sendNow] at failed
      split at failed
      next => cases failed
      next full => exact Nat.sub_eq_zero_of_le (Nat.le_of_not_lt full)
  | receive =>
      rw [call, receiveNow] at failed
      split at failed
      next => cases failed
      next none_ => exact Nat.eq_zero_of_not_pos none_
  | peek =>
      rw [call, receiveNow] at failed
      split at failed
      next => cases failed
      next none_ => exact Nat.eq_zero_of_not_pos none_

theorem available_of_hasToWait (waits : operation.hasToWait queue = true) :
    queue.available operation.side = 0 := by
  cases operation with
  | send item position =>
      have full : queue.uxMessagesWaiting = queue.uxLength := of_decide_eq_true waits
      exact Nat.sub_eq_zero_of_le full.ge
  | receive => exact of_decide_eq_true waits
  | peek => exact of_decide_eq_true waits

end QueueDefinition

namespace QueuePoint

/-- The task is going to look at the queue again. -/
def looks : QueuePoint → Bool
  | .loop => true
  | .unlockTx outcome | .unlockRx outcome | .resumeAll outcome => decide (outcome ≠ .expired)
  | _ => false

/-- The task may be in the event list. -/
def rests : QueuePoint → Bool
  | .loop => true
  | .unlockTx outcome | .unlockRx outcome | .resumeAll outcome => decide (outcome = .blocked)
  | _ => false

theorem looks_of_rests {point : QueuePoint} (rests : point.rests = true) : point.looks = true := by
  cases point with
  | loop => rfl
  | unlockTx outcome => cases outcome <;> first | rfl | cases rests
  | unlockRx outcome => cases outcome <;> first | rfl | cases rests
  | resumeAll outcome => cases outcome <;> first | rfl | cases rests
  | _ => cases rests

end QueuePoint

def QueueProgram.list {Q : Type} (program : QueueProgram Q) : WaitingList Q :=
  ⟨program.pxQueue, program.operation.side⟩

variable {T Q : Type} [DecidableEq T] [DecidableEq Q]

namespace QueueSystem

variable {system after : QueueSystem T Q} {idle task : T} {program : QueueProgram Q}
variable {kernel moved : Kernel T (WaitingList Q)} {programs : T → Option (QueueProgram Q)}
variable {list : WaitingList Q} {available credit : Nat}

def waiting (kernel : Kernel T (WaitingList Q)) (list : WaitingList Q) : Set T :=
  {task | kernel.WaitsFor list task}

/-- The tasks that do not wait in the list, and are going to look at its queue for what the others
wait for. -/
def looking (kernel : Kernel T (WaitingList Q)) (programs : T → Option (QueueProgram Q))
    (list : WaitingList Q) : Set T :=
  {task | ¬kernel.WaitsFor list task ∧
    ∃ program, programs task = some program ∧ program.list = list ∧ program.point.looks}

def Resting (kernel : Kernel T (WaitingList Q)) (programs : T → Option (QueueProgram Q)) : Prop :=
  ∀ list task, kernel.WaitsFor list task →
    ∃ program, programs task = some program ∧ program.list = list ∧ program.point.rests

omit [DecidableEq T] [DecidableEq Q] in
theorem Resting.sheds (resting : Resting kernel programs) (sheds : Kernel.Sheds kernel moved) :
    Resting moved programs :=
  fun list task waits => resting list task (sheds list task waits)

omit [DecidableEq T] [DecidableEq Q] in
theorem looking_of_sheds (sheds : ∀ task, moved.WaitsFor list task → kernel.WaitsFor list task) :
    looking kernel programs list ⊆ looking moved programs list :=
  fun task looks => ⟨fun waits => looks.1 (sheds task waits), looks.2⟩

omit [DecidableEq Q] in
theorem looking_erase (task : T) (next : Option (QueueProgram Q)) :
    looking kernel programs list \ {task} ⊆
      looking kernel (Function.update programs task next) list := by
  rintro other ⟨⟨free, looks⟩, apart⟩
  refine ⟨free, ?_⟩
  rwa [Function.update_of_ne apart]

omit [DecidableEq Q] in
/-- The task does not look any less than before. -/
theorem looking_update (held : programs task = some program) {next : Option (QueueProgram Q)}
    (still : program.list = list → program.point.looks →
      ∃ moved, next = some moved ∧ moved.list = list ∧ moved.point.looks) :
    looking kernel programs list ⊆ looking kernel (Function.update programs task next) list := by
  rintro other ⟨free, looks⟩
  refine ⟨free, ?_⟩
  by_cases same : other = task
  · rw [same, Function.update_self]
    obtain ⟨found, there, asks, looks⟩ := looks
    obtain rfl : program = found := Option.some.inj (held.symm.trans (same ▸ there))
    exact still asks looks
  · rwa [Function.update_of_ne same]

theorem sheds_wakeOne (kept : Kernel.Kept idle kernel) (list : WaitingList Q) (caller : Unblocker) :
    Kernel.Sheds kernel (wakeOne list caller kernel) := by
  rw [wakeOne]
  split
  next =>
    intro other task waits
    rw [Kernel.WaitsFor, Kernel.step, Kernel.unblockedBy_pvContainer] at waits
    exact (kept.sheds_removeFromEventList list).1 other task waits
  next => exact Kernel.sheds_refl kernel

theorem wakes_head (kept : Kernel.Kept idle kernel) (resting : Resting kernel programs)
    (list : WaitingList Q) (caller : Unblocker) (some_ : kernel.items (.pxEventList list) ≠ []) :
    ∃ task ∈ looking (kernel.step (.xTaskRemoveFromEventList list caller)) programs list,
      task ∉ looking kernel programs list := by
  obtain ⟨task, waits, gone⟩ := (kept.sheds_removeFromEventList list).2 some_
  obtain ⟨program, held, asks, rests⟩ := resting list task waits
  refine ⟨task, ⟨fun still => gone list ?_, program, held, asks, QueuePoint.looks_of_rests rests⟩,
    fun looks => looks.1 waits⟩
  rwa [Kernel.WaitsFor, Kernel.step, Kernel.unblockedBy_pvContainer] at still

omit [DecidableEq T] [DecidableEq Q] in
theorem waiting_empty (kept : Kernel.Kept idle kernel)
    (none_ : kernel.items (.pxEventList list) = []) :
    waiting kernel list = ∅ :=
  Set.eq_empty_iff_forall_notMem.mpr (kept.nobody_waits.mp none_)

theorem covered_wakeOne (kept : Kernel.Kept idle kernel) (resting : Resting kernel programs)
    (covered : Covered (waiting kernel list) (looking kernel programs list) available credit)
    (caller : Unblocker) :
    Covered (waiting (wakeOne list caller kernel) list)
      (looking (wakeOne list caller kernel) programs list) (available + 1) credit := by
  have sheds := sheds_wakeOne kept list caller
  refine covered.wake (sheds list) (looking_of_sheds (sheds list)) ?_
  by_cases some_ : kernel.items (.pxEventList list) ≠ []
  · rw [wakeOne, if_pos some_]
    exact .inr (wakes_head kept resting list caller some_)
  · exact .inl (waiting_empty kept (not_not.mp some_))

/-- A task is woken for each message that came, or went, while the queue was locked. -/
theorem covered_unlockLoop (steady : Kernel.Steady idle kernel)
    (running : kernel.xSchedulerRunning) (resting : Resting kernel programs)
    (covered : Covered (waiting kernel list) (looking kernel programs list) available credit) :
    Kernel.Sheds kernel (unlockLoop list credit kernel) ∧
      Covered (waiting (unlockLoop list credit kernel) list)
        (looking (unlockLoop list credit kernel) programs list) available 0 := by
  induction credit generalizing kernel with
  | zero => exact ⟨Kernel.sheds_refl kernel, covered⟩
  | succ credit ih =>
      rw [unlockLoop]
      by_cases some_ : kernel.items (.pxEventList list) ≠ []
      · have goes := (Kernel.goesOn_wake idle running list .unlockQueue).1
        have woken := covered_wakeOne steady.toKept resting covered .unlockQueue
        have sheds := sheds_wakeOne steady.toKept list .unlockQueue
        rw [wakeOne, if_pos some_] at woken sheds
        rw [if_pos some_]
        have paid : Covered _ _ available credit := woken.keep subset_rfl subset_rfl (by omega)
        obtain ⟨later, last⟩ := ih (steady.leads goes.leads)
          (steady.later running goes.leads).1 (resting.sheds sheds) paid
        exact ⟨sheds.trans later, last⟩
      · rw [if_neg some_]
        exact ⟨Kernel.sheds_refl kernel, .inl (waiting_empty steady.toKept (not_not.mp some_))⟩

/-! What holds between any two steps. -/

structure Supplied (system : QueueSystem T Q) : Prop where
  fits : ∀ pxQueue, (system.queues pxQueue).uxMessagesWaiting ≤ (system.queues pxQueue).uxLength
  counts : ∀ pxQueue side, -1 ≤ (system.queues pxQueue).lock side
  holds : ∀ task program side, system.programs task = some program → program.point.locks side →
    (system.queues program.pxQueue).lock side ≠ queueUnlocked
  resting : Resting system.kernel system.programs
  empty : ∀ task program, system.programs task = some program →
    program.point = .placeOnEventList →
      (system.queues program.pxQueue).available program.operation.side ≤
        ((system.queues program.pxQueue).lock program.operation.side).toNat
  covered : ∀ list, Covered (waiting system.kernel list)
    (looking system.kernel system.programs list)
    ((system.queues list.pxQueue).available list.side)
    ((system.queues list.pxQueue).lock list.side).toNat

theorem Supplied.advance (supplied : Supplied system) (controlled : Controlled idle system)
    (next : Option (QueueProgram Q))
    (programs : after.programs =
      Function.update system.programs system.kernel.pxCurrentTCB next)
    (queue : QueueDefinition)
    (queues : after.queues = Function.update system.queues program.pxQueue queue)
    (fits : queue.uxMessagesWaiting ≤ queue.uxLength) (counts : ∀ side, -1 ≤ queue.lock side)
    (own : ∀ moved, next = some moved → moved.pxQueue = program.pxQueue ∧
      (∀ side, moved.point.locks side → queue.lock side ≠ queueUnlocked) ∧
      (moved.point = .placeOnEventList → queue.available moved.operation.side ≤
        (queue.lock moved.operation.side).toNat))
    (sheds : ∀ list task, task ≠ system.kernel.pxCurrentTCB → after.kernel.WaitsFor list task →
      system.kernel.WaitsFor list task)
    (waits : ∀ list, after.kernel.WaitsFor list system.kernel.pxCurrentTCB →
      ∃ moved, next = some moved ∧ moved.list = list ∧ moved.point.rests)
    (covered : ∀ list, Covered (waiting after.kernel list)
      (looking after.kernel after.programs list)
      ((after.queues list.pxQueue).available list.side)
      ((after.queues list.pxQueue).lock list.side).toNat) : Supplied after := by
  have mine : after.programs system.kernel.pxCurrentTCB = next := by
    rw [programs, Function.update_self]
  have others (task : T) (apart : task ≠ system.kernel.pxCurrentTCB) :
      after.programs task = system.programs task := by
    rw [programs, Function.update_of_ne apart]
  have here (moved : QueueProgram Q) (same : moved.pxQueue = program.pxQueue) :
      after.queues moved.pxQueue = queue := by
    rw [same, queues, Function.update_self]
  -- only the running task may have stopped the scheduler
  have alone {task : T} {found : QueueProgram Q} (there : after.programs task = some found)
      (stopped : found.point.stopped) : next = some found := by
    by_cases same : task = system.kernel.pxCurrentTCB
    · exact mine.symm.trans (same ▸ there)
    · have old := (others task same).symm.trans there
      exact absurd (controlled.stopped task found old stopped).1 same
  constructor
  case fits =>
    intro pxQueue
    by_cases same : pxQueue = program.pxQueue
    · rw [same, queues, Function.update_self]
      exact fits
    · rw [queues, Function.update_of_ne same]
      exact supplied.fits pxQueue
  case counts =>
    intro pxQueue side
    by_cases same : pxQueue = program.pxQueue
    · rw [same, queues, Function.update_self]
      exact counts side
    · rw [queues, Function.update_of_ne same]
      exact supplied.counts pxQueue side
  case holds =>
    intro task found side there locks
    obtain ⟨same, locked, -⟩ := own found (alone there (QueuePoint.stopped_of_locks locks))
    rw [here found same]
    exact locked side locks
  case resting =>
    intro list task rests
    by_cases same : task = system.kernel.pxCurrentTCB
    · rw [same, mine]
      exact waits list (same ▸ rests)
    · rw [others task same]
      exact supplied.resting list task (sheds list task same rests)
  case empty =>
    intro task found there place
    obtain ⟨same, -, few⟩ := own found (alone there (place ▸ rfl))
    rw [here found same]
    exact few place
  case covered => exact covered

omit [DecidableEq T] [DecidableEq Q] in
/-- A task that runs in its call does not wait. -/
theorem not_waits_of_ready (kept : Kernel.Kept idle kernel) (ready : kernel.Ready task)
    (list : WaitingList Q) : ¬kernel.WaitsFor list task := by
  intro waits
  rw [Kernel.WaitsFor, (kept.ready_task ready).2.2] at waits
  cases waits

/-- Steps that change neither what there is at the queue nor who waits. -/
theorem Supplied.goOn (supplied : Supplied system) (controlled : Controlled idle system)
    (held : system.programs system.kernel.pxCurrentTCB = some program)
    (next : Option (QueueProgram Q))
    (programs : after.programs =
      Function.update system.programs system.kernel.pxCurrentTCB next)
    (queues : after.queues = system.queues)
    (own : ∀ moved, next = some moved → moved.list = program.list ∧
      (∀ side, moved.point.locks side → program.point.locks side) ∧
      (moved.point = .placeOnEventList →
        (system.queues program.pxQueue).available program.operation.side = 0))
    (sheds : Kernel.Sheds system.kernel after.kernel)
    (rests : ∀ list, system.kernel.WaitsFor list system.kernel.pxCurrentTCB →
      program.point.rests → ∃ moved, next = some moved ∧ moved.point.rests)
    (looks : program.point.looks →
      (system.queues program.pxQueue).available program.operation.side = 0 ∨
        ∃ moved, next = some moved ∧ moved.point.looks) : Supplied after := by
  have same (moved : QueueProgram Q) (there : next = some moved) :
      moved.pxQueue = program.pxQueue ∧ moved.operation.side = program.operation.side :=
    WaitingList.mk.inj (own moved there).1
  refine supplied.advance controlled next programs (system.queues program.pxQueue)
    (queues.trans (Function.update_eq_self ..).symm) (supplied.fits _) (supplied.counts _)
    (fun moved there => ⟨(same moved there).1, fun side locks => ?_, fun place => ?_⟩)
    (fun list task _ => sheds list task) (fun list waits => ?_) fun list => ?_
  · exact supplied.holds _ program side held ((own moved there).2.1 side locks)
  · rw [(same moved there).2, (own moved there).2.2 place]
    exact Nat.zero_le _
  · have before := sheds list _ waits
    obtain ⟨found, there, asks, rest⟩ := supplied.resting list _ before
    obtain rfl := Option.some.inj (held.symm.trans there)
    obtain ⟨moved, later, still⟩ := rests list before rest
    exact ⟨moved, later, (own moved later).1.trans asks, still⟩
  · rw [queues, programs]
    by_cases none_ : (system.queues list.pxQueue).available list.side = 0
    · rw [none_]
      exact Covered.of_none _ _ _
    · refine (supplied.covered list).keep (sheds list) ?_ (Nat.le_refl _)
      refine (looking_of_sheds (sheds list)).trans (looking_update held fun asks look => ?_)
      rcases looks look with zero | ⟨moved, later, still⟩
      · exact absurd (asks ▸ zero) none_
      · exact ⟨moved, later, (own moved later).1.trans asks, still⟩

/-- A call wakes a task that waits for what it leaves. -/
theorem Supplied.covered_call (supplied : Supplied system) (controlled : Controlled idle system)
    (pxQueue : Q) (operation : QueueCall) (caller : Unblocker) (side : QueueSide) :
    Covered (waiting (wakeOne ⟨pxQueue, operation.wakes⟩ caller system.kernel) ⟨pxQueue, side⟩)
      (looking (wakeOne ⟨pxQueue, operation.wakes⟩ caller system.kernel) system.programs
        ⟨pxQueue, side⟩)
      (if side = operation.wakes then (system.queues pxQueue).available side + 1
        else (system.queues pxQueue).available side)
      ((system.queues pxQueue).lock side).toNat := by
  have covered := supplied.covered ⟨pxQueue, side⟩
  have kept := controlled.steady.toKept
  split
  next same =>
    subst same
    exact covered_wakeOne kept supplied.resting covered caller
  next =>
    have sheds := sheds_wakeOne kept ⟨pxQueue, operation.wakes⟩ caller
    exact covered.keep (sheds _) (looking_of_sheds (sheds _)) (Nat.le_refl _)

theorem Supplied.loopTop (supplied : Supplied system) (controlled : Controlled idle system)
    (held : system.programs system.kernel.pxCurrentTCB = some program)
    (ready : system.kernel.Ready system.kernel.pxCurrentTCB) :
    Supplied (system.loopTop system.kernel.pxCurrentTCB program) := by
  have kept := controlled.steady.toKept
  have awake := not_waits_of_ready kept ready
  have failed (next : Option (QueueProgram Q)) {after : QueueSystem T Q}
      (programs : after.programs =
        Function.update system.programs system.kernel.pxCurrentTCB next)
      (queues : after.queues = system.queues) (kernel : after.kernel = system.kernel)
      (own : ∀ moved, next = some moved → moved.list = program.list ∧ moved.point = .suspendAll)
      (none_ : ((system.queues program.pxQueue).call program.operation).1.passed = false) :
      Supplied after := by
    refine supplied.goOn controlled held next programs queues
      (fun moved there => ⟨(own moved there).1, fun side locks => ?_, fun place => ?_⟩)
      (kernel ▸ Kernel.sheds_refl _) (fun list waits _ => absurd waits (awake list))
      fun _ => .inl (QueueDefinition.available_of_failed none_)
    · rw [(own moved there).2] at locks
      cases locks
    · rw [(own moved there).2] at place
      cases place
  rw [QueueSystem.loopTop]
  split
  next passed =>
    obtain ⟨fits, available⟩ :=
      QueueDefinition.available_of_passed (supplied.fits program.pxQueue) passed
    have sheds := sheds_wakeOne kept ⟨program.pxQueue, program.operation.wakes⟩ .task
    refine supplied.advance controlled none rfl _ rfl fits
      (fun side => (QueueDefinition.call_lock _ _ side).symm ▸ supplied.counts _ side) (by simp)
      (fun list task _ => sheds list task)
      (fun list waits => absurd (sheds list _ waits) (awake list)) fun list => ?_
    by_cases same : list.pxQueue = program.pxQueue
    · obtain ⟨pxQueue, side⟩ := list
      dsimp only at same
      subst same
      have woken := supplied.covered_call controlled program.pxQueue program.operation .task
        side
      dsimp only [setQueue, QueueSystem.finish]
      rw [Function.update_self, QueueDefinition.call_lock]
      by_cases own : side = program.operation.side
      · have few := available side
        rw [if_pos own] at few
        exact (woken.leave subset_rfl _ (looking_erase _ none)).keep subset_rfl subset_rfl
          (Nat.add_le_add_right few _)
      · have few := available side
        rw [if_neg own] at few
        refine woken.keep subset_rfl (looking_update held fun asks _ => ?_)
          (Nat.add_le_add_right few _)
        exact absurd (congrArg WaitingList.side asks).symm own
    · dsimp only [setQueue, QueueSystem.finish]
      rw [Function.update_of_ne same]
      refine (supplied.covered list).keep (sheds list) ?_ (Nat.le_refl _)
      refine (looking_of_sheds (sheds list)).trans (looking_update held fun asks _ => ?_)
      exact absurd (congrArg WaitingList.pxQueue asks).symm same
  next waits =>
    have none_ := Bool.eq_false_iff.mpr waits
    split
    next => exact failed none rfl rfl rfl (by simp) none_
    next =>
      refine failed (some _) rfl rfl rfl (fun moved there => ?_) none_
      cases there
      exact ⟨rfl, rfl⟩

theorem sheds_resumed (kept : Kernel.Kept idle kernel) :
    Kernel.Sheds kernel (if kernel.xTaskResumeAll.1 then kernel.xTaskResumeAll.2
      else kernel.xTaskResumeAll.2.portYield) := by
  split
  next => exact kept.sheds_resumeAll
  next => exact kept.sheds_resumeAll

theorem toNat_lock_prvLockQueue (queue : QueueDefinition) (side : QueueSide) :
    (queue.prvLockQueue.lock side).toNat = (queue.lock side).toNat ∧
      (-1 ≤ queue.lock side → -1 ≤ queue.prvLockQueue.lock side) ∧
      queue.prvLockQueue.lock side ≠ queueUnlocked := by
  have locked (lock : Int) :
      (if lock = queueUnlocked then queueLockedUnmodified else lock).toNat = lock.toNat ∧
        (-1 ≤ lock → -1 ≤ if lock = queueUnlocked then queueLockedUnmodified else lock) ∧
        (if lock = queueUnlocked then queueLockedUnmodified else lock) ≠ queueUnlocked := by
    split
    next same =>
      subst same
      decide
    next other => exact ⟨rfl, id, other⟩
  cases side with
  | xTasksWaitingToSend => exact locked queue.xRxLock
  | xTasksWaitingToReceive => exact locked queue.xTxLock

theorem Supplied.lockQueue (supplied : Supplied system) (controlled : Controlled idle system)
    (held : system.programs system.kernel.pxCurrentTCB = some program)
    (point : program.point = .lockQueue) :
    Supplied (system.taskStep system.kernel.pxCurrentTCB program) := by
  have locked := toNat_lock_prvLockQueue (system.queues program.pxQueue)
  rw [taskStep, point]
  refine supplied.advance controlled (some _) rfl _ rfl (supplied.fits program.pxQueue)
    (fun side => (locked side).2.1 (supplied.counts _ side)) ?_ (fun _ _ _ waits => waits)
    (fun list waits => ?_) fun list => ?_
  · rintro moved ⟨⟩
    exact ⟨rfl, fun side _ => (locked side).2.2, (by simp)⟩
  · obtain ⟨found, there, -, rest⟩ := supplied.resting list _ waits
    obtain rfl := Option.some.inj (held.symm.trans there)
    rw [point] at rest
    cases rest
  · have covered := supplied.covered list
    have looks : looking system.kernel system.programs list ⊆ looking system.kernel
        (Function.update system.programs system.kernel.pxCurrentTCB
          (some { program with point := .checkForTimeOut })) list :=
      looking_update held fun _ looks => absurd looks (by simp [point, QueuePoint.looks])
    by_cases same : list.pxQueue = program.pxQueue
    · obtain ⟨pxQueue, side⟩ := list
      dsimp only at same
      subst same
      dsimp only [QueueSystem.goOn, setQueue]
      rw [Function.update_self, (locked side).1]
      have available : (system.queues program.pxQueue).prvLockQueue.available side =
          (system.queues program.pxQueue).available side := by
        cases side <;> rfl
      exact covered.keep subset_rfl looks (available ▸ Nat.le_refl _)
    · dsimp only [QueueSystem.goOn, setQueue]
      rw [Function.update_of_ne same]
      exact covered.keep subset_rfl looks (Nat.le_refl _)

/-- The task comes to wait, and is owed a wake-up for what has come in the meantime. -/
theorem Supplied.placeOnEventList (supplied : Supplied system) (controlled : Controlled idle system)
    (held : system.programs system.kernel.pxCurrentTCB = some program)
    (point : program.point = .placeOnEventList) :
    Supplied (system.taskStep system.kernel.pxCurrentTCB program) := by
  have kept := controlled.steady.toKept
  have ready := controlled.ready _ _ held (point ▸ rfl)
  have empty := supplied.empty _ _ held point
  obtain ⟨-, only⟩ := kept.waits_place ready program.list program.xTicksToWait
  rw [taskStep, point]
  refine supplied.advance controlled (some _) rfl (system.queues program.pxQueue)
    (Function.update_eq_self ..).symm (supplied.fits _) (supplied.counts _) ?_
    (fun list task apart waits => ?_) (fun list waits => ?_) fun list => ?_
  · rintro moved ⟨⟩
    exact ⟨rfl, fun side _ => supplied.holds _ _ side held (point ▸ rfl), by simp⟩
  · exact (only list task waits).resolve_right fun same => apart same.1
  · refine ⟨_, rfl, ?_, rfl⟩
    rcases only list _ waits with before | ⟨-, same⟩
    · exact absurd before (not_waits_of_ready kept ready list)
    · exact same.symm
  · by_cases same : list = program.list
    · subst same
      exact Covered.of_credit _ _ empty
    · have sheds (task : T) (waits : (system.kernel.vTaskPlaceOnEventList program.list
          program.xTicksToWait).WaitsFor list task) : system.kernel.WaitsFor list task :=
        (only list task waits).resolve_right fun placed => same placed.2
      refine (supplied.covered list).keep sheds ?_ (Nat.le_refl _)
      exact (looking_of_sheds sheds).trans (looking_update held fun asks => absurd asks.symm same)

theorem Supplied.unlock (supplied : Supplied system) (controlled : Controlled idle system)
    (held : system.programs system.kernel.pxCurrentTCB = some program) (side : QueueSide)
    {moved : QueueProgram Q} {queue : QueueDefinition}
    (kernel : after.kernel = unlockLoop ⟨program.pxQueue, side⟩
      ((system.queues program.pxQueue).lock side).toNat system.kernel)
    (programs : after.programs =
      Function.update system.programs system.kernel.pxCurrentTCB (some moved))
    (queues : after.queues = Function.update system.queues program.pxQueue queue)
    (waiting_ : queue.uxMessagesWaiting = (system.queues program.pxQueue).uxMessagesWaiting)
    (length : queue.uxLength = (system.queues program.pxQueue).uxLength)
    (open_ : queue.lock side = queueUnlocked)
    (still : ∀ other, other ≠ side → queue.lock other = (system.queues program.pxQueue).lock other)
    (list_ : moved.list = program.list) (looks : moved.point.looks = program.point.looks)
    (rests : moved.point.rests = program.point.rests)
    (place : moved.point ≠ .placeOnEventList)
    (locks : ∀ other, moved.point.locks other → program.point.locks other ∧ other ≠ side) :
    Supplied after := by
  have running := controlled.running _ _ held
  obtain ⟨sheds, covered⟩ := covered_unlockLoop controlled.steady running supplied.resting
    (supplied.covered ⟨program.pxQueue, side⟩)
  rw [← kernel] at sheds covered
  have available (other : QueueSide) :
      queue.available other = (system.queues program.pxQueue).available other := by
    cases other <;> simp only [QueueDefinition.available, waiting_, length]
  refine supplied.advance controlled (some moved) programs queue queues
    (waiting_ ▸ length ▸ supplied.fits _) (fun other => ?_) ?_ (fun list task _ => sheds list task)
    (fun list waits => ?_) fun list => ?_
  · by_cases same : other = side
    · rw [same, open_]
      decide
    · rw [still other same]
      exact supplied.counts _ other
  · rintro moved ⟨⟩
    refine ⟨(WaitingList.mk.inj list_).1, fun other lock => ?_, fun there => absurd there place⟩
    obtain ⟨before, apart⟩ := locks other lock
    rw [still other apart]
    exact supplied.holds _ _ other held before
  · obtain ⟨found, there, asks, rest⟩ := supplied.resting list _ (sheds list _ waits)
    obtain rfl := Option.some.inj (held.symm.trans there)
    exact ⟨moved, rfl, list_.trans asks, rests.trans rest⟩
  · have look {kernel : Kernel T (WaitingList Q)} : looking kernel system.programs list ⊆
        looking kernel after.programs list :=
      programs ▸ looking_update held fun asks look =>
        ⟨moved, rfl, list_.trans asks, looks.trans look⟩
    rw [queues]
    by_cases same : list.pxQueue = program.pxQueue
    · obtain ⟨pxQueue, other⟩ := list
      dsimp only at same
      subst same
      dsimp only
      rw [Function.update_self, available]
      by_cases this : other = side
      · subst this
        exact covered.keep subset_rfl look (Nat.add_le_add_left (Nat.zero_le _) _)
      · rw [still other this]
        exact (supplied.covered ⟨program.pxQueue, other⟩).keep (sheds _)
          ((looking_of_sheds (sheds _)).trans look) (Nat.le_refl _)
    · rw [Function.update_of_ne same]
      exact (supplied.covered list).keep (sheds _) ((looking_of_sheds (sheds _)).trans look)
        (Nat.le_refl _)

theorem Supplied.taskStep (supplied : Supplied system) (controlled : Controlled idle system)
    (held : system.programs system.kernel.pxCurrentTCB = some program)
    (ready : program.point.stopped = false → system.kernel.Ready system.kernel.pxCurrentTCB) :
    Supplied (system.taskStep system.kernel.pxCurrentTCB program) := by
  have kept := controlled.steady.toKept
  have still := Kernel.sheds_refl system.kernel
  cases point : program.point with
  | loop =>
      rw [QueueSystem.taskStep, point]
      exact supplied.loopTop controlled held (ready (point ▸ rfl))
  | suspendAll =>
      rw [QueueSystem.taskStep, point]
      refine supplied.goOn controlled held (some _) rfl rfl ?_ still ?_ ?_
      · rintro moved ⟨⟩
        exact ⟨rfl, by simp [QueuePoint.locks], by simp⟩
      · simp [point, QueuePoint.rests]
      · simp [point, QueuePoint.looks]
  | lockQueue => exact supplied.lockQueue controlled held point
  | checkForTimeOut =>
      rw [QueueSystem.taskStep, point]
      refine supplied.goOn controlled held (some _) rfl rfl ?_ still ?_ ?_
      · rintro moved ⟨⟩
        refine ⟨rfl, fun side _ => point ▸ rfl, fun place => ?_⟩
        dsimp only at place
        split at place <;> cases place
      · simp [point, QueuePoint.rests]
      · simp [point, QueuePoint.looks]
  | checkQueue =>
      rw [QueueSystem.taskStep, point]
      refine supplied.goOn controlled held (some _) rfl rfl ?_ still ?_ ?_
      · rintro moved ⟨⟩
        refine ⟨rfl, fun side _ => point ▸ rfl, fun place => ?_⟩
        dsimp only at place
        split at place
        next waits => exact QueueDefinition.available_of_hasToWait waits
        next => cases place
      · simp [point, QueuePoint.rests]
      · simp [point, QueuePoint.looks]
  | placeOnEventList => exact supplied.placeOnEventList controlled held point
  | unlockTx outcome =>
      rw [QueueSystem.taskStep, point]
      refine supplied.unlock controlled held .xTasksWaitingToReceive rfl rfl rfl rfl rfl rfl
        (fun other apart => ?_) rfl (point ▸ rfl) (point ▸ rfl) (by simp) fun other locks => ?_
      · cases other with
        | xTasksWaitingToSend => rfl
        | xTasksWaitingToReceive => exact absurd rfl apart
      · cases other with
        | xTasksWaitingToSend => exact ⟨point ▸ rfl, by simp⟩
        | xTasksWaitingToReceive => cases locks
  | unlockRx outcome =>
      rw [QueueSystem.taskStep, point]
      refine supplied.unlock controlled held .xTasksWaitingToSend rfl rfl rfl rfl rfl rfl
        (fun other apart => ?_) rfl (point ▸ rfl) (point ▸ rfl)
        (by simp) (by simp [QueuePoint.locks])
      cases other with
      | xTasksWaitingToSend => exact absurd rfl apart
      | xTasksWaitingToReceive => rfl
  | resumeAll outcome =>
      rw [QueueSystem.taskStep, point]
      have resumed := kept.sheds_resumeAll
      cases outcome with
      | blocked =>
          refine supplied.goOn controlled held (some _) rfl rfl ?_ (sheds_resumed kept) ?_ ?_
          · rintro moved ⟨⟩
            exact ⟨rfl, by simp [QueuePoint.locks], by simp⟩
          · exact fun _ _ _ => ⟨_, rfl, rfl⟩
          · exact fun _ => .inr ⟨_, rfl, rfl⟩
      | again =>
          refine supplied.goOn controlled held (some _) rfl rfl ?_ resumed ?_ ?_
          · rintro moved ⟨⟩
            exact ⟨rfl, by simp [QueuePoint.locks], by simp⟩
          · exact fun _ _ _ => ⟨_, rfl, rfl⟩
          · exact fun _ => .inr ⟨_, rfl, rfl⟩
      | expired =>
          refine supplied.goOn controlled held none rfl rfl (by simp) resumed ?_ ?_
          · simp [point, QueuePoint.rests]
          · simp [point, QueuePoint.looks]

omit [DecidableEq T] in
theorem Supplied.interrupt (supplied : Supplied system) {pxQueue : Q} {queue : QueueDefinition}
    (programs : after.programs = system.programs)
    (queues : after.queues = Function.update system.queues pxQueue queue)
    (sheds : Kernel.Sheds system.kernel after.kernel)
    (fits : queue.uxMessagesWaiting ≤ queue.uxLength) (counts : ∀ side, -1 ≤ queue.lock side)
    (locked : ∀ side, (system.queues pxQueue).lock side ≠ queueUnlocked →
      queue.lock side ≠ queueUnlocked)
    (owed : (∀ side, (system.queues pxQueue).lock side ≠ queueUnlocked) → ∀ side,
      queue.available side + ((system.queues pxQueue).lock side).toNat ≤
        (system.queues pxQueue).available side + (queue.lock side).toNat)
    (covered : ∀ side, Covered (waiting after.kernel ⟨pxQueue, side⟩)
      (looking after.kernel system.programs ⟨pxQueue, side⟩) (queue.available side)
      (queue.lock side).toNat) : Supplied after := by
  constructor
  case fits =>
    intro other
    by_cases same : other = pxQueue
    · rw [same, queues, Function.update_self]
      exact fits
    · rw [queues, Function.update_of_ne same]
      exact supplied.fits other
  case counts =>
    intro other side
    by_cases same : other = pxQueue
    · rw [same, queues, Function.update_self]
      exact counts side
    · rw [queues, Function.update_of_ne same]
      exact supplied.counts other side
  case holds =>
    intro task program side there locks
    rw [programs] at there
    have before := supplied.holds task program side there locks
    by_cases same : program.pxQueue = pxQueue
    · rw [same] at before ⊢
      rw [queues, Function.update_self]
      exact locked side before
    · rwa [queues, Function.update_of_ne same]
  case resting => exact programs ▸ supplied.resting.sheds sheds
  case empty =>
    intro task program there place
    rw [programs] at there
    have before := supplied.empty task program there place
    by_cases same : program.pxQueue = pxQueue
    · have holds (side : QueueSide) := supplied.holds task program side there (place ▸ rfl)
      rw [same] at before holds ⊢
      rw [queues, Function.update_self]
      have more := owed holds program.operation.side
      omega
    · rwa [queues, Function.update_of_ne same]
  case covered =>
    intro list
    rw [queues, programs]
    by_cases same : list.pxQueue = pxQueue
    · obtain ⟨other, side⟩ := list
      dsimp only at same
      subst same
      rw [Function.update_self]
      exact covered side
    · rw [Function.update_of_ne same]
      exact (supplied.covered list).keep (sheds list) (looking_of_sheds (sheds list))
        (Nat.le_refl _)

/-- An interrupt moves a message of a queue that is not locked. -/
theorem Supplied.wakeFromISR (supplied : Supplied system) (controlled : Controlled idle system)
    (pxQueue : Q) (operation : QueueCall) (isrcount : Nat)
    (passed : ((system.queues pxQueue).call operation).1.passed = true)
    (free : (system.queues pxQueue).lock operation.wakes = queueUnlocked) :
    Supplied { system with
      kernel := wakeOne ⟨pxQueue, operation.wakes⟩ (.isr isrcount) system.kernel
      queues := Function.update system.queues pxQueue
        ((system.queues pxQueue).call operation).2 } := by
  obtain ⟨fits, available⟩ := QueueDefinition.available_of_passed (supplied.fits pxQueue) passed
  have lock := (system.queues pxQueue).call_lock operation
  have sheds := sheds_wakeOne controlled.steady.toKept ⟨pxQueue, operation.wakes⟩ (.isr isrcount)
  refine supplied.interrupt rfl rfl sheds fits (fun side => lock side ▸ supplied.counts _ side)
    (fun side locked => lock side ▸ locked) (fun holds => absurd free (holds _)) fun side => ?_
  rw [lock side]
  refine (supplied.covered_call controlled pxQueue operation (.isr isrcount) side).keep subset_rfl
    subset_rfl (Nat.add_le_add_right ?_ _)
  exact (available side).trans (Nat.sub_le _ _)

omit [DecidableEq T] in
/-- The lock counts the message, and a task is woken for it when the lock is opened. -/
theorem Supplied.countFromISR (supplied : Supplied system) {pxQueue : Q} {operation : QueueCall}
    {queue : QueueDefinition}
    (passed : ((system.queues pxQueue).call operation).1.passed = true)
    (locked : (system.queues pxQueue).lock operation.wakes ≠ queueUnlocked)
    (waiting_ : queue.uxMessagesWaiting =
      ((system.queues pxQueue).call operation).2.uxMessagesWaiting)
    (length : queue.uxLength = ((system.queues pxQueue).call operation).2.uxLength)
    (lock : ∀ side, queue.lock side = if side = operation.wakes then
      (system.queues pxQueue).lock side + 1 else (system.queues pxQueue).lock side) :
    Supplied { system with queues := Function.update system.queues pxQueue queue } := by
  obtain ⟨fits, available⟩ := QueueDefinition.available_of_passed (supplied.fits pxQueue) passed
  have counts := supplied.counts pxQueue
  have few (side : QueueSide) : queue.available side + ((system.queues pxQueue).lock side).toNat ≤
      (system.queues pxQueue).available side + (queue.lock side).toNat := by
    have same : queue.available side =
        ((system.queues pxQueue).call operation).2.available side := by
      cases side <;> simp only [QueueDefinition.available, waiting_, length]
    have less := available side
    have low := counts side
    rw [same, lock side]
    split
    next this =>
      subst this
      rw [if_pos rfl] at less
      have positive : 0 ≤ (system.queues pxQueue).lock operation.wakes := by
        rw [queueUnlocked] at locked
        omega
      omega
    next other =>
      rw [if_neg other] at less
      omega
  refine supplied.interrupt rfl rfl (Kernel.sheds_refl _) (waiting_ ▸ length ▸ fits)
    (fun side => ?_) (fun side held => ?_) (fun _ => few) fun side => ?_
  · rw [lock side]
    have low := counts side
    split <;> omega
  · rw [lock side]
    have low := counts side
    rw [queueUnlocked] at held ⊢
    split <;> omega
  · exact (supplied.covered ⟨pxQueue, side⟩).keep subset_rfl subset_rfl (few side)

omit [DecidableEq Q] in
theorem Supplied.call (supplied : Supplied system)
    (none_ : system.programs system.kernel.pxCurrentTCB = none) (point : program.point = .loop) :
    Supplied (system.goOn system.kernel.pxCurrentTCB program) := by
  have cases_ {task : T} {found : QueueProgram Q}
      (there : Function.update system.programs system.kernel.pxCurrentTCB (some program) task =
        some found) : found.point = .loop ∨ system.programs task = some found := by
    by_cases same : task = system.kernel.pxCurrentTCB
    · rw [same, Function.update_self] at there
      exact .inl (Option.some.inj there ▸ point)
    · rw [Function.update_of_ne same] at there
      exact .inr there
  have others {task : T} {found : QueueProgram Q} (there : system.programs task = some found) :
      Function.update system.programs system.kernel.pxCurrentTCB (some program) task =
        some found := by
    rwa [Function.update_of_ne]
    rintro rfl
    cases none_.symm.trans there
  constructor
  case fits => exact supplied.fits
  case counts => exact supplied.counts
  case holds =>
    intro task found side there locks
    rcases cases_ there with start | old
    · rw [start] at locks
      cases locks
    · exact supplied.holds task found side old locks
  case resting =>
    intro list task waits
    obtain ⟨found, there, rest⟩ := supplied.resting list task waits
    exact ⟨found, others there, rest⟩
  case empty =>
    intro task found there place
    rcases cases_ there with start | old
    · cases start.symm.trans place
    · exact supplied.empty task found old place
  case covered =>
    intro list
    refine (supplied.covered list).keep subset_rfl ?_ (Nat.le_refl _)
    rintro task ⟨free, found, there, looks⟩
    exact ⟨free, found, others there, looks⟩

theorem Supplied.step (supplied : Supplied system) (controlled : Controlled idle system)
    {event : QueueEvent T Q} (allowed : system.Allowed idle event) :
    Supplied (system.step event) := by
  cases event with
  | call pxQueue operation ticks =>
      exact supplied.call allowed.2.2.2 rfl
  | proceed =>
      obtain ⟨-, -, ready⟩ := allowed
      rw [QueueSystem.step]
      split
      next => exact supplied
      next program held => exact supplied.taskStep controlled held (ready program held)
  | sendFromISR pxQueue item position isrcount =>
      rw [QueueSystem.step, xQueueGenericSendFromISR]
      split
      next passed =>
        have same := (system.queues pxQueue).call_lock (.send item position)
        split
        next free =>
          exact supplied.wakeFromISR controlled pxQueue (.send item position) isrcount passed
            ((same .xTasksWaitingToReceive).symm.trans free)
        next locked =>
          refine supplied.countFromISR passed
            (fun free => locked ((same .xTasksWaitingToReceive).trans free)) rfl rfl fun side => ?_
          cases side with
          | xTasksWaitingToReceive => exact congrArg (· + 1) (same .xTasksWaitingToReceive)
          | xTasksWaitingToSend => exact same .xTasksWaitingToSend
      next => exact supplied
  | receiveFromISR pxQueue isrcount =>
      rw [QueueSystem.step, xQueueReceiveFromISR]
      split
      next passed =>
        have same := (system.queues pxQueue).call_lock .receive
        split
        next free =>
          exact supplied.wakeFromISR controlled pxQueue .receive isrcount passed
            ((same .xTasksWaitingToSend).symm.trans free)
        next locked =>
          refine supplied.countFromISR passed
            (fun free => locked ((same .xTasksWaitingToSend).trans free)) rfl rfl fun side => ?_
          cases side with
          | xTasksWaitingToReceive => exact same .xTasksWaitingToReceive
          | xTasksWaitingToSend => exact congrArg (· + 1) (same .xTasksWaitingToSend)
      next => exact supplied
  | other event =>
      have places : Kernel.PlacesNone event := by
        cases event with
        | vTaskPlaceOnEventList list ticks => exact allowed.2.elim
        | vTaskPlaceOnEventListRestricted list ticks => exact allowed.2.elim
        | _ => trivial
      have sheds := controlled.steady.toKept.sheds_step allowed.1 places
      exact { supplied with
        resting := supplied.resting.sheds sheds
        covered := fun list => (supplied.covered list).keep (sheds list)
          (looking_of_sheds (sheds list)) (Nat.le_refl _) }

/-! Runs. -/

theorem supplied_created (idle task : T) (priority : Nat) {queues : Q → QueueDefinition}
    (fresh : Fresh queues) : Supplied (created task priority queues) := by
  have nobody (list : WaitingList Q) (other : T) :
      ¬(Kernel.firstCreated task priority : Kernel T (WaitingList Q)).WaitsFor list other := by
    have absent : (Kernel.unstarted task : Kernel T (WaitingList Q)).Absent task := ⟨rfl, rfl⟩
    have there := Kernel.xTaskGenericCreate_moved (Kernel.kept_unstarted idle task).sound absent
      priority
    have sheds := there.sheds nofun
    exact fun waits => nomatch sheds list other waits
  constructor
  case fits =>
    intro pxQueue
    obtain ⟨storage, start, length, size, -, -, made⟩ := fresh pxQueue
    change (queues pxQueue).uxMessagesWaiting ≤ (queues pxQueue).uxLength
    rw [made]
    exact Nat.zero_le _
  case counts => exact fun pxQueue side => (fresh.lock pxQueue side).ge
  case holds => nofun
  case resting => exact fun list other waits => absurd waits (nobody list other)
  case empty => nofun
  case covered => exact fun list => .inl (Set.eq_empty_iff_forall_notMem.mpr (nobody list))

theorem Reached.supplied (reached : Reached idle system) : Supplied system := by
  obtain ⟨task, priority, queues, events, fresh, allowed, rfl⟩ := reached
  have run {system : QueueSystem T Q} {events : List (QueueEvent T Q)}
      (controlled : Controlled idle system) (supplied : Supplied system)
      (allowed : Along QueueSystem.step (Allowed idle) system events) :
      Supplied (events.foldl QueueSystem.step system) := by
    induction events generalizing system with
    | nil => exact supplied
    | cons next rest ih =>
        exact ih (controlled.step allowed.1).1 (supplied.step controlled allowed.1) allowed.2
  exact run (controlled_created idle task priority fresh)
    (supplied_created idle task priority fresh)
    allowed

def twoReceivers : List (QueueEvent Nat Unit) :=
  let receives := .call () .receive 5 :: List.replicate 9 .proceed
  .other (.xTaskGenericCreate 3 2) :: .other (.vTaskStartScheduler 8 9) ::
    (receives ++ .other .pendSV :: (receives ++ [.other .pendSV, .sendFromISR () (fun _ => 7) 0 1]))

def twoReceiversSample : QueueSystem Nat Unit :=
  twoReceivers.foldl QueueSystem.step (created 1 2 fun _ => .xQueueCreateExt (fun _ => 0) 4 2 1)

theorem reached_twoReceiversSample : Reached 8 twoReceiversSample := by
  have allowed : Along QueueSystem.step (Allowed 8)
      (created 1 2 fun _ => .xQueueCreateExt (fun _ => 0) 4 2 1) twoReceivers := by
    decide +kernel
  exact ⟨1, 2, _, twoReceivers, fun _ => ⟨_, _, _, _, by decide, by decide, rfl⟩, allowed, rfl⟩

def receiversSample : WaitingList Unit := ⟨(), .xTasksWaitingToReceive⟩

end QueueSystem

end SmartMeter
