import SmartMeter.Kernel.QueueSystem

/-! A queue is locked by one task, which has stopped the scheduler. -/

namespace SmartMeter

open Runs

/-- The lock that counts what interrupts do to the messages the tasks of the list wait for. -/
def QueueDefinition.lock (queue : QueueDefinition) : QueueSide → Int
  | .xTasksWaitingToReceive => queue.xTxLock
  | .xTasksWaitingToSend => queue.xRxLock

namespace QueueDefinition

theorem prvCopyDataToQueue_lock (queue : QueueDefinition) (item : Nat → UInt8) (position : Int)
    (side : QueueSide) : (queue.prvCopyDataToQueue item position).lock side = queue.lock side := by
  rw [prvCopyDataToQueue]
  split
  next => cases side <;> rfl
  next =>
    split
    next => cases side <;> rfl
    next => cases side <;> rfl

theorem call_lock (queue : QueueDefinition) (operation : QueueCall) (side : QueueSide) :
    (queue.call operation).2.lock side = queue.lock side := by
  cases operation with
  | send item position =>
      rw [call, sendNow]
      split
      next => exact queue.prvCopyDataToQueue_lock item position side
      next => rfl
  | receive =>
      rw [call, receiveNow]
      split
      next => cases side <;> rfl
      next => rfl
  | peek =>
      rw [call, receiveNow]
      split
      next => cases side <;> rfl
      next => rfl

end QueueDefinition

namespace QueuePoint

def before : QueuePoint → Bool
  | .lockQueue | .checkForTimeOut | .checkQueue | .placeOnEventList => true
  | _ => false

def tries : QueuePoint → Bool
  | .suspendAll | .lockQueue | .checkForTimeOut | .checkQueue | .placeOnEventList => true
  | _ => false

def locks : QueuePoint → QueueSide → Bool
  | .checkForTimeOut, _ | .checkQueue, _ | .placeOnEventList, _ | .unlockTx _, _ => true
  | .unlockRx _, .xTasksWaitingToSend => true
  | _, _ => false

theorem stopped_of_before {point : QueuePoint} (before : point.before = true) :
    point.stopped = true := by
  cases point with
  | loop => cases before
  | suspendAll => cases before
  | _ => rfl

theorem stopped_of_locks {point : QueuePoint} {side : QueueSide} (locks : point.locks side = true) :
    point.stopped = true := by
  cases point with
  | loop => cases locks
  | suspendAll => cases locks
  | _ => rfl

end QueuePoint

namespace Kernel

variable {T E : Type} {kernel after : Kernel T E} {idle : T}

theorem unblockedBy_current (caller : Unblocker) (result : Bool × Kernel T E) :
    (unblockedBy caller result).pxCurrentTCB = result.2.pxCurrentTCB ∧
      (unblockedBy caller result).uxSchedulerSuspended = result.2.uxSchedulerSuspended := by
  unfold unblockedBy
  split
  next =>
    cases caller with
    | task => exact ⟨rfl, rfl⟩
    | unlockQueue => exact ⟨rfl, rfl⟩
    | isr isrcount =>
        dsimp only
        split <;> exact ⟨rfl, rfl⟩
  next => exact ⟨rfl, rfl⟩

variable [DecidableEq T] [DecidableEq E] {moved : Kernel T E}

def Leads (idle : T) (kernel after : Kernel T E) : Prop :=
  ∃ events, Along Kernel.step (Allowed idle) kernel events ∧ events.foldl Kernel.step kernel = after

theorem leads_refl (idle : T) (kernel : Kernel T E) : Leads idle kernel kernel := ⟨[], trivial, rfl⟩

theorem leads_step {next : KernelEvent T E} (allowed : kernel.Allowed idle next) :
    Leads idle kernel (kernel.step next) :=
  ⟨[next], ⟨allowed, trivial⟩, rfl⟩

theorem Leads.trans (first : Leads idle kernel moved) (second : Leads idle moved after) :
    Leads idle kernel after := by
  obtain ⟨before, allowed, rfl⟩ := first
  obtain ⟨later, still, rfl⟩ := second
  exact ⟨before ++ later, (along_append kernel before later).mpr ⟨allowed, still⟩,
    List.foldl_append ..⟩

theorem Steady.leads (steady : Steady idle kernel) (leads : Leads idle kernel after) :
    Steady idle after := by
  obtain ⟨events, allowed, rfl⟩ := leads
  exact steady.run allowed

/-- A kernel that runs goes on running, and its clock does not go back. -/
theorem Steady.later (steady : Steady idle kernel) (running : kernel.xSchedulerRunning)
    (leads : Leads idle kernel after) : after.xSchedulerRunning ∧ kernel.now ≤ after.now := by
  obtain ⟨events, allowed, rfl⟩ := leads
  induction events generalizing kernel with
  | nil => exact ⟨running, Nat.le_refl _⟩
  | cons next rest ih =>
      have follows := steady.step_follows steady.timed running allowed.1
      obtain ⟨still, later⟩ := ih (steady.step allowed.1) (follows.running.trans running) allowed.2
      exact ⟨still, follows.later.trans later⟩

structure GoesOn (idle : T) (kernel after : Kernel T E) : Prop where
  leads : Leads idle kernel after
  current : after.pxCurrentTCB = kernel.pxCurrentTCB

theorem goesOn_refl (idle : T) (kernel : Kernel T E) : GoesOn idle kernel kernel :=
  ⟨leads_refl idle kernel, rfl⟩

theorem GoesOn.trans (first : GoesOn idle kernel moved) (second : GoesOn idle moved after) :
    GoesOn idle kernel after :=
  ⟨first.leads.trans second.leads, second.current.trans first.current⟩

theorem goesOn_wake (idle : T) (running : kernel.xSchedulerRunning) (event : E)
    (caller : Unblocker) :
    GoesOn idle kernel (kernel.step (.xTaskRemoveFromEventList event caller)) ∧
      (kernel.step (.xTaskRemoveFromEventList event caller)).uxSchedulerSuspended =
        kernel.uxSchedulerSuspended := by
  have allowed : kernel.Allowed idle (.xTaskRemoveFromEventList event caller) := running
  have quiet := quiet_removeFromEventList kernel event
  obtain ⟨current, same⟩ := unblockedBy_current caller (kernel.xTaskRemoveFromEventList event)
  exact ⟨⟨leads_step allowed, current.trans quiet.current⟩, same.trans quiet.suspended⟩

theorem goesOn_place {event : E} {ticks : UInt32}
    (allowed : kernel.Allowed idle (.vTaskPlaceOnEventList event ticks)) :
    GoesOn idle kernel (kernel.step (.vTaskPlaceOnEventList event ticks)) ∧
      (kernel.step (.vTaskPlaceOnEventList event ticks)).uxSchedulerSuspended =
        kernel.uxSchedulerSuspended := by
  have same : (kernel.vTaskPlaceOnEventList event ticks).pxCurrentTCB = kernel.pxCurrentTCB ∧
      (kernel.vTaskPlaceOnEventList event ticks).uxSchedulerSuspended =
        kernel.uxSchedulerSuspended := by
    rw [vTaskPlaceOnEventList]
    split
    next => exact ⟨rfl, rfl⟩
    next =>
      have quiet := quiet_delayCurrent
        (kernel.vListInsert (.pxEventList event) (.xEventListItem kernel.pxCurrentTCB)) ticks
      exact ⟨quiet.current, quiet.suspended⟩
  exact ⟨⟨leads_step allowed, same.1⟩, same.2⟩

theorem resumeAll_current (kernel : Kernel T E) :
    kernel.xTaskResumeAll.2.pxCurrentTCB = kernel.pxCurrentTCB := by
  rw [xTaskResumeAll]
  dsimp only
  split
  next =>
    generalize lowering : { kernel with uxSchedulerSuspended := kernel.uxSchedulerSuspended - 1 } =
      lowered
    have start : lowered.pxCurrentTCB = kernel.pxCurrentTCB := lowering ▸ rfl
    have moved :=
      quiet_movePendingLoop lowered ((lowered.items .xPendingReadyList).length + 1) false
    have replayed := quiet_replayLoop lowered.movePending.2
      lowered.movePending.2.uxMissedTicks.toNat
    have whole := (moved.trans replayed).current.trans start
    rw [resumed]
    split
    next => exact whole
    next => exact whole
  next => rfl

theorem goesOn_resumeAll (running : kernel.xSchedulerRunning)
    (suspended : kernel.uxSchedulerSuspended ≠ 0) :
    GoesOn idle kernel (kernel.step .xTaskResumeAll) := by
  have allowed : kernel.Allowed idle .xTaskResumeAll := ⟨running, suspended⟩
  exact ⟨leads_step allowed, kernel.resumeAll_current⟩

end Kernel

variable {T Q : Type} [DecidableEq T] [DecidableEq Q]

namespace QueueSystem

variable {system after : QueueSystem T Q} {idle : T} {program : QueueProgram Q}
variable {kernel : Kernel T (WaitingList Q)}

structure Controlled (idle : T) (system : QueueSystem T Q) : Prop where
  steady : Kernel.Steady idle system.kernel
  running : ∀ task program, system.programs task = some program →
    system.kernel.xSchedulerRunning
  apart : ∀ task program, system.programs task = some program → task ≠ idle
  stopped : ∀ task program, system.programs task = some program → program.point.stopped →
    task = system.kernel.pxCurrentTCB ∧ system.kernel.uxSchedulerSuspended ≠ 0
  ready : ∀ task program, system.programs task = some program → program.point.before →
    system.kernel.Ready task
  ticks : ∀ task program, system.programs task = some program → program.point.tries →
    program.xTicksToWait ≠ 0
  locked : ∀ pxQueue side, (system.queues pxQueue).lock side ≠ queueUnlocked →
    ∃ program, system.programs system.kernel.pxCurrentTCB = some program ∧
      program.pxQueue = pxQueue ∧ program.point.locks side

omit [DecidableEq T] [DecidableEq Q] in
/-- Where the running task is in no call the scheduler is not stopped for one. -/
theorem Controlled.calm (controlled : Controlled idle system)
    (none_ : system.programs system.kernel.pxCurrentTCB = none) :
    (∀ task program, system.programs task = some program → program.point.stopped = false) ∧
      ∀ pxQueue side, (system.queues pxQueue).lock side = queueUnlocked := by
  constructor
  · intro task program held
    refine Bool.eq_false_iff.mpr fun stopped => ?_
    rw [(controlled.stopped task program held stopped).1, none_] at held
    cases held
  · intro pxQueue side
    refine by_contra fun locked => ?_
    obtain ⟨program, held, -⟩ := controlled.locked pxQueue side locked
    cases none_.symm.trans held

omit [DecidableEq T] [DecidableEq Q] in
/-- Only the queue of the running task's call may be locked. -/
theorem Controlled.has_lock (controlled : Controlled idle system)
    (held : system.programs system.kernel.pxCurrentTCB = some program) {pxQueue : Q}
    {side : QueueSide} (lock : (system.queues pxQueue).lock side ≠ queueUnlocked) :
    pxQueue = program.pxQueue ∧ program.point.locks side := by
  obtain ⟨found, there, same, has⟩ := controlled.locked pxQueue side lock
  obtain rfl := Option.some.inj (there.symm.trans held)
  exact ⟨same.symm, has⟩

theorem Controlled.advance (controlled : Controlled idle system)
    (held : system.programs system.kernel.pxCurrentTCB = some program)
    (goes : Kernel.GoesOn idle system.kernel after.kernel) (next : Option (QueueProgram Q))
    (programs : after.programs =
      Function.update system.programs system.kernel.pxCurrentTCB next)
    (own : ∀ moved, next = some moved → moved.pxQueue = program.pxQueue ∧
      (moved.point.stopped → after.kernel.uxSchedulerSuspended ≠ 0) ∧
      (moved.point.before → after.kernel.Ready system.kernel.pxCurrentTCB) ∧
      (moved.point.tries → moved.xTicksToWait ≠ 0))
    (queue : QueueDefinition)
    (queues : after.queues = Function.update system.queues program.pxQueue queue)
    (locked : ∀ side, queue.lock side ≠ queueUnlocked →
      ∃ moved, next = some moved ∧ moved.point.locks side) :
    Controlled idle after ∧ Kernel.Leads idle system.kernel after.kernel := by
  have mine : after.programs system.kernel.pxCurrentTCB = next := by
    rw [programs, Function.update_self]
  have others (task : T) (apart : task ≠ system.kernel.pxCurrentTCB) :
      after.programs task = system.programs task := by
    rw [programs, Function.update_of_ne apart]
  refine ⟨?_, goes.leads⟩
  constructor
  case steady => exact controlled.steady.leads goes.leads
  case running =>
    have running := controlled.running _ _ held
    exact fun _ _ _ => (controlled.steady.later running goes.leads).1
  case apart =>
    intro task moved there
    by_cases same : task = system.kernel.pxCurrentTCB
    · exact same ▸ controlled.apart _ _ held
    · exact controlled.apart task moved ((others task same).symm.trans there)
  case stopped =>
    intro task moved there stopped
    by_cases same : task = system.kernel.pxCurrentTCB
    · rw [same, mine] at there
      exact ⟨same.trans goes.current.symm, (own moved there).2.1 stopped⟩
    · have old := (others task same).symm.trans there
      exact absurd (controlled.stopped task moved old stopped).1 same
  case ready =>
    intro task moved there before
    by_cases same : task = system.kernel.pxCurrentTCB
    · rw [same, mine] at there
      exact same ▸ (own moved there).2.2.1 before
    · have old := (others task same).symm.trans there
      exact absurd (controlled.stopped task moved old (QueuePoint.stopped_of_before before)).1 same
  case ticks =>
    intro task moved there tries
    by_cases same : task = system.kernel.pxCurrentTCB
    · rw [same, mine] at there
      exact (own moved there).2.2.2 tries
    · exact controlled.ticks task moved ((others task same).symm.trans there) tries
  case locked =>
    intro pxQueue side lock
    by_cases same : pxQueue = program.pxQueue
    · rw [same, queues, Function.update_self] at lock
      obtain ⟨moved, found, has⟩ := locked side lock
      exact ⟨moved, goes.current ▸ mine.trans found, (own moved found).1.trans same.symm, has⟩
    · rw [queues, Function.update_of_ne same] at lock
      exact absurd (controlled.has_lock held lock).1 same

theorem Controlled.interrupt (controlled : Controlled idle system)
    (leads : Kernel.Leads idle system.kernel after.kernel)
    (programs : after.programs = system.programs)
    (stays : system.programs system.kernel.pxCurrentTCB ≠ none →
      system.kernel.uxSchedulerSuspended ≠ 0 →
        after.kernel.pxCurrentTCB = system.kernel.pxCurrentTCB ∧
        after.kernel.uxSchedulerSuspended ≠ 0 ∧
        (system.kernel.Ready system.kernel.pxCurrentTCB →
          after.kernel.Ready system.kernel.pxCurrentTCB))
    (locks : ∀ pxQueue side, (after.queues pxQueue).lock side ≠ queueUnlocked →
      (system.queues pxQueue).lock side ≠ queueUnlocked) : Controlled idle after where
  steady := controlled.steady.leads leads
  running task program there :=
    (controlled.steady.later (controlled.running task program (programs ▸ there)) leads).1
  apart task program there := controlled.apart task program (programs ▸ there)
  stopped task program there stopped := by
    rw [programs] at there
    obtain ⟨rfl, suspended⟩ := controlled.stopped task program there stopped
    obtain ⟨current, still, -⟩ := stays (there ▸ Option.some_ne_none _) suspended
    exact ⟨current.symm, still⟩
  ready task program there before := by
    rw [programs] at there
    obtain ⟨rfl, suspended⟩ :=
      controlled.stopped task program there (QueuePoint.stopped_of_before before)
    exact (stays (there ▸ Option.some_ne_none _) suspended).2.2
      (controlled.ready _ program there before)
  ticks task program there := controlled.ticks task program (programs ▸ there)
  locked pxQueue side lock := by
    obtain ⟨program, there, same, has⟩ := controlled.locked pxQueue side (locks pxQueue side lock)
    obtain ⟨-, suspended⟩ :=
      controlled.stopped _ program there (QueuePoint.stopped_of_locks has)
    obtain ⟨current, -⟩ := stays (there ▸ Option.some_ne_none _) suspended
    rw [programs, current]
    exact ⟨program, there, same, has⟩

/-! Tasks are woken. -/

theorem goesOn_wakeOne (idle : T) (running : kernel.xSchedulerRunning) (list : WaitingList Q)
    (caller : Unblocker) : Kernel.GoesOn idle kernel (wakeOne list caller kernel) := by
  rw [wakeOne]
  split
  next => exact (Kernel.goesOn_wake idle running list caller).1
  next => exact Kernel.goesOn_refl idle kernel

theorem goesOn_unlockLoop (steady : Kernel.Steady idle kernel) (running : kernel.xSchedulerRunning)
    (list : WaitingList Q) (lock : Nat) :
    Kernel.GoesOn idle kernel (unlockLoop list lock kernel) ∧
      (unlockLoop list lock kernel).uxSchedulerSuspended = kernel.uxSchedulerSuspended := by
  induction lock generalizing kernel with
  | zero => exact ⟨Kernel.goesOn_refl idle kernel, rfl⟩
  | succ lock ih =>
      rw [unlockLoop]
      split
      next =>
        obtain ⟨goes, same⟩ := Kernel.goesOn_wake idle running list .unlockQueue
        obtain ⟨later, still⟩ := ih (steady.leads goes.leads) (steady.later running goes.leads).1
        exact ⟨goes.trans later, still.trans same⟩
      next => exact ⟨Kernel.goesOn_refl idle kernel, rfl⟩

/-! The steps of a call. -/

omit [DecidableEq T] [DecidableEq Q] in
theorem Controlled.unlocked (controlled : Controlled idle system)
    (held : system.programs system.kernel.pxCurrentTCB = some program) {side : QueueSide}
    (free : program.point.locks side = false) (pxQueue : Q) :
    (system.queues pxQueue).lock side = queueUnlocked := by
  refine by_contra fun lock => ?_
  have has := (controlled.has_lock held lock).2
  rw [free] at has
  cases has

theorem Controlled.loopTop (controlled : Controlled idle system)
    (held : system.programs system.kernel.pxCurrentTCB = some program)
    (point : program.point = .loop) :
    Controlled idle (system.loopTop system.kernel.pxCurrentTCB program) ∧
      Kernel.Leads idle system.kernel
        (system.loopTop system.kernel.pxCurrentTCB program).kernel := by
  have running := controlled.running _ _ held
  have unlocked (side : QueueSide) :
      (system.queues program.pxQueue).lock side = queueUnlocked :=
    controlled.unlocked held (point ▸ rfl) _
  have same := (Function.update_eq_self program.pxQueue system.queues).symm
  rw [QueueSystem.loopTop]
  split
  next =>
    have goes : Kernel.GoesOn idle system.kernel (wakeOne
        ⟨program.pxQueue, program.operation.wakes⟩ .task system.kernel) :=
      goesOn_wakeOne idle running _ .task
    refine controlled.advance held goes none rfl nofun _ rfl fun side lock => absurd ?_ lock
    exact (QueueDefinition.call_lock _ _ side).trans (unlocked side)
  next =>
    split
    next =>
      exact controlled.advance held (Kernel.goesOn_refl idle _) none rfl nofun _
        same fun side lock => absurd (unlocked side) lock
    next ticks =>
      refine controlled.advance held (Kernel.goesOn_refl idle _) (some _) rfl ?_
        _ same fun side lock => absurd (unlocked side) lock
      rintro moved ⟨⟩
      exact ⟨rfl, nofun, nofun, fun _ => ticks⟩

theorem Controlled.checkTimeOut (controlled : Controlled idle system)
    (held : system.programs system.kernel.pxCurrentTCB = some program)
    (point : program.point = .checkForTimeOut) :
    Controlled idle (system.checkTimeOut system.kernel.pxCurrentTCB program) ∧
      Kernel.Leads idle system.kernel
        (system.checkTimeOut system.kernel.pxCurrentTCB program).kernel := by
  have ticks := controlled.ticks _ _ held (point ▸ rfl)
  have suspended := (controlled.stopped _ _ held (point ▸ rfl)).2
  have ready := controlled.ready _ _ held (point ▸ rfl)
  refine controlled.advance held (Kernel.goesOn_refl idle _) (some _) rfl ?_ _
    (Function.update_eq_self program.pxQueue system.queues).symm fun side _ => ⟨_, rfl, ?_⟩
  · rintro moved ⟨⟩
    refine ⟨rfl, fun _ => suspended, fun _ => ready, ?_⟩
    dsimp only
    rw [Kernel.xTaskCheckForTimeOut]
    split
    next => exact fun _ => ticks
    next =>
      split
      next => exact nofun
      next =>
        split
        next left =>
          refine fun _ none_ => ?_
          have left := UInt32.lt_iff_toNat_lt.mp left
          have rest := congrArg UInt32.toNat none_
          rw [UInt32.toNat_sub_of_le _ _ (UInt32.le_iff_toNat_le.mpr left.le)] at rest
          have zero : (0 : UInt32).toNat = 0 := rfl
          omega
        next => exact nofun
  · dsimp only
    split <;> rfl

theorem Controlled.taskStep (controlled : Controlled idle system)
    (held : system.programs system.kernel.pxCurrentTCB = some program)
    (ready : program.point.stopped = false → system.kernel.Ready system.kernel.pxCurrentTCB) :
    Controlled idle (system.taskStep system.kernel.pxCurrentTCB program) ∧
      Kernel.Leads idle system.kernel
        (system.taskStep system.kernel.pxCurrentTCB program).kernel := by
  have running := controlled.running _ _ held
  have still := Kernel.goesOn_refl idle system.kernel
  have all := (Function.update_eq_self program.pxQueue system.queues).symm
  have ticks : program.point.tries → program.xTicksToWait ≠ 0 := controlled.ticks _ _ held
  have here : program.point.before → system.kernel.Ready system.kernel.pxCurrentTCB :=
    controlled.ready _ _ held
  have suspended (stopped : program.point.stopped) : system.kernel.uxSchedulerSuspended ≠ 0 :=
    (controlled.stopped _ _ held stopped).2
  rw [QueueSystem.taskStep]
  split
  next point => exact controlled.loopTop held point
  next point =>
    have allowed : system.kernel.Allowed idle .vTaskSuspendAll := running
    refine controlled.advance held ⟨Kernel.leads_step allowed, rfl⟩ (some _) rfl ?_
      _ all fun side lock => ?_
    · rintro moved ⟨⟩
      exact ⟨rfl, fun _ => Nat.succ_ne_zero _, fun _ => ready (point ▸ rfl),
        fun _ => ticks (point ▸ rfl)⟩
    · exact absurd (controlled.unlocked held (point ▸ rfl) _) lock
  next point =>
    refine controlled.advance held still (some _) rfl ?_
      _ rfl fun _ _ => ⟨_, rfl, rfl⟩
    rintro moved ⟨⟩
    exact ⟨rfl, fun _ => suspended (point ▸ rfl),
      fun _ => here (point ▸ rfl),
      fun _ => ticks (point ▸ rfl)⟩
  next point => exact controlled.checkTimeOut held point
  next point =>
    refine controlled.advance held still (some _) rfl ?_ _ all
      fun _ _ => ⟨_, rfl, by dsimp only; split <;> rfl⟩
    rintro moved ⟨⟩
    exact ⟨rfl, fun _ => suspended (point ▸ rfl), fun _ => here (point ▸ rfl),
      fun _ => ticks (point ▸ rfl)⟩
  next point =>
    have allowed : system.kernel.Allowed idle (.vTaskPlaceOnEventList
        ⟨program.pxQueue, program.operation.side⟩ program.xTicksToWait) :=
      ⟨running, here (point ▸ rfl), controlled.apart _ _ held, ticks (point ▸ rfl)⟩
    obtain ⟨goes, same⟩ := Kernel.goesOn_place allowed
    refine controlled.advance held goes (some _) rfl ?_ _ all
      fun _ _ => ⟨_, rfl, rfl⟩
    rintro moved ⟨⟩
    exact ⟨rfl, fun _ => same ▸ suspended (point ▸ rfl), nofun, nofun⟩
  next outcome point =>
    obtain ⟨goes, same⟩ := goesOn_unlockLoop controlled.steady running
      ⟨program.pxQueue, .xTasksWaitingToReceive⟩ (system.queues program.pxQueue).xTxLock.toNat
    refine controlled.advance held goes (some _) rfl ?_
      _ rfl fun side lock => ⟨_, rfl, ?_⟩
    · rintro moved ⟨⟩
      exact ⟨rfl, fun _ => same ▸ suspended (point ▸ rfl), nofun, nofun⟩
    · cases side with
      | xTasksWaitingToSend => rfl
      | xTasksWaitingToReceive =>
          exact absurd rfl lock
  next outcome point =>
    obtain ⟨goes, same⟩ := goesOn_unlockLoop controlled.steady running
      ⟨program.pxQueue, .xTasksWaitingToSend⟩ (system.queues program.pxQueue).xRxLock.toNat
    refine controlled.advance held goes (some _) rfl ?_
      _ rfl fun side lock => absurd ?_ lock
    · rintro moved ⟨⟩
      exact ⟨rfl, fun _ => same ▸ suspended (point ▸ rfl), nofun, nofun⟩
    · cases side with
      | xTasksWaitingToSend => rfl
      | xTasksWaitingToReceive =>
          have free :
              (system.queues program.pxQueue).lock .xTasksWaitingToReceive = queueUnlocked :=
            controlled.unlocked held (point ▸ rfl) _
          exact free
  next outcome point =>
    have goes : Kernel.GoesOn idle system.kernel (system.kernel.step .xTaskResumeAll) :=
      Kernel.goesOn_resumeAll running (suspended (point ▸ rfl))
    have free (side : QueueSide) :
        (system.queues program.pxQueue).lock side = queueUnlocked :=
      controlled.unlocked held (point ▸ rfl) _
    cases outcome with
    | blocked =>
        have yields : (system.kernel.step .xTaskResumeAll).Allowed idle .taskYield :=
          (controlled.steady.later running goes.leads).1
        refine controlled.advance held ?_ (some _) rfl ?_ _ all
          fun side lock => absurd (free side) lock
        · change Kernel.GoesOn idle system.kernel (if system.kernel.xTaskResumeAll.1 then _ else _)
          split
          next => exact goes
          next => exact ⟨goes.leads.trans (Kernel.leads_step yields), goes.current⟩
        · rintro moved ⟨⟩
          exact ⟨rfl, nofun, nofun, nofun⟩
    | again =>
        refine controlled.advance held goes (some _) rfl ?_ _ all
          fun side lock => absurd (free side) lock
        rintro moved ⟨⟩
        exact ⟨rfl, nofun, nofun, nofun⟩
    | expired =>
        exact controlled.advance held goes none rfl nofun _ all
          fun side lock => absurd (free side) lock

/-! Interrupts, and steps outside of calls. -/

omit [DecidableEq Q] in
theorem stays_of_keeps {after : Kernel T (WaitingList Q)}
    (current : after.pxCurrentTCB = kernel.pxCurrentTCB)
    (same : after.uxSchedulerSuspended = kernel.uxSchedulerSuspended)
    (keeps : ∀ priority, kernel.ReadyAt priority kernel.pxCurrentTCB →
      Kernel.Keeps priority kernel.pxCurrentTCB kernel after)
    (suspended : kernel.uxSchedulerSuspended ≠ 0) :
    after.pxCurrentTCB = kernel.pxCurrentTCB ∧ after.uxSchedulerSuspended ≠ 0 ∧
      (kernel.Ready kernel.pxCurrentTCB → after.Ready kernel.pxCurrentTCB) := by
  refine ⟨current, same ▸ suspended, fun ready => ?_⟩
  obtain ⟨priority, place⟩ := ready
  exact ⟨priority, (keeps priority place).place⟩

theorem Controlled.wakeFromISR (controlled : Controlled idle system)
    (running : system.kernel.xSchedulerRunning) (list : WaitingList Q) (isrcount : Nat)
    (queues : Q → QueueDefinition)
    (locks : ∀ pxQueue side, (queues pxQueue).lock side ≠ queueUnlocked →
      (system.queues pxQueue).lock side ≠ queueUnlocked) :
    Controlled idle { system with
        kernel := wakeOne list (.isr isrcount) system.kernel
        queues := queues } ∧
      Kernel.Leads idle system.kernel (wakeOne list (.isr isrcount) system.kernel) := by
  have goes := goesOn_wakeOne idle running list (.isr isrcount)
  refine ⟨controlled.interrupt goes.leads rfl (fun _ => ?_) locks, goes.leads⟩
  refine stays_of_keeps goes.current ?_ fun priority held => ?_
  · rw [wakeOne]
    split
    next => exact (Kernel.goesOn_wake idle running list (.isr isrcount)).2
    next => rfl
  · rw [wakeOne]
    split
    next =>
      exact (controlled.steady.toKept.keeps_removeFromEventList held list).unblockedBy
        (.isr isrcount)
    next => exact Kernel.keeps_refl held

omit [DecidableEq T] in
theorem locks_of_update {pxQueue : Q} {queue : QueueDefinition}
    (locks : ∀ side, queue.lock side ≠ queueUnlocked →
      (system.queues pxQueue).lock side ≠ queueUnlocked) (other : Q) (side : QueueSide)
    (lock : (Function.update system.queues pxQueue queue other).lock side ≠ queueUnlocked) :
    (system.queues other).lock side ≠ queueUnlocked := by
  by_cases same : other = pxQueue
  · subst same
    rw [Function.update_self] at lock
    exact locks side lock
  · rwa [Function.update_of_ne same] at lock

theorem Controlled.sendFromISR (controlled : Controlled idle system)
    (running : system.kernel.xSchedulerRunning) (pxQueue : Q) (item : Nat → UInt8) (position : Int)
    (isrcount : Nat) :
    Controlled idle (system.xQueueGenericSendFromISR pxQueue item position isrcount) ∧
      Kernel.Leads idle system.kernel
        (system.xQueueGenericSendFromISR pxQueue item position isrcount).kernel := by
  have same (side : QueueSide) :=
    (system.queues pxQueue).call_lock (.send item position) side
  rw [xQueueGenericSendFromISR]
  split
  next =>
    split
    next =>
      exact controlled.wakeFromISR running _ isrcount _
        (locks_of_update fun side lock => same side ▸ lock)
    next locked =>
      refine ⟨?_, Kernel.leads_refl idle _⟩
      refine controlled.interrupt (Kernel.leads_refl idle _) rfl
        (fun _ suspended => ⟨rfl, suspended, id⟩) (locks_of_update fun side lock => ?_)
      cases side with
      | xTasksWaitingToReceive => exact same .xTasksWaitingToReceive ▸ locked
      | xTasksWaitingToSend => exact same .xTasksWaitingToSend ▸ lock
  next => exact ⟨controlled, Kernel.leads_refl idle _⟩

theorem Controlled.receiveFromISR (controlled : Controlled idle system)
    (running : system.kernel.xSchedulerRunning) (pxQueue : Q) (isrcount : Nat) :
    Controlled idle (system.xQueueReceiveFromISR pxQueue isrcount) ∧
      Kernel.Leads idle system.kernel (system.xQueueReceiveFromISR pxQueue isrcount).kernel := by
  have same (side : QueueSide) := (system.queues pxQueue).call_lock .receive side
  rw [xQueueReceiveFromISR]
  split
  next =>
    split
    next =>
      exact controlled.wakeFromISR running _ isrcount _
        (locks_of_update fun side lock => same side ▸ lock)
    next locked =>
      refine ⟨?_, Kernel.leads_refl idle _⟩
      refine controlled.interrupt (Kernel.leads_refl idle _) rfl
        (fun _ suspended => ⟨rfl, suspended, id⟩) (locks_of_update fun side lock => ?_)
      cases side with
      | xTasksWaitingToReceive => exact same .xTasksWaitingToReceive ▸ lock
      | xTasksWaitingToSend => exact same .xTasksWaitingToSend ▸ locked
  next => exact ⟨controlled, Kernel.leads_refl idle _⟩

/-- While the scheduler is stopped an interrupt does not take the processor from a task. -/
theorem Controlled.other (controlled : Controlled idle system)
    {event : KernelEvent T (WaitingList Q)} (allowed : system.kernel.Allowed idle event)
    (other : system.Other event) :
    Controlled idle { system with kernel := system.kernel.step event } := by
  have kept := controlled.steady.toKept
  refine controlled.interrupt (Kernel.leads_step allowed) rfl (fun some_ suspended => ?_)
    fun _ _ lock => lock
  cases event with
  | sysTick =>
      have quiet := Kernel.quiet_tick system.kernel.portYield
      refine stays_of_keeps quiet.current quiet.suspended (fun priority held => ?_) suspended
      have keeps : Kernel.Keeps priority system.kernel.pxCurrentTCB system.kernel.portYield
          system.kernel.sysTickHandler := Kernel.Kept.keeps_tick { kept with } held
      exact ⟨keeps.place, keeps.turn⟩
  | pendSV =>
      have missed : system.kernel.step .pendSV =
          { system.kernel with pendSV := false, xMissedYield := true } := by
        rw [Kernel.step, Kernel.pendSVHandler, Kernel.vTaskSwitchContext, if_pos suspended]
        rfl
      rw [missed]
      exact ⟨rfl, suspended, id⟩
  | xTaskResumeFromISR task =>
      have same : (system.kernel.step (.xTaskResumeFromISR task)).pxCurrentTCB =
            system.kernel.pxCurrentTCB ∧
          (system.kernel.step (.xTaskResumeFromISR task)).uxSchedulerSuspended =
            system.kernel.uxSchedulerSuspended := by
        rw [Kernel.step, Kernel.xTaskResumeFromISR]
        repeat' split
        all_goals exact ⟨rfl, rfl⟩
      exact stays_of_keeps same.1 same.2
        (fun priority held => (kept.keeps_resumeFromISR held).yieldIf _) suspended
  | vTaskPlaceOnEventList list ticks => exact other.elim
  | vTaskPlaceOnEventListRestricted list ticks => exact other.elim
  | xTaskRemoveFromEventList list caller => exact other.elim
  | vTaskDelete task => exact absurd other.1 some_
  | _ => exact absurd other some_

omit [DecidableEq Q] in
theorem Controlled.call (controlled : Controlled idle system)
    (running : system.kernel.xSchedulerRunning) (apart : system.kernel.pxCurrentTCB ≠ idle)
    (none_ : system.programs system.kernel.pxCurrentTCB = none) (point : program.point = .loop) :
    Controlled idle (system.goOn system.kernel.pxCurrentTCB program) := by
  obtain ⟨calm, unlocked⟩ := controlled.calm none_
  have cases_ {task : T} {found : QueueProgram Q}
      (there : (system.goOn system.kernel.pxCurrentTCB program).programs task = some found) :
      task = system.kernel.pxCurrentTCB ∧ found.point = .loop ∨
        system.programs task = some found := by
    change Function.update system.programs _ _ task = _ at there
    by_cases same : task = system.kernel.pxCurrentTCB
    · rw [same, Function.update_self] at there
      exact .inl ⟨same, Option.some.inj there ▸ point⟩
    · rw [Function.update_of_ne same] at there
      exact .inr there
  constructor
  case steady => exact controlled.steady
  case running => exact fun _ _ _ => running
  case apart =>
    intro task found there
    rcases cases_ there with ⟨rfl, -⟩ | old
    · exact apart
    · exact controlled.apart task found old
  case stopped =>
    intro task found there stopped
    rcases cases_ there with ⟨-, start⟩ | old
    · rw [start] at stopped
      cases stopped
    · exact controlled.stopped task found old stopped
  case ready =>
    intro task found there before
    rcases cases_ there with ⟨-, start⟩ | old
    · rw [start] at before
      cases before
    · exact controlled.ready task found old before
  case ticks =>
    intro task found there tries
    rcases cases_ there with ⟨-, start⟩ | old
    · rw [start] at tries
      cases tries
    · exact controlled.ticks task found old tries
  case locked => exact fun pxQueue side lock => absurd (unlocked pxQueue side) lock

theorem Controlled.step (controlled : Controlled idle system) {event : QueueEvent T Q}
    (allowed : system.Allowed idle event) :
    Controlled idle (system.step event) ∧
      Kernel.Leads idle system.kernel (system.step event).kernel := by
  cases event with
  | call pxQueue operation ticks =>
      obtain ⟨running, -, apart, none_⟩ := allowed
      exact ⟨controlled.call running apart none_ rfl, Kernel.leads_refl idle _⟩
  | proceed =>
      obtain ⟨-, -, ready⟩ := allowed
      rw [QueueSystem.step]
      split
      next => exact ⟨controlled, Kernel.leads_refl idle _⟩
      next program held => exact controlled.taskStep held (ready program held)
  | sendFromISR pxQueue item position isrcount =>
      exact controlled.sendFromISR allowed pxQueue item position isrcount
  | receiveFromISR pxQueue isrcount => exact controlled.receiveFromISR allowed pxQueue isrcount
  | other event => exact ⟨controlled.other allowed.1 allowed.2, Kernel.leads_step allowed.1⟩

/-! Runs. -/

def Fresh (queues : Q → QueueDefinition) : Prop :=
  ∀ pxQueue, ∃ storage queueStart uxQueueLength uxItemSize, 0 < uxQueueLength ∧
    uxItemSize ≤ queueStart ∧
    queues pxQueue = .xQueueCreateExt storage queueStart uxQueueLength uxItemSize

def Reached (idle : T) (system : QueueSystem T Q) : Prop :=
  ∃ task priority queues events, Fresh queues ∧
    Along QueueSystem.step (Allowed idle) (created task priority queues) events ∧
    system = events.foldl QueueSystem.step (created task priority queues)

omit [DecidableEq Q] in
theorem Fresh.lock {queues : Q → QueueDefinition} (fresh : Fresh queues) (pxQueue : Q)
    (side : QueueSide) : (queues pxQueue).lock side = queueUnlocked := by
  obtain ⟨storage, start, length, size, -, -, made⟩ := fresh pxQueue
  rw [made]
  cases side <;> rfl

theorem controlled_created (idle task : T) (priority : Nat) {queues : Q → QueueDefinition}
    (fresh : Fresh queues) : Controlled idle (created task priority queues) where
  steady := Kernel.steady_firstCreated idle task priority
  running := nofun
  apart := nofun
  stopped := nofun
  ready := nofun
  ticks := nofun
  locked pxQueue side lock := absurd (fresh.lock pxQueue side) lock

theorem Controlled.run (controlled : Controlled idle system) {events : List (QueueEvent T Q)}
    (allowed : Along QueueSystem.step (Allowed idle) system events) :
    Controlled idle (events.foldl QueueSystem.step system) ∧
      Kernel.Leads idle system.kernel (events.foldl QueueSystem.step system).kernel := by
  induction events generalizing system with
  | nil => exact ⟨controlled, Kernel.leads_refl idle _⟩
  | cons next rest ih =>
      obtain ⟨after, leads⟩ := controlled.step allowed.1
      obtain ⟨last, later⟩ := ih after allowed.2
      exact ⟨last, leads.trans later⟩

theorem Reached.controlled (reached : Reached idle system) : Controlled idle system := by
  obtain ⟨task, priority, queues, events, fresh, allowed, rfl⟩ := reached
  exact ((controlled_created idle task priority fresh).run allowed).1

/-- What the tasks and the interrupts do to queues is one of the things the kernel may do. -/
theorem Reached.kernel_reached (reached : Reached idle system) :
    Kernel.Reached idle system.kernel := by
  obtain ⟨task, priority, queues, events, fresh, allowed, rfl⟩ := reached
  obtain ⟨steps, runs, last⟩ := ((controlled_created idle task priority fresh).run allowed).2
  exact ⟨task, priority, steps, runs, last⟩

/-- A task that receives from the only queue is interrupted before it stops the scheduler. Another
one is about to wait for a message then, and has locked the queue, and an interrupt sends one. -/
def lockedEvents : List (QueueEvent Nat Unit) :=
  [.other (.xTaskGenericCreate 3 2), .other (.vTaskStartScheduler 8 9), .call () .receive 5,
    .proceed, .other .sysTick, .other .pendSV, .call () .receive 5, .proceed, .proceed, .proceed,
    .sendFromISR () (fun _ => 7) queueSendToBack 0]

def lockedSample : QueueSystem Nat Unit :=
  lockedEvents.foldl QueueSystem.step (created 1 2 fun _ => .xQueueCreateExt (fun _ => 0) 4 2 4)

theorem reached_lockedSample : Reached 8 lockedSample := by
  have allowed : Along QueueSystem.step (Allowed 8)
      (created 1 2 fun _ => .xQueueCreateExt (fun _ => 0) 4 2 4) lockedEvents := by
    decide +kernel
  exact ⟨1, 2, _, lockedEvents, fun _ => ⟨_, _, _, _, by decide, by decide, rfl⟩, allowed, rfl⟩

end QueueSystem

end SmartMeter
