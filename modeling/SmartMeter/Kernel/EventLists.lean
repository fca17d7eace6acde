import SmartMeter.Kernel.RoundRobin
import SmartMeter.Kernel.Preemption

/-! Which steps put tasks in event lists, and which take them out. -/

namespace SmartMeter

variable {T E : Type} [DecidableEq T]

namespace Kernel

variable {kernel moved after : Kernel T E} {idle task other : T}
variable {generic place : Option (TaskList E)} {wake : UInt32} {event : E}

def WaitsFor (kernel : Kernel T E) (event : E) (task : T) : Prop :=
  kernel.pvContainer (.xEventListItem task) = some (.pxEventList event)

def Sheds (kernel after : Kernel T E) : Prop :=
  ∀ event task, after.WaitsFor event task → kernel.WaitsFor event task

omit [DecidableEq T] in
theorem Sheds.trans (first : Sheds kernel moved) (second : Sheds moved after) :
    Sheds kernel after :=
  fun event task waits => first event task (second event task waits)

omit [DecidableEq T] in
theorem sheds_refl (kernel : Kernel T E) : Sheds kernel kernel := fun _ _ waits => waits

theorem MovedTo.sheds (there : MovedTo task kernel moved generic place wake)
    (stays : ∀ event, place = some (.pxEventList event) → kernel.WaitsFor event task) :
    Sheds kernel moved := by
  intro event other waits
  by_cases same : other = task
  · rw [same] at waits ⊢
    exact stays event (there.event.symm.trans waits)
  · exact (there.others (.xEventListItem other) same).symm.trans waits

omit [DecidableEq T] in
theorem Sheds.yieldIf (sheds : Sheds kernel after) (yields : Prop) [Decidable yields] :
    Sheds kernel (if yields then after.portYield else after) := by
  split <;> exact sheds

omit [DecidableEq T] in
theorem Placed.nobody_waits (placed : Placed idle kernel) :
    kernel.items (.pxEventList event) = [] ↔ ∀ task, ¬kernel.WaitsFor event task := by
  constructor
  · intro empty task waits
    have member := (placed.sound.container (.pxEventList event) _).mpr waits
    rw [show kernel.lists.items _ = [] from empty] at member
    cases member
  · intro nobody
    refine List.eq_nil_iff_forall_not_mem.mpr fun item member => ?_
    have generic := placed.item_of_awaits member (.inr ⟨event, rfl⟩)
    have held := (placed.sound.container _ _).mp member
    rw [generic] at held
    exact nobody item.pvOwner held

variable [DecidableEq E]

theorem Kept.sheds_unblock (kept : Kept idle kernel) (task : T) :
    Sheds kernel (kernel.unblock task) :=
  (unblock_moved kept.sound task).sheds nofun

theorem Kept.sheds_checkDelayedLoop (kept : Kept idle kernel) (turns : Nat) :
    Sheds kernel (kernel.checkDelayedLoop turns) := by
  induction turns generalizing kernel with
  | zero => exact sheds_refl kernel
  | succ turns ih =>
      rw [Kernel.checkDelayedLoop]
      split
      next => exact sheds_refl kernel
      next head rest first =>
        dsimp only
        split
        next => exact sheds_refl kernel
        next =>
          have blocking := kept.blocking_delayed.1
          have held := kept.head_of_not_awaits first (not_awaits_of_blocking blocking)
          exact (kept.sheds_unblock head.pvOwner).trans (ih (kept.unblock held blocking))

theorem Kept.sheds_tick (kept : Kept idle kernel) : Sheds kernel kernel.vTaskIncrementTick := by
  rw [Kernel.vTaskIncrementTick]
  split
  next =>
    have ticked : Sheds kernel kernel.ticked := by
      rw [Kernel.ticked]
      split <;> exact sheds_refl kernel
    refine ticked.trans ?_
    change Sheds kernel.ticked kernel.ticked.prvCheckDelayedTasks
    rw [Kernel.prvCheckDelayedTasks]
    split
    next => exact kept.ticked.sheds_checkDelayedLoop _
    next => exact sheds_refl _
  next => exact sheds_refl kernel

theorem Kept.sheds_replayLoop (kept : Kept idle kernel) (uxMissedTicks : Nat) :
    Sheds kernel (kernel.replayLoop uxMissedTicks) := by
  induction uxMissedTicks generalizing kernel with
  | zero => exact sheds_refl kernel
  | succ uxMissedTicks ih =>
      exact kept.sheds_tick.trans (ih { kept.vTaskIncrementTick with })

theorem Placed.sheds_movePendingLoop (placed : Placed idle kernel) (counted : kernel.Counted)
    (turns : Nat) (yields : Bool) : Sheds kernel (kernel.movePendingLoop turns yields).2 := by
  induction turns generalizing kernel yields with
  | zero => exact sheds_refl kernel
  | succ turns ih =>
      rw [Kernel.movePendingLoop]
      split
      next => exact sheds_refl kernel
      next head rest first =>
        have held := placed.head_of_awaits first (.inl rfl)
        obtain ⟨moved, still⟩ := placed.moveReadied counted held
        have there :=
          (MovedTo.stay placed.sound head.pvOwner).removeEvent.removeGeneric.addReady
        exact Sheds.trans (there.sheds (by simp)) (ih moved still _)

theorem Kept.sheds_resumeAll (kept : Kept idle kernel) : Sheds kernel kernel.xTaskResumeAll.2 := by
  rw [Kernel.xTaskResumeAll]
  dsimp only
  split
  next =>
    generalize lowering : { kernel with uxSchedulerSuspended := kernel.uxSchedulerSuspended - 1 } =
      lowered
    have placed : Placed idle lowered := lowering ▸ { kept.toPlaced with }
    have counted : lowered.Counted := lowering ▸ kept.counted
    have start : Sheds kernel lowered := lowering ▸ sheds_refl kernel
    have moved := start.trans (placed.sheds_movePendingLoop counted
      ((lowered.items .xPendingReadyList).length + 1) false)
    have whole := moved.trans ((placed.movePending counted).sheds_replayLoop
      lowered.movePending.2.uxMissedTicks.toNat)
    rw [Kernel.resumed]
    split
    next => exact whole
    next => exact whole
  next => exact sheds_refl kernel

theorem MovedTo.sheds_readyOrPending (there : MovedTo task kernel moved generic none wake) :
    Sheds kernel (moved.readyOrPending task) ∧
      ∀ event, ¬(moved.readyOrPending task).WaitsFor event task := by
  have readied {generic place : Option (TaskList E)}
      (there : MovedTo task kernel (moved.readyOrPending task) generic place wake)
      (nowhere : ∀ event, place ≠ some (.pxEventList event)) :
      Sheds kernel (moved.readyOrPending task) ∧
        ∀ event, ¬(moved.readyOrPending task).WaitsFor event task :=
    ⟨there.sheds fun event same => absurd same (nowhere event),
      fun event waits => nowhere event (there.event.symm.trans waits)⟩
  rw [Kernel.readyOrPending] at readied ⊢
  split
  next going =>
    rw [if_pos going] at readied
    exact readied there.removeGeneric.addReady (by simp)
  next stopped =>
    rw [if_neg stopped] at readied
    exact readied (there.insertEndEvent .xPendingReadyList (by simp)) (by simp)

/-- The first task of the list is taken out. -/
theorem Kept.sheds_removeFromEventList (kept : Kept idle kernel) (event : E) :
    Sheds kernel (kernel.xTaskRemoveFromEventList event).2 ∧
      (kernel.items (.pxEventList event) ≠ [] → ∃ task, kernel.WaitsFor event task ∧
        ∀ other, ¬(kernel.xTaskRemoveFromEventList event).2.WaitsFor other task) := by
  rw [Kernel.xTaskRemoveFromEventList]
  split
  next empty => exact ⟨sheds_refl kernel, fun some_ => absurd empty some_⟩
  next head rest first =>
    obtain ⟨sheds, gone⟩ :=
      (MovedTo.stay kept.sound head.pvOwner).removeEvent.sheds_readyOrPending
    exact ⟨sheds, fun _ => ⟨head.pvOwner, kept.head_of_awaits first (.inr ⟨event, rfl⟩), gone⟩⟩

omit [DecidableEq T] [DecidableEq E] in
theorem unblockedBy_pvContainer (caller : Unblocker) (result : Bool × Kernel T E) :
    (unblockedBy caller result).pvContainer = result.2.pvContainer := by
  unfold unblockedBy
  split
  next =>
    cases caller with
    | task => rfl
    | unlockQueue => rfl
    | isr isrcount =>
        dsimp only
        split <;> rfl
  next => rfl

theorem Kept.sheds_reap (kept : Kept idle kernel) : Sheds kernel kernel.reapTerminated := by
  obtain same | ⟨head, rest, first, same⟩ := kernel.reapTerminated_cases
  · rw [same]
    exact sheds_refl kernel
  · rw [same]
    exact (MovedTo.stay kept.sound head.pvOwner).removeGeneric.sheds fun _ same => same

theorem Kept.sheds_prioritySet (kept : Kept idle kernel) (task : T) (priority : Nat) :
    Sheds kernel (kernel.vTaskPrioritySet task priority) := by
  have changed := (MovedTo.stay kept.sound task).setPriority (capped priority)
    fun list held => kept.not_delayed held
  have moved : Sheds kernel
      ((kernel.setPriority task (capped priority)).relistReady task (kernel.uxPriority task)) := by
    rw [Kernel.relistReady]
    split
    next => exact changed.removeGeneric.addReady.sheds fun _ same => same
    next => exact changed.sheds fun _ same => same
  rw [Kernel.vTaskPrioritySet]
  split
  next => exact moved.yieldIf _
  next => exact sheds_refl kernel

theorem Kept.sheds_resume (kept : Kept idle kernel) (task : T) :
    Sheds kernel (kernel.vTaskResume task) := by
  rw [Kernel.vTaskResume]
  split
  next =>
    have there := (MovedTo.stay kept.sound task).removeGeneric.addReady
    exact Sheds.yieldIf (there.sheds fun _ same => same) _
  next => exact sheds_refl kernel

theorem Kept.sheds_resumeFromISR (kept : Kept idle kernel) (task : T) :
    Sheds kernel (kernel.xTaskResumeFromISR task).2 := by
  rw [Kernel.xTaskResumeFromISR]
  split
  next suspended =>
    obtain ⟨-, nowhere⟩ := suspended_of_isTaskSuspended suspended
    have start := MovedTo.stay kept.sound task
    rw [nowhere] at start
    split
    next => exact start.removeGeneric.addReady.sheds (by simp)
    next => exact (start.insertEndEvent .xPendingReadyList (by simp)).sheds (by simp)
  next => exact sheds_refl kernel

def PlacesNone : KernelEvent T E → Prop
  | .vTaskPlaceOnEventList _ _ | .vTaskPlaceOnEventListRestricted _ _ => False
  | _ => True

theorem Kept.sheds_start (kept : Kept idle kernel) (first : kernel.Absent idle)
    (second : kernel.Absent other) (apart : other ≠ idle) :
    Sheds kernel (kernel.vTaskStartScheduler idle other) := by
  have there := xTaskGenericCreate_moved kept.sound first tskIdlePriority
  have absent : (kernel.xTaskGenericCreate idle tskIdlePriority).Absent other :=
    ⟨(there.others (.xGenericListItem other) apart).trans second.1,
      (there.others (.xEventListItem other) apart).trans second.2⟩
  have next := xTaskGenericCreate_moved there.sound absent configTimerTaskPriority
  have created : Sheds kernel ((kernel.xTaskGenericCreate idle tskIdlePriority).xTaskGenericCreate
      other configTimerTaskPriority) :=
    Sheds.trans (there.sheds nofun) (next.sheds nofun)
  exact created

theorem sheds_pendSV (kernel : Kernel T E) :
    Sheds kernel (kernel.pendSVHandler.getD kernel) := by
  rw [Kernel.pendSVHandler, Kernel.vTaskSwitchContext]
  split
  next => exact sheds_refl kernel
  next =>
    cases topReady { kernel with pendSV := false } kernel.uxTopReadyPriority with
    | none => exact sheds_refl kernel
    | some priority => exact sheds_refl kernel

theorem Kept.sheds_step (kept : Kept idle kernel) {next : KernelEvent T E}
    (allowed : kernel.Allowed idle next) (places : PlacesNone next) :
    Sheds kernel (kernel.step next) := by
  have start (task : T) := MovedTo.stay kept.sound task
  cases next with
  | xTaskGenericCreate new level =>
      exact (xTaskGenericCreate_moved kept.sound allowed.1 level).sheds (by simp)
  | vTaskStartScheduler first timers =>
      obtain ⟨-, rfl, apart, absent, second⟩ := allowed
      exact kept.sheds_start absent second apart
  | sysTick =>
      have yielding : Kept idle kernel.portYield := { kept with }
      exact yielding.sheds_tick
  | pendSV => exact sheds_pendSV kernel
  | taskYield => exact sheds_refl kernel
  | vTaskSuspendAll => exact sheds_refl kernel
  | xTaskResumeAll => exact kept.sheds_resumeAll
  | vTaskDelay ticks =>
      exact ((start _).delayCurrent ticks (kept.blocking_listToDelay ticks)).sheds
        fun _ same => same
  | vTaskPlaceOnEventList event ticks => exact places.elim
  | vTaskPlaceOnEventListRestricted event ticks => exact places.elim
  | xTaskRemoveFromEventList event caller =>
      intro event task waits
      rw [WaitsFor, Kernel.step, unblockedBy_pvContainer] at waits
      exact (kept.sheds_removeFromEventList _).1 event task waits
  | vTaskDelete gone =>
      have there := (start gone).removeGeneric.leaveEventList.insertEndGeneric
        .xTasksWaitingTermination (by simp)
      have sheds := there.sheds (by simp)
      rw [Kernel.step, Kernel.vTaskDelete]
      split <;> exact sheds
  | prvCheckTasksWaitingTermination => exact kept.sheds_reap
  | vTaskPrioritySet changed level => exact kept.sheds_prioritySet changed level
  | vTaskSuspend suspended =>
      have there := (start suspended).removeGeneric.leaveEventList.insertEndGeneric
        .xSuspendedTaskList (by simp)
      exact Sheds.yieldIf (there.sheds (by simp)) _
  | vTaskResume resumed => exact kept.sheds_resume resumed
  | xTaskResumeFromISR resumed => exact (kept.sheds_resumeFromISR resumed).yieldIf _

theorem Kept.waits_place (kept : Kept idle kernel) (ready : kernel.Ready kernel.pxCurrentTCB)
    (event : E) (ticks : UInt32) :
    (kernel.vTaskPlaceOnEventList event ticks).WaitsFor event kernel.pxCurrentTCB ∧
      ∀ other task, (kernel.vTaskPlaceOnEventList event ticks).WaitsFor other task →
        kernel.WaitsFor other task ∨ task = kernel.pxCurrentTCB ∧ other = event := by
  have start := MovedTo.stay kept.sound kernel.pxCurrentTCB
  rw [(kept.ready_task ready).2.2] at start
  have waiting := start.insertEvent (.pxEventList event) (by simp)
  have placed : ∃ generic wake, MovedTo kernel.pxCurrentTCB kernel
      (kernel.vTaskPlaceOnEventList event ticks) generic (some (.pxEventList event)) wake := by
    rw [Kernel.vTaskPlaceOnEventList]
    split
    next => exact ⟨_, _, waiting.removeGeneric.insertEndGeneric .xSuspendedTaskList (by simp)⟩
    next =>
      have there : MovedTo (kernel.vListInsert (.pxEventList event)
          (.xEventListItem kernel.pxCurrentTCB)).pxCurrentTCB kernel _ _ _ _ := waiting
      exact ⟨_, _, there.delayCurrent ticks (kept.blocking_moved waiting ticks)⟩
  obtain ⟨generic, wake, there⟩ := placed
  refine ⟨there.event, fun other task waits => ?_⟩
  by_cases same : task = kernel.pxCurrentTCB
  · rw [same] at waits
    have lists := there.event.symm.trans waits
    exact .inr ⟨same, (TaskList.pxEventList.inj (Option.some.inj lists)).symm⟩
  · exact .inl ((there.others (.xEventListItem task) same).symm.trans waits)

end Kernel

end SmartMeter
