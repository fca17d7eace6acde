import SmartMeter.Kernel.TaskPlaces

/-!
Tasks of one priority take turns: none is kept waiting by the others of its list, whichever of them
come and go.
-/

namespace SmartMeter

open Runs

variable {T E : Type} [DecidableEq T]

namespace Kernel

variable {kernel moved after : Kernel T E} {idle task other : T} {priority : Nat}
variable {generic event : Option (TaskList E)} {wake : UInt32} {list : TaskList E}

def ReadyAt (priority : Nat) (task : T) (kernel : Kernel T E) : Prop :=
  kernel.pvContainer (.xGenericListItem task) = some (.pxReadyTasksLists priority)

/-- The task stays in its list, and none comes before it. -/
structure Keeps (priority : Nat) (task : T) (kernel after : Kernel T E) : Prop where
  place : after.ReadyAt priority task
  turn : after.turn priority task ≤ kernel.turn priority task

theorem Keeps.trans (first : Keeps priority task kernel moved)
    (second : Keeps priority task moved after) : Keeps priority task kernel after :=
  ⟨second.place, second.turn.trans first.turn⟩

theorem keeps_refl (held : kernel.ReadyAt priority task) : Keeps priority task kernel kernel :=
  ⟨held, Nat.le_refl _⟩

theorem MovedTo.keeps (there : MovedTo other kernel moved generic event wake)
    (held : kernel.ReadyAt priority task) (apart : task ≠ other) :
    Keeps priority task kernel moved :=
  ⟨(there.others (.xGenericListItem task) apart).trans held, there.turns task priority apart held⟩

/-- A task that is still in its list has not been moved. -/
theorem MovedTo.waits (there : MovedTo other kernel moved generic event wake)
    (elsewhere : task = other → generic ≠ some (.pxReadyTasksLists priority))
    (held : kernel.ReadyAt priority task) (stays : moved.ReadyAt priority task) :
    moved.turn priority task ≤ kernel.turn priority task := by
  refine (there.keeps held ?_).turn
  rintro rfl
  exact elsewhere rfl (there.generic.symm.trans stays)

theorem Keeps.yieldIf (keeps : Keeps priority task kernel after) (yields : Prop)
    [Decidable yields] :
    Keeps priority task kernel (if yields then after.portYield else after) := by
  split
  · exact ⟨keeps.place, keeps.turn⟩
  · exact keeps

omit [DecidableEq T] in
theorem ReadyAt.not_in (held : kernel.ReadyAt priority task)
    (place : kernel.pvContainer (.xGenericListItem other) = some list)
    (elsewhere : list ≠ .pxReadyTasksLists priority) : task ≠ other := by
  rintro rfl
  exact elsewhere (Option.some.inj (place.symm.trans held))

variable [DecidableEq E]

theorem Kept.keeps_unblock (kept : Kept idle kernel) (held : kernel.ReadyAt priority task)
    (place : kernel.pvContainer (.xGenericListItem other) = some list) (blocking : Blocking list) :
    Keeps priority task kernel (kernel.unblock other) := by
  have there := (MovedTo.stay kept.sound other).removeGeneric.leaveEventList.addReady
  exact there.keeps held (held.not_in place fun same =>
    blocking.not_ready priority (congrArg some same))

theorem Kept.keeps_checkDelayedLoop (kept : Kept idle kernel) (held : kernel.ReadyAt priority task)
    (turns : Nat) : Keeps priority task kernel (kernel.checkDelayedLoop turns) := by
  induction turns generalizing kernel with
  | zero => exact keeps_refl held
  | succ turns ih =>
      rw [Kernel.checkDelayedLoop]
      split
      next => exact ⟨held, Nat.le_refl _⟩
      next head rest first =>
        dsimp only
        split
        next => exact ⟨held, Nat.le_refl _⟩
        next =>
          have blocking := kept.blocking_delayed.1
          have place := kept.head_of_not_awaits first (not_awaits_of_blocking blocking)
          have keeps := kept.keeps_unblock held place blocking
          exact keeps.trans (ih (kept.unblock place blocking) keeps.place)

theorem Kept.keeps_tick (kept : Kept idle kernel) (held : kernel.ReadyAt priority task) :
    Keeps priority task kernel kernel.vTaskIncrementTick := by
  rw [Kernel.vTaskIncrementTick]
  split
  next =>
    have ticked : Keeps priority task kernel kernel.ticked := by
      rw [Kernel.ticked]
      split <;> exact ⟨held, Nat.le_refl _⟩
    refine ticked.trans ?_
    change Keeps priority task kernel.ticked kernel.ticked.prvCheckDelayedTasks
    rw [Kernel.prvCheckDelayedTasks]
    split
    next => exact kept.ticked.keeps_checkDelayedLoop ticked.place _
    next => exact keeps_refl ticked.place
  next => exact ⟨held, Nat.le_refl _⟩

theorem Kept.keeps_replayLoop (kept : Kept idle kernel) (held : kernel.ReadyAt priority task)
    (uxMissedTicks : Nat) : Keeps priority task kernel (kernel.replayLoop uxMissedTicks) := by
  induction uxMissedTicks generalizing kernel with
  | zero => exact keeps_refl held
  | succ uxMissedTicks ih =>
      have first := kept.keeps_tick held
      have next : Keeps priority task kernel { kernel.vTaskIncrementTick with
          uxMissedTicks := kernel.vTaskIncrementTick.uxMissedTicks - 1 } :=
        ⟨first.place, first.turn⟩
      exact next.trans (ih { kept.vTaskIncrementTick with } next.place)

theorem Placed.keeps_movePendingLoop (placed : Placed idle kernel) (counted : kernel.Counted)
    (held : kernel.ReadyAt priority task) (turns : Nat) (yields : Bool) :
    Keeps priority task kernel (kernel.movePendingLoop turns yields).2 := by
  induction turns generalizing kernel yields with
  | zero => exact keeps_refl held
  | succ turns ih =>
      rw [Kernel.movePendingLoop]
      split
      next => exact keeps_refl held
      next head rest first =>
        have place := placed.head_of_awaits first (.inl rfl)
        obtain ⟨list, generic, blocking⟩ := placed.blocked_of_event place
        obtain ⟨moved, still⟩ := placed.moveReadied counted place
        have there :=
          (MovedTo.stay placed.sound head.pvOwner).removeEvent.removeGeneric.addReady
        have keeps := there.keeps held (held.not_in generic fun same =>
          blocking.not_ready priority (congrArg some same))
        exact keeps.trans (ih moved still keeps.place _)

theorem Kept.keeps_resumeAll (kept : Kept idle kernel) (held : kernel.ReadyAt priority task) :
    Keeps priority task kernel kernel.xTaskResumeAll.2 := by
  rw [Kernel.xTaskResumeAll]
  dsimp only
  split
  next =>
    generalize lowering : { kernel with uxSchedulerSuspended := kernel.uxSchedulerSuspended - 1 } =
      lowered
    have placed : Placed idle lowered := lowering ▸ { kept.toPlaced with }
    have counted : lowered.Counted := lowering ▸ kept.counted
    have start : Keeps priority task kernel lowered := lowering ▸ ⟨held, Nat.le_refl _⟩
    have moved := start.trans (placed.keeps_movePendingLoop counted start.place
      ((lowered.items .xPendingReadyList).length + 1) false)
    have whole := moved.trans ((placed.movePending counted).keeps_replayLoop moved.place
      lowered.movePending.2.uxMissedTicks.toNat)
    rw [Kernel.resumed]
    split
    next => exact ⟨whole.place, whole.turn⟩
    next => exact whole
  next => exact ⟨held, Nat.le_refl _⟩

/-! The steps. -/

def switches (priority : Nat) (kernel : Kernel T E) : KernelEvent T E → Bool
  | .pendSV => decide (kernel.uxSchedulerSuspended = 0) &&
      (kernel.topReady kernel.uxTopReadyPriority == some priority)
  | _ => false

omit [DecidableEq T] [DecidableEq E] in
theorem ready_ne_of_ne {level : Nat} (apart : level ≠ priority) :
    some (TaskList.pxReadyTasksLists (E := E) level) ≠ some (.pxReadyTasksLists priority) :=
  fun same => apart (TaskList.pxReadyTasksLists.inj (Option.some.inj same))

theorem switchedTo_turn_of_ne (kernel : Kernel T E) {level : Nat} (apart : level ≠ priority)
    (task : T) : (kernel.switchedTo level).turn priority task = kernel.turn priority task := by
  refine ListStore.turn_of_list (Function.update_of_ne ?_ ..) _
  exact fun same => apart (TaskList.pxReadyTasksLists.inj same).symm

/-- The task whose turn it is runs, and the others come one turn nearer. -/
theorem Placed.switchedTo_turn (placed : Placed idle kernel) (held : kernel.ReadyAt priority task) :
    (kernel.turn priority task = 0 → (kernel.switchedTo priority).pxCurrentTCB = task) ∧
      (kernel.turn priority task ≠ 0 →
        (kernel.switchedTo priority).turn priority task + 1 = kernel.turn priority task) := by
  have member : .xGenericListItem task ∈ kernel.lists.items (.pxReadyTasksLists priority) :=
    (placed.sound.container _ _).mpr held
  obtain ⟨advanced, first, later⟩ := ListStore.turn_listGetOwnerOfNextEntry placed.sound member
  refine ⟨fun zero => ?_, later⟩
  have next := first zero
  simp only [Kernel.switchedTo, advanced, next]
  rfl

theorem Placed.pendSV_turn (placed : Placed idle kernel) (held : kernel.ReadyAt priority task) :
    (kernel.switches priority .pendSV = false →
      (kernel.pendSVHandler.getD kernel).turn priority task ≤ kernel.turn priority task) ∧
    (kernel.switches priority .pendSV = true →
      (kernel.turn priority task = 0 → (kernel.pendSVHandler.getD kernel).pxCurrentTCB = task) ∧
      (kernel.turn priority task ≠ 0 →
        (kernel.pendSVHandler.getD kernel).turn priority task + 1 =
          kernel.turn priority task)) := by
  have cleared : Placed idle { kernel with pendSV := false } := { placed with }
  have search : topReady { kernel with pendSV := false } = kernel.topReady := by
    funext top
    induction top with
    | zero => rfl
    | succ top ih =>
        rw [topReady, topReady, ih]
        rfl
  rw [Kernel.switches, Kernel.pendSVHandler, Kernel.vTaskSwitchContext, search]
  by_cases going : kernel.uxSchedulerSuspended = 0
  · rw [if_neg (not_not.mpr going)]
    cases found : kernel.topReady kernel.uxTopReadyPriority with
    | none => exact ⟨fun _ => Nat.le_refl _, by simp⟩
    | some level =>
        rw [Option.map_some, Option.getD_some]
        by_cases same : level = priority
        · subst same
          refine ⟨by simp [going], fun _ => ?_⟩
          exact cleared.switchedTo_turn held
        · refine ⟨fun _ => (switchedTo_turn_of_ne { kernel with pendSV := false } same task).le, ?_⟩
          simp [same]
  · rw [if_pos going]
    exact ⟨fun _ => Nat.le_refl _, by simp [going]⟩

omit [DecidableEq E] in
/-- Of the tasks in a list one may be the one the step is about, which then is elsewhere. -/
theorem MovedTo.turn_le (there : MovedTo other kernel moved generic event wake)
    (same : after.lists = moved.lists)
    (elsewhere : task = other → generic ≠ some (.pxReadyTasksLists priority))
    (held : kernel.ReadyAt priority task) (stays : after.ReadyAt priority task) :
    after.turn priority task ≤ kernel.turn priority task := by
  rw [ReadyAt, pvContainer, same] at stays
  rw [turn, same]
  exact there.waits elsewhere held stays

theorem Kept.start_turn (kept : Kept idle kernel) (held : kernel.ReadyAt priority task)
    (first : kernel.Absent idle) (second : kernel.Absent other) (apart : other ≠ idle) :
    (kernel.vTaskStartScheduler idle other).turn priority task ≤ kernel.turn priority task := by
  have there := xTaskGenericCreate_moved kept.sound first tskIdlePriority
  have absent : (kernel.xTaskGenericCreate idle tskIdlePriority).Absent other :=
    ⟨(there.others (.xGenericListItem other) apart).trans second.1,
      (there.others (.xEventListItem other) apart).trans second.2⟩
  have next := xTaskGenericCreate_moved there.sound absent configTimerTaskPriority
  have old {new : T} (absent : kernel.Absent new) : task ≠ new := by
    rintro rfl
    cases absent.1.symm.trans held
  have keeps := there.keeps held (old first)
  exact (keeps.trans (next.keeps keeps.place (old second))).turn

/-- The running task waits, after it may have been put in an event list. -/
theorem Kept.delayCurrent_turn (kept : Kept idle kernel) (moved : Kernel T E)
    (there : MovedTo moved.pxCurrentTCB kernel moved generic event wake) {ticks : UInt32}
    (held : kernel.ReadyAt priority task)
    (stays : (moved.delayCurrent ticks).ReadyAt priority task) :
    (moved.delayCurrent ticks).turn priority task ≤ kernel.turn priority task :=
  have blocking := kept.blocking_moved there ticks
  (there.delayCurrent ticks blocking).waits (fun _ => blocking.not_ready priority) held stays

theorem Kept.placeOnEventList_turn (kept : Kept idle kernel) {event : E} {ticks : UInt32}
    (ready : kernel.Ready kernel.pxCurrentTCB) (held : kernel.ReadyAt priority task)
    (stays : (kernel.vTaskPlaceOnEventList event ticks).ReadyAt priority task) :
    (kernel.vTaskPlaceOnEventList event ticks).turn priority task ≤ kernel.turn priority task := by
  have start := MovedTo.stay kept.sound kernel.pxCurrentTCB
  rw [(kept.ready_task ready).2.2] at start
  have waiting := start.insertEvent (.pxEventList event) (by simp)
  rw [Kernel.vTaskPlaceOnEventList] at stays ⊢
  by_cases forever : ticks = portMaxDelay
  · rw [if_pos forever] at stays ⊢
    exact (waiting.removeGeneric.insertEndGeneric .xSuspendedTaskList (by simp)).waits (by simp)
      held stays
  · rw [if_neg forever] at stays ⊢
    exact kept.delayCurrent_turn (kernel.vListInsert _ _) waiting held stays

theorem Kept.placeOnEventListRestricted_turn (kept : Kept idle kernel) {event : E} {ticks : UInt32}
    (ready : kernel.Ready kernel.pxCurrentTCB) (held : kernel.ReadyAt priority task)
    (stays : (kernel.vTaskPlaceOnEventListRestricted event ticks).ReadyAt priority task) :
    (kernel.vTaskPlaceOnEventListRestricted event ticks).turn priority task ≤
      kernel.turn priority task := by
  have start := MovedTo.stay kept.sound kernel.pxCurrentTCB
  rw [(kept.ready_task ready).2.2] at start
  exact kept.delayCurrent_turn (kernel.vListInsertEnd _ _)
    (start.insertEndEvent (.pxEventList event) nofun) held stays

/-- A task that is made ready was blocked. -/
theorem MovedTo.keeps_readyOrPending (there : MovedTo other kernel moved generic none wake)
    (held : kernel.ReadyAt priority task) (apart : task ≠ other) :
    Keeps priority task kernel (moved.readyOrPending other) := by
  rw [Kernel.readyOrPending]
  split
  next => exact there.removeGeneric.addReady.keeps held apart
  next => exact (there.insertEndEvent .xPendingReadyList (by simp)).keeps held apart

theorem Kept.keeps_removeFromEventList (kept : Kept idle kernel)
    (held : kernel.ReadyAt priority task) (event : E) :
    Keeps priority task kernel (kernel.xTaskRemoveFromEventList event).2 := by
  rw [Kernel.xTaskRemoveFromEventList]
  split
  next => exact keeps_refl held
  next head rest first =>
    have place := kept.head_of_awaits first (.inr ⟨event, rfl⟩)
    obtain ⟨list, generic, blocking⟩ := kept.blocked_of_event place
    exact (MovedTo.stay kept.sound head.pvOwner).removeEvent.keeps_readyOrPending held
      (held.not_in generic fun same => blocking.not_ready priority (congrArg some same))

omit [DecidableEq E] in
theorem Keeps.unblockedBy {result : Bool × Kernel T E} (keeps : Keeps priority task kernel result.2)
    (caller : Unblocker) : Keeps priority task kernel (unblockedBy caller result) := by
  unfold Kernel.unblockedBy
  split
  next =>
    cases caller with
    | task => exact ⟨keeps.place, keeps.turn⟩
    | unlockQueue => exact ⟨keeps.place, keeps.turn⟩
    | isr isrcount => exact keeps.yieldIf _
  next => exact keeps

theorem Kept.keeps_reap (kept : Kept idle kernel) (held : kernel.ReadyAt priority task) :
    Keeps priority task kernel kernel.reapTerminated := by
  obtain same | ⟨head, rest, first, same⟩ := kernel.reapTerminated_cases
  · rw [same]
    exact keeps_refl held
  · rw [same]
    have outside : ¬Awaits (.xTasksWaitingTermination : TaskList E) := by
      rintro (same | ⟨event, same⟩) <;> cases same
    have place := kept.head_of_not_awaits first outside
    have keeps := (MovedTo.stay kept.sound head.pvOwner).removeGeneric.keeps held
      (held.not_in place (by simp))
    exact ⟨keeps.place, keeps.turn⟩

/-- A ready task whose priority changes goes to another list. -/
theorem Kept.relistReady_turn (kept : Kept idle kernel) {level : Nat}
    (differ : kernel.uxPriority other ≠ level) (held : kernel.ReadyAt priority task)
    (same : after.lists =
      ((kernel.setPriority other level).relistReady other (kernel.uxPriority other)).lists)
    (stays : after.ReadyAt priority task) :
    after.turn priority task ≤ kernel.turn priority task := by
  have changed := (MovedTo.stay kept.sound other).setPriority level
    fun list held => kept.not_delayed held
  have old : task = other → kernel.uxPriority other = priority := by
    rintro rfl
    exact (TaskList.pxReadyTasksLists.inj (Option.some.inj
      (held.symm.trans (kept.ready_task ⟨_, held⟩).1))).symm
  rw [Kernel.relistReady] at same
  split at same
  next =>
    refine changed.removeGeneric.addReady.turn_le same (fun this => ready_ne_of_ne ?_) held stays
    rw [vListRemove_uxPriority, setPriority_uxPriority, Function.update_self, ← old this]
    exact differ.symm
  next elsewhere =>
    refine changed.turn_le same (fun this place => elsewhere ?_) held stays
    rw [old this]
    exact place

theorem Kept.prioritySet_turn (kept : Kept idle kernel) {level : Nat}
    (held : kernel.ReadyAt priority task)
    (stays : (kernel.vTaskPrioritySet other level).ReadyAt priority task) :
    (kernel.vTaskPrioritySet other level).turn priority task ≤ kernel.turn priority task := by
  by_cases differ : kernel.uxPriority other ≠ capped level
  · refine kept.relistReady_turn differ held ?_ stays
    rw [Kernel.vTaskPrioritySet, if_pos differ]
    dsimp only
    generalize (if capped level > kernel.uxPriority other then _ else _ : Bool) = yields
    cases yields <;> rfl
  · rw [Kernel.vTaskPrioritySet, if_neg differ]

theorem Kept.keeps_resume (kept : Kept idle kernel) (held : kernel.ReadyAt priority task) :
    Keeps priority task kernel (kernel.vTaskResume other) := by
  rw [Kernel.vTaskResume]
  split
  next suspended =>
    obtain ⟨place, -⟩ := suspended_of_isTaskSuspended suspended.2
    exact ((MovedTo.stay kept.sound other).removeGeneric.addReady.keeps held
      (held.not_in place (by simp))).yieldIf _
  next => exact keeps_refl held

theorem Kept.keeps_resumeFromISR (kept : Kept idle kernel) (held : kernel.ReadyAt priority task) :
    Keeps priority task kernel (kernel.xTaskResumeFromISR other).2 := by
  rw [Kernel.xTaskResumeFromISR]
  split
  next suspended =>
    obtain ⟨place, nowhere⟩ := suspended_of_isTaskSuspended suspended
    have start := MovedTo.stay kept.sound other
    rw [nowhere] at start
    have keeps := start.keeps_readyOrPending held (held.not_in place (by simp))
    rw [Kernel.readyOrPending] at keeps
    split
    next going => rwa [if_pos going] at keeps
    next stopped => rwa [if_neg stopped] at keeps
  next => exact keeps_refl held

theorem Kept.step_turn (kept : Kept idle kernel) {next : KernelEvent T E}
    (allowed : kernel.Allowed idle next) (held : kernel.ReadyAt priority task)
    (stays : (kernel.step next).ReadyAt priority task)
    (other : kernel.switches priority next = false) :
    (kernel.step next).turn priority task ≤ kernel.turn priority task := by
  have start (task : T) := MovedTo.stay kept.sound task
  cases next with
  | xTaskGenericCreate new level =>
      refine ((xTaskGenericCreate_moved kept.sound allowed.1 level).keeps held ?_).turn
      rintro rfl
      cases allowed.1.1.symm.trans held
  | vTaskStartScheduler first timers =>
      obtain ⟨-, rfl, apart, absent, second⟩ := allowed
      exact kept.start_turn held absent second apart
  | sysTick =>
      have keeps : Keeps priority task kernel.portYield kernel.sysTickHandler :=
        Kept.keeps_tick { kept with } held
      exact keeps.turn
  | pendSV => exact (kept.toPlaced.pendSV_turn held).1 other
  | taskYield => exact Nat.le_refl _
  | vTaskSuspendAll => exact Nat.le_refl _
  | xTaskResumeAll => exact (kept.keeps_resumeAll held).turn
  | vTaskDelay ticks =>
      exact kept.delayCurrent_turn kernel (start kernel.pxCurrentTCB) held stays
  | vTaskPlaceOnEventList event ticks => exact kept.placeOnEventList_turn allowed.2.1 held stays
  | vTaskPlaceOnEventListRestricted event ticks =>
      exact kept.placeOnEventListRestricted_turn allowed.2.1 held stays
  | xTaskRemoveFromEventList event caller =>
      exact ((kept.keeps_removeFromEventList held event).unblockedBy caller).turn
  | vTaskDelete gone =>
      refine MovedTo.turn_le ((start gone).removeGeneric.leaveEventList.insertEndGeneric
        .xTasksWaitingTermination (by simp)) ?_ (by simp) held stays
      change (kernel.vTaskDelete gone).lists = _
      rw [Kernel.vTaskDelete]
      split <;> rfl
  | prvCheckTasksWaitingTermination => exact (kept.keeps_reap held).turn
  | vTaskPrioritySet changed level => exact kept.prioritySet_turn held stays
  | vTaskSuspend suspended =>
      refine MovedTo.turn_le ((start suspended).removeGeneric.leaveEventList.insertEndGeneric
        .xSuspendedTaskList (by simp)) ?_ (by simp) held stays
      change (kernel.vTaskSuspend suspended).lists = _
      rw [Kernel.vTaskSuspend]
      split <;> rfl
  | vTaskResume resumed => exact (kept.keeps_resume held).turn
  | xTaskResumeFromISR resumed => exact ((kept.keeps_resumeFromISR held).yieldIf _).turn

/-! Runs. -/

def switchCount (priority : Nat) : Kernel T E → List (KernelEvent T E) → Nat
  | _, [] => 0
  | kernel, next :: rest =>
      (if kernel.switches priority next then 1 else 0) +
        switchCount priority (kernel.step next) rest

omit [DecidableEq T] [DecidableEq E] in
theorem switch_is_pendSV {next : KernelEvent T E} (switch : kernel.switches priority next = true) :
    next = .pendSV := by
  cases next with
  | pendSV => rfl
  | _ => cases switch

theorem Kept.runs_in_turn (kept : Kept idle kernel) (held : kernel.ReadyAt priority task)
    {events : List (KernelEvent T E)} (allowed : Along Kernel.step (Allowed idle) kernel events)
    (stays : Along Kernel.step (fun state next => (state.step next).ReadyAt priority task) kernel
      events)
    (enough : kernel.turn priority task < switchCount priority kernel events) :
    ∃ before after, events = before ++ .pendSV :: after ∧
      ((before ++ [.pendSV]).foldl Kernel.step kernel).pxCurrentTCB = task := by
  induction events generalizing kernel with
  | nil => exact absurd enough (Nat.not_lt_zero _)
  | cons next rest ih =>
      rw [switchCount] at enough
      by_cases switch : kernel.switches priority next = true
      · have pend := switch_is_pendSV switch
        subst pend
        obtain ⟨first, later⟩ := (kept.toPlaced.pendSV_turn held).2 switch
        by_cases zero : kernel.turn priority task = 0
        · exact ⟨[], rest, rfl, first zero⟩
        · have nearer := later zero
          rw [if_pos switch] at enough
          obtain ⟨before, after, split, found⟩ := ih (kept.step allowed.1) stays.1 allowed.2 stays.2
            (by change (kernel.pendSVHandler.getD kernel).turn priority task < _; omega)
          exact ⟨.pendSV :: before, after, congrArg (.pendSV :: ·) split, found⟩
      · have waits := kept.step_turn allowed.1 held stays.1 (Bool.eq_false_iff.mpr switch)
        rw [if_neg switch] at enough
        obtain ⟨before, after, split, found⟩ := ih (kept.step allowed.1) stays.1 allowed.2 stays.2
          (by omega)
        exact ⟨next :: before, after, congrArg (next :: ·) split, found⟩

def sharedSample : Kernel Nat Unit :=
  [.xTaskGenericCreate 3 2, .vTaskStartScheduler 8 9].foldl step (firstCreated 1 2)

theorem reached_sharedSample : Reached 8 sharedSample :=
  ⟨1, 2, [.xTaskGenericCreate 3 2, .vTaskStartScheduler 8 9],
    ⟨⟨⟨rfl, rfl⟩, 2, rfl⟩, ⟨rfl, rfl, by decide, ⟨rfl, rfl⟩, rfl, rfl⟩, trivial⟩, rfl⟩

end Kernel

end SmartMeter
