import SmartMeter.Kernel.TaskClock

/-!
A task that waits for some ticks goes on after that number of ticks, whatever the others do, unless
someone wakes it or takes it away.
-/

namespace SmartMeter

open Runs

variable {T E : Type} [DecidableEq E]

namespace Kernel

def Touches (kernel : Kernel T E) (task : T) : KernelEvent T E → Prop
  | .vTaskDelay _ | .vTaskPlaceOnEventList _ _ | .vTaskPlaceOnEventListRestricted _ _ =>
      kernel.pxCurrentTCB = task
  | .xTaskRemoveFromEventList event _ =>
      (kernel.items (.pxEventList event)).head? = some (.xEventListItem task)
  | .xTaskResumeAll => kernel.pvContainer (.xEventListItem task) = some .xPendingReadyList
  | .vTaskDelete other | .vTaskSuspend other => other = task
  | _ => False

/-- A task sleeps on until its tick, and is ready from then on. -/
structure Stays (task : T) (kernel after : Kernel T E) : Prop where
  later : kernel.now ≤ after.now
  asleep : ∀ tick, kernel.deadline task = some tick → after.now < tick →
    after.deadline task = some tick
  awake : ∀ tick, kernel.deadline task = some tick → tick ≤ after.now → after.Ready task
  ready : kernel.Ready task → after.Ready task

structure Clocked (idle : T) (kernel : Kernel T E) : Prop extends Placed idle kernel where
  timed : kernel.Timed

variable {kernel moved after last : Kernel T E} {idle task other : T}
variable {generic event : Option (TaskList E)} {wake : UInt32} {list : TaskList E}

theorem Stays.trans (first : Stays task kernel moved) (second : Stays task moved after) :
    Stays task kernel after where
  later := first.later.trans second.later
  asleep tick at_ early :=
    second.asleep tick (first.asleep tick at_ (second.later.trans_lt early)) early
  awake tick at_ reached := by
    by_cases early : moved.now < tick
    · exact second.awake tick (first.asleep tick at_ early) reached
    · exact second.ready (first.awake tick at_ (Nat.le_of_not_lt early))
  ready held := second.ready (first.ready held)

theorem Timed.deadline_ahead (timed : kernel.Timed) {tick : Nat}
    (at_ : kernel.deadline task = some tick) :
    kernel.now < tick ∧ tick < kernel.now + 2 ^ 32 := by
  have bound := kernel.xTickCount.toNat_lt
  have low := (kernel.lists.xItemValue (.xGenericListItem task)).toNat_lt
  rw [now]
  by_cases first : kernel.pvContainer (.xGenericListItem task) = some kernel.pxDelayedTaskList
  · have ahead := UInt32.lt_iff_toNat_lt.mp (timed.ahead task first)
    rw [deadline_of_delayed first, Option.some.injEq] at at_
    omega
  · by_cases second : kernel.pvContainer (.xGenericListItem task) =
        some kernel.pxOverflowDelayedTaskList
    · have behind := UInt32.lt_iff_toNat_lt.mp (timed.behind task second)
      rw [deadline_of_overflow first second, Option.some.injEq] at at_
      omega
    · rw [deadline_elsewhere first second] at at_
      cases at_

theorem Clocked.stays_of_same (clocked : Clocked idle kernel) (now : after.now = kernel.now)
    (deadline : after.deadline task = kernel.deadline task)
    (container : after.pvContainer (.xGenericListItem task) =
      kernel.pvContainer (.xGenericListItem task)) : Stays task kernel after where
  later := now.ge
  asleep _ at_ _ := deadline.trans at_
  awake tick at_ reached := by
    have ahead := clocked.timed.deadline_ahead at_
    omega
  ready := fun ⟨priority, held⟩ => ⟨priority, container.trans held⟩

theorem Clocked.stays_of_other [DecidableEq T] (clocked : Clocked idle kernel)
    (there : MovedTo other kernel moved generic event wake) (apart : task ≠ other) :
    Stays task kernel moved :=
  clocked.stays_of_same there.now_eq (there.deadline_other apart)
    (there.others (.xGenericListItem task) apart)

/-- A task that is neither delayed nor ready has nothing to keep. -/
theorem Clocked.stays_of_none (clocked : Clocked idle kernel)
    (place : kernel.pvContainer (.xGenericListItem task) = generic)
    (elsewhere : ∀ list, generic = some list →
      ¬DelayedList list ∧ ∀ priority, list ≠ .pxReadyTasksLists priority)
    (later : kernel.now ≤ after.now) : Stays task kernel after := by
  have none_ := clocked.deadline_none place fun list held => (elsewhere list held).1
  refine ⟨later, fun tick at_ => ?_, fun tick at_ => ?_, fun ⟨priority, held⟩ => ?_⟩
  · rw [none_] at at_
    cases at_
  · rw [none_] at at_
    cases at_
  · exact absurd rfl ((elsewhere _ (place.symm.trans held)).2 priority)

theorem Clocked.stays_tick (clocked : Clocked idle kernel)
    (tick : TickedTo kernel after) (task : T) : Stays task kernel after := by
  by_cases now : kernel.deadline task = some (kernel.now + 1)
  · have woken := tick.woken task now
    refine ⟨?_, fun time at_ early => ?_, fun time at_ reached => ⟨_, woken.1⟩,
      fun _ => ⟨_, woken.1⟩⟩
    · rw [tick.now]
      exact Nat.le_succ _
    · rw [now] at at_
      rw [tick.now, Option.some.inj at_] at early
      exact absurd early (Nat.lt_irrefl _)
  · obtain ⟨container, deadline⟩ := tick.others (.xGenericListItem task) now
    refine ⟨?_, fun time at_ early => deadline.trans at_, fun time at_ reached => ?_,
      fun ⟨priority, held⟩ => ⟨priority, container.trans held⟩⟩
    · rw [tick.now]
      exact Nat.le_succ _
    · have ahead := clocked.timed.deadline_ahead at_
      rw [tick.now] at reached
      rw [at_, Option.some.injEq] at now
      omega

theorem Clocked.stays (clocked : Clocked idle kernel) (task : T) : Stays task kernel kernel :=
  clocked.stays_of_same rfl rfl rfl

/-- What becomes of the clock, and of the tasks the step is not about. -/
structure Follows (touched : T → Prop) (kernel after : Kernel T E) : Prop where
  timed : after.Timed
  running : after.xSchedulerRunning = kernel.xSchedulerRunning
  later : kernel.now ≤ after.now
  stays : ∀ task, ¬touched task → Stays task kernel after

theorem Clocked.follows_of_moved [DecidableEq T] (clocked : Clocked idle kernel)
    (there : MovedTo task kernel moved generic event wake)
    (ahead : generic = some kernel.pxDelayedTaskList →
      kernel.xTickCount < wake ∧ moved.xNextTaskUnblockTime ≤ wake)
    (behind : generic = some kernel.pxOverflowDelayedTaskList → wake < kernel.xTickCount) :
    Follows (· = task) kernel moved :=
  ⟨clocked.timed.move clocked.toPlaced there ahead behind, there.running, there.now_eq.ge,
    fun _ apart => clocked.stays_of_other there apart⟩

theorem Clocked.follows_same (clocked : Clocked idle kernel) :
    Follows (fun _ => False) kernel kernel :=
  ⟨clocked.timed, rfl, Nat.le_refl _, fun task _ => clocked.stays task⟩

/-- The task has gone to a list that is not for delayed tasks. -/
theorem Clocked.follows_elsewhere [DecidableEq T] (clocked : Clocked idle kernel)
    (there : MovedTo task kernel moved generic event wake)
    (elsewhere : ∀ list, generic = some list → ¬DelayedList list) :
    Follows (· = task) kernel moved := by
  obtain ⟨delayed, overflow, -⟩ := clocked.delayed_lists
  refine clocked.follows_of_moved there (fun same => ?_) (fun same => ?_)
  · exact absurd delayed (elsewhere _ same)
  · exact absurd overflow (elsewhere _ same)

/-- The task stays in the list it was in. -/
theorem Clocked.follows_staying [DecidableEq T] (clocked : Clocked idle kernel)
    (there : MovedTo task kernel moved (kernel.pvContainer (.xGenericListItem task)) event
      (kernel.lists.xItemValue (.xGenericListItem task))) :
    Follows (fun _ => False) kernel moved := by
  have timed := clocked.timed.move clocked.toPlaced there
    (fun place => ⟨clocked.timed.ahead task place,
      UInt32.le_trans there.unblock (clocked.timed.unblock task place)⟩)
    (clocked.timed.behind task)
  refine ⟨timed, there.running, there.now_eq.ge, fun other _ => ?_⟩
  by_cases same : other = task
  · subst same
    refine clocked.stays_of_same there.now_eq ?_ there.generic
    rw [deadline, deadline, there.generic, there.wake, there.delayed, there.overflow,
      there.overflows]
  · exact clocked.stays_of_other there same

theorem Follows.yieldIf {touched : T → Prop} (follows : Follows touched kernel after)
    (yields : Prop) [Decidable yields] :
    Follows touched kernel (if yields then after.portYield else after) := by
  split
  · exact ⟨{ follows.timed with }, follows.running, follows.later,
    fun task apart => { follows.stays task apart with }⟩
  · exact follows

theorem Clocked.stays_of_ready (clocked : Clocked idle kernel) (before : kernel.Ready task)
    (ready : after.Ready task) (later : kernel.now ≤ after.now) : Stays task kernel after := by
  obtain ⟨priority, place⟩ := before
  have none_ := clocked.deadline_none place fun list same => by
    cases same
    exact nofun
  refine ⟨later, fun tick at_ => ?_, fun tick at_ => ?_, fun _ => ready⟩
  · rw [none_] at at_
    cases at_
  · rw [none_] at at_
    cases at_

theorem Follows.trans {touched : T → Prop} (first : Follows touched kernel moved)
    (second : Follows (fun _ => False) moved after) : Follows touched kernel after :=
  ⟨second.timed, second.running.trans first.running, first.later.trans second.later,
    fun task apart => (first.stays task apart).trans (second.stays task not_false)⟩

theorem Follows.weaken {touched wider : T → Prop} (follows : Follows touched kernel after)
    (within : ∀ task, touched task → wider task ∨ Stays task kernel after) :
    Follows wider kernel after := by
  refine ⟨follows.timed, follows.running, follows.later, fun task apart => ?_⟩
  by_cases inside : touched task
  · exact (within task inside).resolve_left apart
  · exact follows.stays task inside

variable [DecidableEq T]

theorem Kept.sysTick_follows (kept : Kept idle kernel) (timed : kernel.Timed) :
    Follows (fun _ => False) kernel kernel.sysTickHandler := by
  have clocked : Clocked idle kernel := ⟨kept.toPlaced, timed⟩
  have yielded : Clocked idle kernel.portYield :=
    { clocked with timed := { clocked.timed with } }
  have keeps : Kept idle kernel.portYield := { kept with }
  by_cases going : kernel.uxSchedulerSuspended = 0
  · have tick := keeps.tick_spec yielded.timed going
    have later : kernel.now ≤ kernel.sysTickHandler.now :=
      (Nat.le_succ kernel.now).trans tick.now.ge
    exact ⟨tick.timed, tick.running, later, fun task _ => { yielded.stays_tick tick task with }⟩
  · have stopped : kernel.sysTickHandler =
        { kernel.portYield with uxMissedTicks := kernel.uxMissedTicks + 1 } :=
      if_neg going
    rw [stopped]
    exact ⟨{ clocked.timed with }, rfl, Nat.le_refl _,
      fun task _ => clocked.stays_of_same rfl rfl rfl⟩

theorem Clocked.xTaskGenericCreate (clocked : Clocked idle kernel) (absent : kernel.Absent task)
    (priority : Nat) :
    Follows (fun _ => False) kernel (kernel.xTaskGenericCreate task priority) := by
  have there := xTaskGenericCreate_moved clocked.sound absent priority
  refine (clocked.follows_elsewhere there fun list same => ?_).weaken fun other same => .inr ?_
  · cases same
    exact nofun
  · rw [same]
    exact clocked.stays_of_none absent.1 nofun there.now_eq.ge

theorem Clocked.vTaskDelete (clocked : Clocked idle kernel) (task : T) :
    Follows (· = task) kernel (kernel.vTaskDelete task) := by
  have there := (MovedTo.stay clocked.sound task).removeGeneric.leaveEventList.insertEndGeneric
    .xTasksWaitingTermination nofun
  have follows := clocked.follows_elsewhere there fun list same => by
    cases same
    exact nofun
  rw [Kernel.vTaskDelete]
  split
  next => exact ⟨{ follows.timed with }, follows.running, follows.later,
    fun other apart => { follows.stays other apart with }⟩
  next => exact ⟨{ follows.timed with }, follows.running, follows.later,
    fun other apart => { follows.stays other apart with }⟩

theorem Clocked.vTaskSuspend (clocked : Clocked idle kernel) (task : T) :
    Follows (· = task) kernel (kernel.vTaskSuspend task) := by
  have there := (MovedTo.stay clocked.sound task).removeGeneric.leaveEventList.insertEndGeneric
    .xSuspendedTaskList nofun
  have follows := clocked.follows_elsewhere there fun list same => by
    cases same
    exact nofun
  exact follows.yieldIf _

theorem Clocked.vTaskPrioritySet (clocked : Clocked idle kernel) (task : T) (priority : Nat) :
    Follows (fun _ => False) kernel (kernel.vTaskPrioritySet task priority) := by
  have changed := (MovedTo.stay clocked.sound task).setPriority (capped priority)
    fun list held => clocked.not_delayed held
  have moved : Follows (fun _ => False) kernel
      ((kernel.setPriority task (capped priority)).relistReady task (kernel.uxPriority task)) := by
    rw [Kernel.relistReady]
    split
    next ready =>
      have there := changed.removeGeneric.addReady
      refine (clocked.follows_elsewhere there fun list same => ?_).weaken fun other same => .inr ?_
      · cases same
        simp
      · rw [same]
        exact clocked.stays_of_ready ⟨_, ready⟩ ⟨_, there.generic⟩ there.now_eq.ge
    next elsewhere => exact clocked.follows_staying changed
  rw [Kernel.vTaskPrioritySet]
  split
  next => exact moved.yieldIf _
  next => exact clocked.follows_same

theorem Clocked.reapTerminated (clocked : Clocked idle kernel) :
    Follows (fun _ => False) kernel kernel.reapTerminated := by
  obtain same | ⟨head, rest, held, same⟩ := kernel.reapTerminated_cases
  · rw [same]
    exact clocked.follows_same
  · rw [same]
    have outside : ¬Awaits (.xTasksWaitingTermination : TaskList E) := by
      rintro (same | ⟨event, same⟩) <;> cases same
    have place := clocked.head_of_not_awaits held outside
    have there := (MovedTo.stay clocked.sound head.pvOwner).removeGeneric
    have gone : Follows (fun _ => False) kernel
        (kernel.vListRemove (.xGenericListItem head.pvOwner)) := by
      refine (clocked.follows_elsewhere there (by simp)).weaken fun other same => .inr ?_
      rw [same]
      refine clocked.stays_of_none place (fun list same => ?_) there.now_eq.ge
      cases same
      exact ⟨by simp, by simp⟩
    exact ⟨{ gone.timed with }, gone.running, gone.later,
      fun task apart => { gone.stays task apart with }⟩

theorem toNat_add_ticks (tick ticks : UInt32) :
    tick + ticks < tick ∧ (tick + ticks).toNat + 2 ^ 32 = tick.toNat + ticks.toNat ∨
      ¬tick + ticks < tick ∧ (tick + ticks).toNat = tick.toNat + ticks.toNat := by
  have one := tick.toNat_lt
  have two := ticks.toNat_lt
  rw [UInt32.lt_iff_toNat_lt, UInt32.toNat_add]
  omega

theorem delayCurrent_unblock (kernel : Kernel T E) {ticks : UInt32}
    (ahead : ¬kernel.xTickCount + ticks < kernel.xTickCount) :
    (kernel.delayCurrent ticks).xNextTaskUnblockTime ≤ kernel.xTickCount + ticks := by
  have same : (kernel.delayCurrent ticks).xNextTaskUnblockTime =
      if kernel.xTickCount + ticks < kernel.xNextTaskUnblockTime then kernel.xTickCount + ticks
      else kernel.xNextTaskUnblockTime :=
    congrArg xNextTaskUnblockTime (if_neg ahead)
  rw [same]
  split
  next => exact UInt32.le_refl _
  next late => exact UInt32.not_lt.mp late

/-- The running task waits, after it may have been put in an event list. -/
theorem Clocked.delayCurrent (clocked : Clocked idle kernel) (moved : Kernel T E)
    (there : MovedTo moved.pxCurrentTCB kernel moved generic event wake) {ticks : UInt32}
    (some_ : ticks ≠ 0) : Follows (· = moved.pxCurrentTCB) kernel (moved.delayCurrent ticks) ∧
      (moved.delayCurrent ticks).deadline moved.pxCurrentTCB =
        some (kernel.now + ticks.toNat) := by
  have waits := there.delayCurrent ticks (clocked.blocking_moved there ticks)
  obtain ⟨-, -, apart⟩ := clocked.delayed_lists
  have positive : 0 < ticks.toNat :=
    Nat.pos_of_ne_zero fun zero => some_ (UInt32.toNat_inj.mp zero)
  rcases toNat_add_ticks moved.xTickCount ticks with ⟨wraps, sum⟩ | ⟨ahead, sum⟩
  · have list : moved.listToDelay ticks = kernel.pxOverflowDelayedTaskList :=
      (if_pos wraps).trans there.overflow
    rw [list] at waits
    constructor
    · refine clocked.follows_of_moved waits (fun same => ?_) (fun _ => there.tick ▸ wraps)
      exact absurd (Option.some.inj same).symm apart
    · have off : some kernel.pxOverflowDelayedTaskList ≠ some kernel.pxDelayedTaskList :=
        fun same => apart (Option.some.inj same).symm
      rw [deadline_of_overflow, waits.wake, waits.overflows, now]
      · rw [there.tick] at sum ⊢
        rw [Option.some.injEq]
        omega
      · rwa [waits.generic, waits.delayed]
      · rw [waits.generic, waits.overflow]
  · have list : moved.listToDelay ticks = kernel.pxDelayedTaskList :=
      (if_neg ahead).trans there.delayed
    rw [list] at waits
    constructor
    · refine clocked.follows_of_moved waits (fun _ => ⟨?_, delayCurrent_unblock moved ahead⟩)
        (fun same => absurd (Option.some.inj same) apart)
      rw [UInt32.lt_iff_toNat_lt, sum, there.tick]
      omega
    · rw [deadline_of_delayed, waits.wake, waits.overflows, now]
      · rw [there.tick] at sum ⊢
        rw [Option.some.injEq]
        omega
      · rw [waits.generic, waits.delayed]

theorem Clocked.vTaskPlaceOnEventList (clocked : Clocked idle kernel)
    (ready : kernel.Ready kernel.pxCurrentTCB) (event : E) {ticks : UInt32} (some_ : ticks ≠ 0) :
    Follows (· = kernel.pxCurrentTCB) kernel (kernel.vTaskPlaceOnEventList event ticks) ∧
      (ticks ≠ portMaxDelay → (kernel.vTaskPlaceOnEventList event ticks).deadline
        kernel.pxCurrentTCB = some (kernel.now + ticks.toNat)) := by
  obtain ⟨place, -, nowhere⟩ := clocked.ready_task ready
  have start := MovedTo.stay clocked.sound kernel.pxCurrentTCB
  rw [nowhere, place] at start
  have waiting := start.insertEvent (.pxEventList event) (by simp)
  rw [Kernel.vTaskPlaceOnEventList]
  split
  next forever =>
    refine ⟨?_, fun limited => absurd forever limited⟩
    refine clocked.follows_elsewhere (waiting.removeGeneric.insertEndGeneric .xSuspendedTaskList
      (by simp)) fun list same => ?_
    cases same
    simp
  next =>
    obtain ⟨follows, deadline⟩ := clocked.delayCurrent
      (kernel.vListInsert (.pxEventList event) (.xEventListItem kernel.pxCurrentTCB)) waiting some_
    exact ⟨follows, fun _ => deadline⟩

theorem Clocked.vTaskPlaceOnEventListRestricted (clocked : Clocked idle kernel)
    (ready : kernel.Ready kernel.pxCurrentTCB) (event : E) {ticks : UInt32} (some_ : ticks ≠ 0) :
    Follows (· = kernel.pxCurrentTCB) kernel
      (kernel.vTaskPlaceOnEventListRestricted event ticks) := by
  obtain ⟨place, -, nowhere⟩ := clocked.ready_task ready
  have start := MovedTo.stay clocked.sound kernel.pxCurrentTCB
  rw [nowhere, place] at start
  exact (clocked.delayCurrent
    (kernel.vListInsertEnd (.pxEventList event) (.xEventListItem kernel.pxCurrentTCB))
    (start.insertEndEvent (.pxEventList event) nofun) some_).1

theorem Clocked.readyOrPending (clocked : Clocked idle kernel)
    (there : MovedTo task kernel moved (kernel.pvContainer (.xGenericListItem task)) none
      (kernel.lists.xItemValue (.xGenericListItem task))) :
    Follows (· = task) kernel (moved.readyOrPending task) := by
  rw [Kernel.readyOrPending]
  split
  next =>
    refine clocked.follows_elsewhere there.removeGeneric.addReady fun list same => ?_
    cases same
    simp
  next =>
    exact (clocked.follows_staying (there.insertEndEvent .xPendingReadyList (by simp))).weaken
      (by simp)

theorem Clocked.xTaskRemoveFromEventList (clocked : Clocked idle kernel) (event : E) :
    Follows (fun task => (kernel.items (.pxEventList event)).head? = some (.xEventListItem task))
      kernel (kernel.xTaskRemoveFromEventList event).2 := by
  rw [Kernel.xTaskRemoveFromEventList]
  split
  next => exact clocked.follows_same.weaken (by simp)
  next head rest held =>
    have there := (MovedTo.stay clocked.sound head.pvOwner).removeEvent
    have member := clocked.item_of_awaits (held ▸ List.mem_cons_self) (.inr ⟨event, rfl⟩)
    refine (clocked.readyOrPending there).weaken fun task same => .inl ?_
    rw [same, held, ← member]
    rfl

omit [DecidableEq T] in
theorem Follows.unblockedBy {touched : T → Prop} {result : Bool × Kernel T E}
    (follows : Follows touched kernel result.2) (caller : Unblocker) :
    Follows touched kernel (unblockedBy caller result) := by
  unfold Kernel.unblockedBy
  split
  next =>
    cases caller with
    | task => exact follows.yieldIf True
    | unlockQueue => exact ⟨{ follows.timed with }, follows.running, follows.later,
      fun task apart => { follows.stays task apart with }⟩
    | isr isrcount => exact follows.yieldIf _
  next => exact follows

theorem Clocked.resumeSuspended (clocked : Clocked idle kernel)
    (suspended : kernel.xTaskIsTaskSuspended task) :
    Follows (fun _ => False) kernel (kernel.readyOrPending task) := by
  obtain ⟨place, nowhere⟩ := suspended_of_isTaskSuspended suspended
  have start := MovedTo.stay clocked.sound task
  rw [nowhere] at start
  have follows := clocked.readyOrPending start
  refine follows.weaken fun other same => .inr ?_
  rw [same]
  refine clocked.stays_of_none place (fun list held => ?_) follows.later
  cases held
  exact ⟨nofun, nofun⟩

theorem Clocked.xTaskResumeFromISR (clocked : Clocked idle kernel) (task : T) :
    Follows (fun _ => False) kernel (kernel.xTaskResumeFromISR task).2 := by
  rw [Kernel.xTaskResumeFromISR]
  split
  next suspended =>
    have ready := clocked.resumeSuspended suspended
    rw [Kernel.readyOrPending] at ready
    split
    next going => rwa [if_pos going] at ready
    next stopped => rwa [if_neg stopped] at ready
  next => exact clocked.follows_same

theorem Clocked.vTaskResume (clocked : Clocked idle kernel) (task : T) :
    Follows (fun _ => False) kernel (kernel.vTaskResume task) := by
  rw [Kernel.vTaskResume]
  split
  next suspended =>
    obtain ⟨place, -⟩ := suspended_of_isTaskSuspended suspended.2
    have there := (MovedTo.stay clocked.sound task).removeGeneric.addReady
    have follows := clocked.follows_elsewhere there fun list same => by
      cases same
      simp
    refine (follows.weaken fun other same => .inr ?_).yieldIf _
    rw [same]
    refine clocked.stays_of_none place (fun list held => ?_) follows.later
    cases held
    exact ⟨by simp, by simp⟩
  next => exact clocked.follows_same

/-! The scheduler goes on. -/

theorem Kept.replayLoop_follows (kept : Kept idle kernel) (timed : kernel.Timed)
    (going : kernel.uxSchedulerSuspended = 0) (uxMissedTicks : Nat) :
    Follows (fun _ => False) kernel (kernel.replayLoop uxMissedTicks) ∧
      (kernel.replayLoop uxMissedTicks).now = kernel.now + uxMissedTicks := by
  induction uxMissedTicks generalizing kernel with
  | zero =>
      have clocked : Clocked idle kernel := ⟨kept.toPlaced, timed⟩
      exact ⟨clocked.follows_same, (Nat.add_zero kernel.now).symm⟩
  | succ uxMissedTicks ih =>
      have clocked : Clocked idle kernel := ⟨kept.toPlaced, timed⟩
      have tick := kept.tick_spec timed going
      have next : Kept idle { kernel.vTaskIncrementTick with
          uxMissedTicks := kernel.vTaskIncrementTick.uxMissedTicks - 1 } :=
        { kept.vTaskIncrementTick with }
      obtain ⟨follows, now⟩ := ih next { tick.timed with } (tick.suspended.trans going)
      have time :
          (kernel.replayLoop (uxMissedTicks + 1)).now = kernel.now + (uxMissedTicks + 1) := by
        refine now.trans ?_
        change kernel.vTaskIncrementTick.now + uxMissedTicks = _
        rw [tick.now]
        omega
      refine ⟨⟨follows.timed, follows.running.trans tick.running, ?_, fun task _ => ?_⟩, time⟩
      · omega
      · have first : Stays task kernel { kernel.vTaskIncrementTick with
            uxMissedTicks := kernel.vTaskIncrementTick.uxMissedTicks - 1 } :=
          { clocked.stays_tick tick task with }
        exact first.trans (follows.stays task not_false)

/-- The pending tasks are those the first loop is about. -/
theorem Placed.movePendingLoop_follows (placed : Placed idle kernel) (counted : kernel.Counted)
    (timed : kernel.Timed) (turns : Nat) (yields : Bool) :
    Follows (fun task => kernel.pvContainer (.xEventListItem task) = some .xPendingReadyList) kernel
      (kernel.movePendingLoop turns yields).2 ∧
        (kernel.movePendingLoop turns yields).2.now = kernel.now ∧
          (kernel.movePendingLoop turns yields).2.uxSchedulerSuspended =
            kernel.uxSchedulerSuspended := by
  induction turns generalizing kernel yields with
  | zero =>
      have clocked : Clocked idle kernel := ⟨placed, timed⟩
      exact ⟨clocked.follows_same.weaken (by simp), rfl, rfl⟩
  | succ turns ih =>
      have clocked : Clocked idle kernel := ⟨placed, timed⟩
      rw [Kernel.movePendingLoop]
      split
      next => exact ⟨clocked.follows_same.weaken (by simp), rfl, rfl⟩
      next head rest held =>
        have place := placed.head_of_awaits held (.inl rfl)
        have there := (MovedTo.stay placed.sound head.pvOwner).removeEvent.removeGeneric.addReady
        have first := clocked.follows_elsewhere there fun list same => by
          cases same
          simp
        obtain ⟨moved, still⟩ := placed.moveReadied counted place
        obtain ⟨follows, now, suspended⟩ := ih moved still first.timed
          (yields || decide ((kernel.moveReadied head.pvOwner).uxPriority head.pvOwner ≥
            (kernel.moveReadied head.pvOwner).uxPriority
              (kernel.moveReadied head.pvOwner).pxCurrentTCB))
        refine ⟨⟨follows.timed, follows.running.trans first.running,
          first.later.trans follows.later, fun task apart => ?_⟩, now.trans there.now_eq,
          suspended.trans there.suspended⟩
        have other : task ≠ head.pvOwner := fun same => apart (same ▸ place)
        refine (first.stays task other).trans (follows.stays task ?_)
        rw [← there.others (.xEventListItem task) other] at apart
        exact apart

theorem Placed.resumed_follows (placed : Placed idle kernel) (counted : kernel.Counted)
    (timed : kernel.Timed) (going : kernel.uxSchedulerSuspended = 0) :
    Follows (fun task => kernel.pvContainer (.xEventListItem task) = some .xPendingReadyList) kernel
      kernel.resumed.2 := by
  obtain ⟨pending, -, suspended⟩ := placed.movePendingLoop_follows counted timed
    ((kernel.items .xPendingReadyList).length + 1) false
  have replayed := ((placed.movePending counted).replayLoop_follows pending.timed
    (suspended.trans going) kernel.movePending.2.uxMissedTicks.toNat).1
  have both := pending.trans replayed
  rw [Kernel.resumed]
  split
  next => exact ⟨{ both.timed with }, both.running, both.later, fun task apart =>
    { both.stays task apart with }⟩
  next => exact both

theorem Kept.resumeAll_follows (kept : Kept idle kernel) (timed : kernel.Timed) :
    Follows (fun task => kernel.pvContainer (.xEventListItem task) = some .xPendingReadyList) kernel
      kernel.xTaskResumeAll.2 := by
  have clocked : Clocked idle kernel := ⟨kept.toPlaced, timed⟩
  have lowered : Placed idle
      { kernel with uxSchedulerSuspended := kernel.uxSchedulerSuspended - 1 } :=
    { kept.toPlaced with }
  rw [Kernel.xTaskResumeAll]
  split
  next going =>
    have follows := lowered.resumed_follows kept.counted { timed with } going.1
    exact ⟨follows.timed, follows.running, follows.later, fun task apart =>
      { follows.stays task apart with }⟩
  next => exact ⟨{ timed with }, rfl, Nat.le_refl _, fun task _ =>
    { clocked.stays task with }⟩

theorem Clocked.switchedTo_follows (clocked : Clocked idle kernel) (priority : Nat) :
    Follows (fun _ => False) kernel (kernel.switchedTo priority) := by
  have ordered {list : TaskList E} (before : kernel.lists.Ordered list) :
      (kernel.switchedTo priority).lists.Ordered list := by
    have items := ListStore.listGetOwnerOfNextEntry_items kernel.lists
      (.pxReadyTasksLists priority) list
    rw [ListStore.Ordered, ← items] at before
    exact before
  have timed := clocked.timed
  exact ⟨⟨ordered timed.delayed, ordered timed.overflow, timed.ahead, timed.behind,
    timed.unblock⟩, rfl, Nat.le_refl _, fun task _ => clocked.stays_of_same rfl rfl rfl⟩

theorem Clocked.pendSV_follows (clocked : Clocked idle kernel) :
    Follows (fun _ => False) kernel (kernel.pendSVHandler.getD kernel) := by
  have cleared : Clocked idle { kernel with pendSV := false } :=
    { clocked with timed := { clocked.timed with } }
  have keeps (after : Kernel T E)
      (follows : Follows (fun _ => False) { kernel with pendSV := false } after) :
      Follows (fun _ => False) kernel after :=
    ⟨follows.timed, follows.running, follows.later, fun task apart =>
      { follows.stays task apart with }⟩
  rw [Kernel.pendSVHandler, vTaskSwitchContext]
  split
  next => exact keeps _ ⟨{ clocked.timed with }, rfl, Nat.le_refl _, fun task _ =>
    { cleared.stays task with }⟩
  next =>
    cases topReady { kernel with pendSV := false } kernel.uxTopReadyPriority with
    | none => exact clocked.follows_same
    | some priority => exact keeps _ (cleared.switchedTo_follows priority)

theorem Kept.start_timed (kept : Kept idle kernel) (timed : kernel.Timed)
    (stopped : kernel.xSchedulerRunning = false) (zero : kernel.xTickCount = 0)
    (first : kernel.Absent idle) (second : kernel.Absent task) (apart : task ≠ idle) :
    (kernel.vTaskStartScheduler idle task).Timed := by
  have clocked : Clocked idle kernel := ⟨kept.toPlaced, timed⟩
  have one := kept.xTaskGenericCreate first (fun started => nomatch stopped ▸ started)
    tskIdlePriority
  have there := xTaskGenericCreate_moved kept.sound first tskIdlePriority
  have absent : (kernel.xTaskGenericCreate idle tskIdlePriority).Absent task :=
    ⟨(there.others (.xGenericListItem task) apart).trans second.1,
      (there.others (.xEventListItem task) apart).trans second.2⟩
  have next : Clocked idle (kernel.xTaskGenericCreate idle tskIdlePriority) :=
    ⟨one.toPlaced, (clocked.xTaskGenericCreate first tskIdlePriority).timed⟩
  have created := (next.xTaskGenericCreate absent configTimerTaskPriority).timed
  have then_ := xTaskGenericCreate_moved one.sound absent configTimerTaskPriority
  have tick := (then_.tick.trans there.tick).trans zero
  refine ⟨created.delayed, created.overflow, fun task place => ?_, fun task place => ?_,
    created.unblock⟩
  · have ahead := created.ahead task place
    rwa [tick] at ahead
  · have behind := created.behind task place
    rwa [tick] at behind

/-- Each step keeps the clock right, and leaves the tasks that it is not about asleep until their
tick. -/
theorem Kept.step_follows (kept : Kept idle kernel) (timed : kernel.Timed)
    (started : kernel.xSchedulerRunning) {next : KernelEvent T E}
    (allowed : kernel.Allowed idle next) :
    Follows (kernel.Touches · next) kernel (kernel.step next) := by
  have clocked : Clocked idle kernel := ⟨kept.toPlaced, timed⟩
  cases next with
  | xTaskGenericCreate task priority => exact clocked.xTaskGenericCreate allowed.1 priority
  | vTaskStartScheduler first timers => exact absurd started (by simp [allowed.1])
  | sysTick => exact kept.sysTick_follows timed
  | pendSV => exact clocked.pendSV_follows
  | taskYield => exact clocked.follows_same.yieldIf True
  | vTaskSuspendAll => exact ⟨{ timed with }, rfl, Nat.le_refl _, fun task _ =>
      { clocked.stays task with }⟩
  | xTaskResumeAll => exact kept.resumeAll_follows timed
  | vTaskDelay ticks =>
      exact ((clocked.delayCurrent kernel (MovedTo.stay kept.sound _) allowed.2.2.2.1).1).weaken
        fun task same => .inl same.symm
  | vTaskPlaceOnEventList event ticks =>
      exact (clocked.vTaskPlaceOnEventList allowed.2.1 event allowed.2.2.2).1.weaken
        fun task same => .inl same.symm
  | vTaskPlaceOnEventListRestricted event ticks =>
      exact (clocked.vTaskPlaceOnEventListRestricted allowed.2.1 event allowed.2.2.2).weaken
        fun task same => .inl same.symm
  | xTaskRemoveFromEventList event caller =>
      exact (clocked.xTaskRemoveFromEventList event).unblockedBy caller
  | vTaskDelete task => exact (clocked.vTaskDelete task).weaken fun other same => .inl same.symm
  | prvCheckTasksWaitingTermination => exact clocked.reapTerminated
  | vTaskPrioritySet task priority => exact clocked.vTaskPrioritySet task priority
  | vTaskSuspend task => exact (clocked.vTaskSuspend task).weaken fun other same => .inl same.symm
  | vTaskResume task => exact clocked.vTaskResume task
  | xTaskResumeFromISR task => exact (clocked.xTaskResumeFromISR task).yieldIf _

def Unstarted (kernel : Kernel T E) : Prop :=
  kernel.xSchedulerRunning = false → kernel.xTickCount = 0 ∧ kernel.xNumOfOverflows = 0

theorem Kept.step_timed (kept : Kept idle kernel) (timed : kernel.Timed)
    (unstarted : kernel.Unstarted) {next : KernelEvent T E}
    (allowed : kernel.Allowed idle next) :
    (kernel.step next).Timed ∧ (kernel.step next).Unstarted := by
  by_cases started : kernel.xSchedulerRunning
  · have follows := kept.step_follows timed started allowed
    exact ⟨follows.timed, fun stopped => nomatch (follows.running.trans started).symm.trans stopped⟩
  · have stopped := Bool.eq_false_iff.mpr started
    cases next with
    | xTaskGenericCreate task priority =>
        have clocked : Clocked idle kernel := ⟨kept.toPlaced, timed⟩
        have there := xTaskGenericCreate_moved kept.sound allowed.1 priority
        refine ⟨(clocked.xTaskGenericCreate allowed.1 priority).timed, fun _ => ?_⟩
        exact ⟨there.tick.trans (unstarted stopped).1, there.overflows.trans (unstarted stopped).2⟩
    | vTaskStartScheduler first timers =>
        obtain ⟨-, rfl, apart, absent, second⟩ := allowed
        exact ⟨kept.start_timed timed stopped (unstarted stopped).1 absent second apart, nofun⟩
    | _ => first | exact absurd allowed started | exact absurd allowed.1 started

structure Steady (idle : T) (kernel : Kernel T E) : Prop extends Kept idle kernel where
  timed : kernel.Timed
  unstarted : kernel.Unstarted

theorem Steady.step (steady : Steady idle kernel) {next : KernelEvent T E}
    (allowed : kernel.Allowed idle next) : Steady idle (kernel.step next) :=
  have after := steady.step_timed steady.timed steady.unstarted allowed
  ⟨steady.toKept.step allowed, after.1, after.2⟩

theorem steady_firstCreated (idle task : T) (priority : Nat) :
    Steady idle (firstCreated task priority : Kernel T E) := by
  have absent : (unstarted task : Kernel T E).Absent task := ⟨rfl, rfl⟩
  have timed : (unstarted task : Kernel T E).Timed :=
    ⟨List.Pairwise.nil, List.Pairwise.nil, nofun, nofun, nofun⟩
  have clocked : Clocked idle (unstarted task : Kernel T E) :=
    ⟨(kept_unstarted idle task).toPlaced, timed⟩
  have there := xTaskGenericCreate_moved (kept_unstarted idle task).sound absent priority
  exact ⟨kept_firstCreated idle task priority, (clocked.xTaskGenericCreate absent priority).timed,
    fun _ => ⟨there.tick, there.overflows⟩⟩

theorem Steady.run (steady : Steady idle kernel) {events : List (KernelEvent T E)}
    (allowed : Along Kernel.step (Allowed idle) kernel events) :
    Steady idle (events.foldl Kernel.step kernel) :=
  reached_of_along (fun _ _ steady fits => steady.step fits) steady allowed
    (List.append_nil events).symm

theorem Reached.steady (reached : Reached idle kernel) : Steady idle kernel := by
  obtain ⟨task, priority, events, allowed, rfl⟩ := reached
  exact (steady_firstCreated idle task priority).run allowed

theorem Steady.stays_of_run (steady : Steady idle kernel) (started : kernel.xSchedulerRunning)
    {events : List (KernelEvent T E)} (allowed : Along Kernel.step (Allowed idle) kernel events)
    (alone : Along Kernel.step (fun kernel next => ¬kernel.Touches task next) kernel events) :
    Stays task kernel (events.foldl Kernel.step kernel) := by
  induction events generalizing kernel with
  | nil => exact Clocked.stays ⟨steady.toPlaced, steady.timed⟩ task
  | cons next rest ih =>
      have follows := steady.step_follows steady.timed started allowed.1
      refine (follows.stays task alone.1).trans ?_
      exact ih (steady.step allowed.1) (follows.running.trans started) allowed.2 alone.2

def stoppedSample : Kernel Nat Unit := startedSample.step .vTaskSuspendAll

theorem reached_stoppedSample : Reached 8 stoppedSample :=
  ⟨1, 2, [.vTaskStartScheduler 8 9, .vTaskSuspendAll],
    ⟨⟨rfl, rfl, by decide, ⟨rfl, rfl⟩, rfl, rfl⟩, rfl, trivial⟩, rfl⟩

end Kernel

end SmartMeter
