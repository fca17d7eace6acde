import SmartMeter.Kernel.TaskEvents

/-! Through every run the tasks are where the scheduler looks for them. -/

namespace SmartMeter

open Runs

variable {T E : Type}

namespace Kernel

variable {uxPriority top higher : Nat} {generic event : Option (TaskList E)} {list : TaskList E}

theorem Legal.grow {uxPriority top higher : Nat} {generic event : Option (TaskList E)}
    (legal : Legal uxPriority top generic event) (above : top ≤ higher) :
    Legal uxPriority higher generic event := by
  cases legal with
  | absent => exact .absent
  | ready low => exact .ready (low.trans above)
  | terminated => exact .terminated
  | blocked blocking => exact .blocked blocking
  | waiting blocking awaits => exact .waiting blocking awaits

theorem Legal.not_awaits (legal : Legal uxPriority top (some list) event) : ¬Awaits list := by
  cases legal with
  | ready low => rintro (same | ⟨event, same⟩) <;> cases same
  | terminated => rintro (same | ⟨event, same⟩) <;> cases same
  | blocked blocking =>
      rintro (rfl | ⟨event, rfl⟩) <;> rcases blocking with same | same | same <;> cases same
  | waiting blocking awaits =>
      rintro (rfl | ⟨event, rfl⟩) <;> rcases blocking with same | same | same <;> cases same

theorem Legal.awaits (legal : Legal uxPriority top generic (some list)) : Awaits list := by
  cases legal with
  | waiting blocking awaits => exact awaits

theorem Legal.ready_list {priority : Nat}
    (legal : Legal uxPriority top (some (.pxReadyTasksLists priority)) event) :
    priority = uxPriority ∧ uxPriority ≤ top ∧ event = none := by
  cases legal with
  | ready low => exact ⟨rfl, low, rfl⟩
  | blocked blocking => rcases blocking with same | same | same <;> cases same
  | waiting blocking awaits => rcases blocking with same | same | same <;> cases same

variable {idle task : T} {kernel moved : Kernel T E} {item : TaskItem T} {wake : UInt32}

theorem Placed.move [DecidableEq T] (placed : Placed idle kernel)
    (there : MovedTo task kernel moved generic event wake)
    (legal : Legal (moved.uxPriority task) moved.uxTopReadyPriority generic event)
    (priority : moved.uxPriority task < configMaxPriorities)
    (apart : kernel.xSchedulerRunning → task ≠ idle) : Placed idle moved where
  sound := there.sound
  legal other := by
    by_cases same : other = task
    · rw [same, there.generic, there.event]
      exact legal
    · rw [there.others (.xGenericListItem other) same, there.others (.xEventListItem other) same,
        there.priorities other same]
      exact (placed.legal other).grow there.top
  priority other := by
    by_cases same : other = task
    · exact same ▸ priority
    · exact there.priorities other same ▸ placed.priority other
  delayed := by
    rw [there.delayed, there.overflow]
    exact placed.delayed
  idle started := by
    rw [there.running] at started
    rw [there.others (.xGenericListItem idle) (apart started).symm]
    exact placed.idle started

theorem Placed.item_of_awaits (placed : Placed idle kernel) (held : item ∈ kernel.items list)
    (awaits : Awaits list) : item = .xEventListItem item.pvOwner := by
  have container := (placed.sound.container list item).mp held
  cases item with
  | xGenericListItem task =>
      have legal := placed.legal task
      rw [pvContainer, container] at legal
      exact absurd awaits legal.not_awaits
  | xEventListItem task => rfl

theorem Placed.item_of_not_awaits (placed : Placed idle kernel) (held : item ∈ kernel.items list)
    (awaits : ¬Awaits list) : item = .xGenericListItem item.pvOwner := by
  have container := (placed.sound.container list item).mp held
  cases item with
  | xGenericListItem task => rfl
  | xEventListItem task =>
      have legal := placed.legal task
      rw [show kernel.pvContainer (.xEventListItem task) = some list from container] at legal
      exact absurd legal.awaits awaits

theorem Placed.head_of_awaits (placed : Placed idle kernel) {rest : List (TaskItem T)}
    (held : kernel.items list = item :: rest) (awaits : Awaits list) :
    kernel.pvContainer (.xEventListItem item.pvOwner) = some list := by
  have member : item ∈ kernel.items list := held ▸ List.mem_cons_self
  rw [← placed.item_of_awaits member awaits]
  exact (placed.sound.container list item).mp member

theorem Placed.head_of_not_awaits (placed : Placed idle kernel) {rest : List (TaskItem T)}
    (held : kernel.items list = item :: rest) (awaits : ¬Awaits list) :
    kernel.pvContainer (.xGenericListItem item.pvOwner) = some list := by
  have member : item ∈ kernel.items list := held ▸ List.mem_cons_self
  rw [← placed.item_of_not_awaits member awaits]
  exact (placed.sound.container list item).mp member

/-- The idle task is ready, so a task that is elsewhere is another one. -/
theorem Placed.not_idle (placed : Placed idle kernel)
    (elsewhere : kernel.pvContainer (.xGenericListItem task) ≠
      some (.pxReadyTasksLists tskIdlePriority))
    (started : kernel.xSchedulerRunning) : task ≠ idle :=
  fun same => elsewhere (same ▸ placed.idle started)

theorem Placed.ready_task (placed : Placed idle kernel) (ready : kernel.Ready task) :
    kernel.pvContainer (.xGenericListItem task) =
        some (.pxReadyTasksLists (kernel.uxPriority task)) ∧
      kernel.uxPriority task ≤ kernel.uxTopReadyPriority ∧
        kernel.pvContainer (.xEventListItem task) = none := by
  obtain ⟨priority, held⟩ := ready
  have legal := placed.legal task
  rw [held] at legal
  obtain ⟨rfl, low, none_⟩ := legal.ready_list
  exact ⟨held, low, none_⟩

theorem Settled.move [DecidableEq T] (settled : kernel.Settled)
    (there : MovedTo task kernel moved generic event wake)
    (legal : Legal (moved.uxPriority task) moved.uxTopReadyPriority generic event)
    (allowed : event = some .xPendingReadyList → kernel.uxSchedulerSuspended ≠ 0) :
    moved.Settled := by
  intro stopped item pending
  rw [there.suspended] at stopped
  by_cases same : item.pvOwner = task
  · cases item with
    | xGenericListItem owner =>
        change owner = task at same
        rw [same, there.generic] at pending
        rw [pending] at legal
        exact legal.not_awaits (.inl rfl)
    | xEventListItem owner =>
        change owner = task at same
        rw [same, there.event] at pending
        exact allowed pending stopped
  · rw [there.others item same] at pending
    exact settled stopped item pending

variable {number : Nat} {first second : T → Prop}

theorem Census.congr (census : Census number first) (agree : ∀ task, first task ↔ second task) :
    Census number second := by
  obtain ⟨tasks, distinct, length, all⟩ := census
  exact ⟨tasks, distinct, length, fun task => (all task).trans (agree task)⟩

theorem Census.cons (census : Census number first) (fresh : ¬first task)
    (agree : ∀ other, second other ↔ other = task ∨ first other) : Census (number + 1) second := by
  obtain ⟨tasks, distinct, length, all⟩ := census
  refine ⟨task :: tasks, List.nodup_cons.mpr ⟨mt (all task).mp fresh, distinct⟩, ?_, ?_⟩
  · rw [List.length_cons, length]
  · intro other
    rw [List.mem_cons, agree, all]

theorem Census.erase [DecidableEq T] (census : Census number first) (there : first task)
    (agree : ∀ other, second other ↔ other ≠ task ∧ first other) :
    Census (number - 1) second := by
  obtain ⟨tasks, distinct, length, all⟩ := census
  refine ⟨tasks.erase task, distinct.erase _, ?_, ?_⟩
  · rw [List.length_erase_of_mem ((all task).mpr there), length]
  · intro other
    rw [distinct.mem_erase_iff, agree, all]

theorem MovedTo.generic_iff [DecidableEq T] (there : MovedTo task kernel moved generic event wake)
    (property : Option (TaskList E) → Prop)
    (same : property (kernel.pvContainer (.xGenericListItem task)) ↔ property generic) (other : T) :
    property (kernel.pvContainer (.xGenericListItem other)) ↔
      property (moved.pvContainer (.xGenericListItem other)) := by
  by_cases here : other = task
  · rw [here, there.generic]
    exact same
  · rw [there.others (.xGenericListItem other) here]

theorem MovedTo.enters [DecidableEq T] (there : MovedTo task kernel moved generic event wake)
    (property : Option (TaskList E) → Prop) (new : property generic) (other : T) :
    property (moved.pvContainer (.xGenericListItem other)) ↔
      other = task ∨ property (kernel.pvContainer (.xGenericListItem other)) := by
  by_cases here : other = task
  · rw [here, there.generic]
    exact iff_of_true new (.inl rfl)
  · rw [there.others (.xGenericListItem other) here, or_iff_right here]

theorem MovedTo.leaves [DecidableEq T] (there : MovedTo task kernel moved generic event wake)
    (property : Option (TaskList E) → Prop) (old : ¬property generic) (other : T) :
    property (moved.pvContainer (.xGenericListItem other)) ↔
      other ≠ task ∧ property (kernel.pvContainer (.xGenericListItem other)) := by
  by_cases here : other = task
  · rw [here, there.generic]
    exact iff_of_false old fun apart => apart.1 rfl
  · rw [there.others (.xGenericListItem other) here, and_iff_right here]

def SameCounts (kernel moved : Kernel T E) : Prop :=
  moved.uxCurrentNumberOfTasks = kernel.uxCurrentNumberOfTasks ∧
    moved.uxTasksDeleted = kernel.uxTasksDeleted

theorem Counted.move [DecidableEq T] (counted : kernel.Counted)
    (there : MovedTo task kernel moved (some list) event wake) (counts : SameCounts kernel moved)
    (alive : kernel.Alive task) (stays : list ≠ .xTasksWaitingTermination) : moved.Counted := by
  have tasks := counted.1.congr
    (there.generic_iff (· ≠ none) (iff_of_true alive.1 (Option.some_ne_none list)))
  have deleted := counted.2.congr (there.generic_iff (· = some .xTasksWaitingTermination)
    (iff_of_false alive.2 fun same => stays (Option.some.inj same)))
  rw [← counts.1] at tasks
  rw [← counts.2] at deleted
  exact ⟨tasks, deleted⟩

theorem Counted.pos (counted : kernel.Counted)
    (held : kernel.pvContainer (.xGenericListItem task) ≠ none) :
    0 < kernel.uxCurrentNumberOfTasks := by
  obtain ⟨tasks, -, length, all⟩ := counted.1
  rw [← length]
  exact List.length_pos_of_mem ((all task).mpr held)

theorem Kept.move [DecidableEq T] (kept : Kept idle kernel)
    (there : MovedTo task kernel moved (some list) event wake)
    (legal : Legal (moved.uxPriority task) moved.uxTopReadyPriority (some list) event)
    (priority : moved.uxPriority task < configMaxPriorities)
    (apart : kernel.xSchedulerRunning → task ≠ idle)
    (allowed : event = some .xPendingReadyList → kernel.uxSchedulerSuspended ≠ 0)
    (counts : SameCounts kernel moved) (alive : kernel.Alive task)
    (stays : list ≠ .xTasksWaitingTermination) : Kept idle moved :=
  ⟨kept.toPlaced.move there legal priority apart, kept.settled.move there legal allowed,
    kept.counted.move there counts alive stays⟩

theorem Blocking.not_terminated (blocking : Blocking list) : list ≠ .xTasksWaitingTermination := by
  rintro rfl
  rcases blocking with same | same | same <;> cases same

theorem alive_of_held (held : kernel.pvContainer (.xGenericListItem task) = some list)
    (stays : list ≠ .xTasksWaitingTermination) : kernel.Alive task :=
  ⟨held ▸ Option.some_ne_none list, fun gone => stays (Option.some.inj (held.symm.trans gone))⟩

theorem not_awaits_of_blocking (blocking : Blocking list) : ¬Awaits list := by
  rintro (rfl | ⟨event, rfl⟩)
  · rcases blocking with same | same | same <;> cases same
  · rcases blocking with same | same | same <;> cases same

theorem Blocking.not_ready (blocking : Blocking list) (priority : Nat) :
    some list ≠ some (.pxReadyTasksLists priority) := by
  rintro ⟨⟩
  rcases blocking with same | same | same <;> cases same

theorem Placed.blocking_delayed (placed : Placed idle kernel) :
    Blocking kernel.pxDelayedTaskList ∧ Blocking kernel.pxOverflowDelayedTaskList := by
  rcases placed.delayed with ⟨delayed, overflow⟩ | ⟨delayed, overflow⟩
  · exact ⟨.inl delayed, .inr (.inl overflow)⟩
  · exact ⟨.inr (.inl delayed), .inl overflow⟩

theorem Placed.not_delayed (placed : Placed idle kernel)
    (held : kernel.pvContainer (.xEventListItem task) = some list) : ¬DelayedList list := by
  have legal := placed.legal task
  rw [held] at legal
  rcases legal.awaits with rfl | ⟨event, rfl⟩ <;> exact nofun

/-! Each of the steps leaves every task in a place. -/

variable [DecidableEq T] [DecidableEq E]

@[simp] theorem leaveEventList_uxPriority (kernel : Kernel T E) (task : T) :
    (kernel.leaveEventList task).uxPriority = kernel.uxPriority := by
  rw [leaveEventList]
  split <;> rfl

@[simp] theorem leaveEventList_pxCurrentTCB (kernel : Kernel T E) (task : T) :
    (kernel.leaveEventList task).pxCurrentTCB = kernel.pxCurrentTCB := by
  rw [leaveEventList]
  split <;> rfl

@[simp] theorem prvAddTaskToReadyQueue_uxPriority (kernel : Kernel T E) (task : T) :
    (kernel.prvAddTaskToReadyQueue task).uxPriority = kernel.uxPriority :=
  rfl

@[simp] theorem vListRemove_uxPriority (kernel : Kernel T E) (item : TaskItem T) :
    (kernel.vListRemove item).uxPriority = kernel.uxPriority :=
  rfl

theorem leaveEventList_counts (kernel : Kernel T E) (task : T) :
    SameCounts kernel (kernel.leaveEventList task) := by
  rw [leaveEventList]
  split <;> exact ⟨rfl, rfl⟩

@[simp] theorem vListInsertEnd_uxPriority (kernel : Kernel T E) (list : TaskList E)
    (item : TaskItem T) : (kernel.vListInsertEnd list item).uxPriority = kernel.uxPriority :=
  rfl

theorem addReady_legal (kernel : Kernel T E) (task : T) :
    Legal (E := E) ((kernel.prvAddTaskToReadyQueue task).uxPriority task)
      (kernel.prvAddTaskToReadyQueue task).uxTopReadyPriority
      (some (.pxReadyTasksLists (kernel.uxPriority task))) none :=
  .ready (prvAddTaskToReadyQueue_top kernel task)

omit [DecidableEq T] [DecidableEq E] in
theorem Kept.yieldIf (kept : Kept idle kernel) (yields : Prop) [Decidable yields] :
    Kept idle (if yields then kernel.portYield else kernel) := by
  split
  · exact { kept with }
  · exact kept

/-- A task that was taken out of its list is put in the list of its priority. -/
theorem Kept.addReady (kept : Kept idle kernel) (there : MovedTo task kernel moved none none wake)
    (priority : moved.uxPriority = kernel.uxPriority)
    (apart : kernel.xSchedulerRunning → task ≠ idle) (counts : SameCounts kernel moved)
    (alive : kernel.Alive task) : Kept idle (moved.prvAddTaskToReadyQueue task) := by
  refine kept.move there.addReady (addReady_legal moved task) ?_ apart nofun counts alive nofun
  rw [prvAddTaskToReadyQueue_uxPriority, priority]
  exact kept.priority task

theorem Kept.unblock (kept : Kept idle kernel)
    (held : kernel.pvContainer (.xGenericListItem task) = some list) (blocking : Blocking list) :
    Kept idle (kernel.unblock task) := by
  refine kept.addReady (MovedTo.stay kept.sound task).removeGeneric.leaveEventList ?_ ?_ ?_ ?_
  · exact leaveEventList_uxPriority ..
  · exact kept.not_idle (held ▸ blocking.not_ready _)
  · exact leaveEventList_counts (kernel.vListRemove _) task
  · exact alive_of_held held blocking.not_terminated

theorem Kept.checkDelayedLoop (kept : Kept idle kernel) (turns : Nat) :
    Kept idle (kernel.checkDelayedLoop turns) := by
  induction turns generalizing kernel with
  | zero => exact kept
  | succ turns ih =>
      rw [Kernel.checkDelayedLoop]
      split
      next => exact { kept with }
      next head rest held =>
        dsimp only
        split
        next => exact { kept with }
        next =>
          have blocking := kept.blocking_delayed.1
          have place := kept.head_of_not_awaits held (not_awaits_of_blocking blocking)
          exact ih (kept.unblock place blocking)

theorem Kept.prvCheckDelayedTasks (kept : Kept idle kernel) :
    Kept idle kernel.prvCheckDelayedTasks := by
  rw [Kernel.prvCheckDelayedTasks]
  split
  next => exact kept.checkDelayedLoop _
  next => exact kept

def ticked (kernel : Kernel T E) : Kernel T E :=
  if kernel.countTick.xTickCount = 0 then kernel.countTick.switchDelayedLists else kernel.countTick

omit [DecidableEq T] [DecidableEq E] in
theorem Kept.ticked (kept : Kept idle kernel) : Kept idle kernel.ticked := by
  have counted : Kept idle kernel.countTick := { kept with }
  rw [Kernel.ticked]
  split
  next => exact { counted with delayed := counted.delayed.symm.imp And.symm And.symm }
  next => exact counted

theorem Kept.vTaskIncrementTick (kept : Kept idle kernel) :
    Kept idle kernel.vTaskIncrementTick := by
  rw [Kernel.vTaskIncrementTick]
  split
  next => exact kept.ticked.prvCheckDelayedTasks
  next => exact { kept with }

theorem Kept.sysTickHandler (kept : Kept idle kernel) : Kept idle kernel.sysTickHandler :=
  vTaskIncrementTick { kept with }

theorem moveReadied_items (sound : kernel.lists.Sound) (task : T)
    (apart : ∀ priority, list ≠ .pxReadyTasksLists priority) :
    (kernel.moveReadied task).items list =
      ((kernel.items list).erase (.xEventListItem task)).erase (.xGenericListItem task) := by
  refine (ListStore.items_vListInsertEnd_of_ne (apart _) _).trans ?_
  refine (ListStore.items_vListRemove (sound.vListRemove _) _ _).trans ?_
  exact congrArg (List.erase · _) (ListStore.items_vListRemove sound _ _)

theorem Placed.moveReadied (placed : Placed idle kernel) (counted : kernel.Counted)
    (held : kernel.pvContainer (.xEventListItem task) = some list) :
    Placed idle (kernel.moveReadied task) ∧ (kernel.moveReadied task).Counted := by
  have there := (MovedTo.stay placed.sound task).removeEvent.removeGeneric.addReady
  have legal := placed.legal task
  rw [held] at legal
  constructor
  · refine placed.move there ?_ (placed.priority task) (placed.not_idle fun ready => ?_)
    · exact addReady_legal ((kernel.vListRemove _).vListRemove _) task
    · rw [ready] at legal
      exact nomatch legal.ready_list.2.2
  · refine counted.move there ⟨rfl, rfl⟩ ?_ nofun
    generalize place : kernel.pvContainer (.xGenericListItem task) = generic at legal
    cases legal with
    | waiting blocking awaits => exact alive_of_held place blocking.not_terminated

theorem Placed.moveReadied_pending (placed : Placed idle kernel) {rest : List (TaskItem T)}
    (held : kernel.items .xPendingReadyList = item :: rest) :
    (kernel.moveReadied item.pvOwner).items .xPendingReadyList = rest := by
  have apart (priority : Nat) : .xPendingReadyList ≠ TaskList.pxReadyTasksLists (E := E) priority :=
    nofun
  have first := placed.item_of_awaits (held ▸ List.mem_cons_self) (.inl rfl)
  have generic : .xGenericListItem item.pvOwner ∉ rest := by
    intro member
    have other := placed.item_of_awaits (held ▸ List.mem_cons_of_mem _ member) (.inl rfl)
    cases other
  rw [moveReadied_items placed.sound _ apart, held, ← first, List.erase_cons_head,
    List.erase_of_not_mem generic]

/-- The first loop moves every task out of the list, and so ends. -/
theorem Placed.movePendingLoop (placed : Placed idle kernel) (counted : kernel.Counted)
    {turns : Nat} (enough : (kernel.items .xPendingReadyList).length < turns) (yields : Bool) :
    Kept idle (kernel.movePendingLoop turns yields).2 ∧
      (kernel.movePendingLoop turns yields).2.items .xPendingReadyList = [] := by
  induction turns generalizing kernel yields with
  | zero => exact absurd enough (Nat.not_lt_zero _)
  | succ turns ih =>
      rw [Kernel.movePendingLoop]
      split
      next empty =>
        refine ⟨⟨placed, fun _ item pending => ?_, counted⟩, empty⟩
        have member := (placed.sound.container .xPendingReadyList item).mpr pending
        rw [show kernel.lists.items _ = [] from empty] at member
        cases member
      next head rest held =>
        have place := placed.head_of_awaits held (.inl rfl)
        obtain ⟨moved, still⟩ := placed.moveReadied counted place
        refine ih moved still ?_ _
        rw [held] at enough
        rw [placed.moveReadied_pending held]
        exact Nat.lt_of_succ_lt_succ enough

theorem Kept.replayLoop (kept : Kept idle kernel) (uxMissedTicks : Nat) :
    Kept idle (kernel.replayLoop uxMissedTicks) := by
  induction uxMissedTicks generalizing kernel with
  | zero => exact kept
  | succ uxMissedTicks ih => exact ih { kept.vTaskIncrementTick with }

theorem Placed.movePending (placed : Placed idle kernel) (counted : kernel.Counted) :
    Kept idle kernel.movePending.2 :=
  (placed.movePendingLoop counted (Nat.lt_succ_self _) false).1

theorem Placed.resumed (placed : Placed idle kernel) (counted : kernel.Counted) :
    Kept idle kernel.resumed.2 := by
  have replayed := (placed.movePending counted).replayLoop kernel.movePending.2.uxMissedTicks.toNat
  rw [Kernel.resumed]
  split
  next => exact { replayed with }
  next => exact replayed

theorem Kept.xTaskResumeAll (kept : Kept idle kernel) (started : kernel.xSchedulerRunning) :
    Kept idle kernel.xTaskResumeAll.2 := by
  have lowered : Placed idle
      { kernel with uxSchedulerSuspended := kernel.uxSchedulerSuspended - 1 } :=
    { kept.toPlaced with }
  have some_ := kept.counted.pos (kept.idle started ▸ Option.some_ne_none _)
  rw [Kernel.xTaskResumeAll]
  dsimp only
  split
  next => exact lowered.resumed kept.counted
  next still => exact ⟨lowered, fun stopped => absurd ⟨stopped, some_⟩ still, kept.counted⟩

omit [DecidableEq T] [DecidableEq E] in
/-- The search stops at the highest list in which a task is ready, if there is one. -/
theorem topReady_spec (kernel : Kernel T E) (top : Nat) :
    match kernel.topReady top with
    | none => ∀ priority ≤ top, kernel.items (.pxReadyTasksLists priority) = []
    | some found => found ≤ top ∧ kernel.items (.pxReadyTasksLists found) ≠ [] ∧
        ∀ higher ≤ top, found < higher → kernel.items (.pxReadyTasksLists higher) = [] := by
  induction top with
  | zero =>
      rw [topReady]
      by_cases empty : kernel.items (.pxReadyTasksLists 0) = []
      · rw [if_pos empty]
        intro priority low
        rwa [Nat.le_zero.mp low]
      · rw [if_neg empty]
        exact ⟨Nat.le_refl 0, empty, fun higher low above => by omega⟩
  | succ top ih =>
      rw [topReady]
      by_cases empty : kernel.items (.pxReadyTasksLists (top + 1)) = []
      · rw [if_pos empty]
        cases found : kernel.topReady top with
        | none =>
            rw [found] at ih
            intro priority low
            rcases Nat.le_succ_iff.mp low with low | rfl
            · exact ih priority low
            · exact empty
        | some priority =>
            rw [found] at ih
            obtain ⟨low, some_, higher⟩ := ih
            refine ⟨Nat.le_succ_of_le low, some_, fun above bound beyond => ?_⟩
            rcases Nat.le_succ_iff.mp bound with bound | rfl
            · exact higher above bound beyond
            · exact empty
      · rw [if_neg empty]
        exact ⟨Nat.le_refl _, empty, fun higher low above => by omega⟩

theorem Kept.switchedTo (kept : Kept idle kernel) {priority : Nat}
    (higher : ∀ higher ≤ kernel.uxTopReadyPriority, priority < higher →
      kernel.items (.pxReadyTasksLists higher) = []) : Kept idle (kernel.switchedTo priority) where
  sound := kept.sound.listGetOwnerOfNextEntry _
  legal task := by
    have legal := kept.legal task
    change Legal (kernel.uxPriority task) priority (kernel.pvContainer _) (kernel.pvContainer _)
    generalize held : kernel.pvContainer (.xGenericListItem task) = generic at legal
    generalize kernel.pvContainer (.xEventListItem task) = event at legal
    cases legal with
    | absent => exact .absent
    | ready low =>
        refine .ready (Nat.le_of_not_lt fun above => ?_)
        have member := (kept.sound.container _ _).mpr held
        have empty : kernel.lists.items _ = [] := higher _ low above
        rw [empty] at member
        cases member
    | terminated => exact .terminated
    | blocked blocking => exact .blocked blocking
    | waiting blocking awaits => exact .waiting blocking awaits
  priority := kept.priority
  delayed := kept.delayed
  idle := kept.idle
  settled := kept.settled
  counted := kept.counted

theorem Kept.pendSVHandler (kept : Kept idle kernel) :
    Kept idle (kernel.pendSVHandler.getD kernel) := by
  rw [Kernel.pendSVHandler, vTaskSwitchContext]
  split
  next => exact { kept with }
  next =>
    have cleared : Kept idle { kernel with pendSV := false } := { kept with }
    have search := topReady_spec { kernel with pendSV := false } kernel.uxTopReadyPriority
    cases found : topReady { kernel with pendSV := false } kernel.uxTopReadyPriority with
    | none => exact kept
    | some priority =>
        rw [found] at search
        exact cleared.switchedTo search.2.2

/-- The list of the tasks that wake before the tick count overflows, or of the others. -/
def listToDelay (kernel : Kernel T E) (ticks : UInt32) : TaskList E :=
  if kernel.xTickCount + ticks < kernel.xTickCount then kernel.pxOverflowDelayedTaskList
  else kernel.pxDelayedTaskList

theorem MovedTo.delayCurrent (there : MovedTo moved.pxCurrentTCB kernel moved generic event wake)
    (ticks : UInt32) (blocking : Blocking (moved.listToDelay ticks)) :
    MovedTo moved.pxCurrentTCB kernel (moved.delayCurrent ticks)
      (some (moved.listToDelay ticks)) event (moved.xTickCount + ticks) := by
  have valued := there.removeGeneric.setWake (moved.xTickCount + ticks)
  have apart (priority : Nat) : .pxReadyTasksLists priority ≠ moved.listToDelay ticks :=
    fun same => blocking.not_ready priority (congrArg some same.symm)
  rw [listToDelay] at apart
  rw [listToDelay, Kernel.delayCurrent, prvAddCurrentTaskToDelayedList]
  by_cases wraps : moved.xTickCount + ticks < moved.xTickCount
  · rw [if_pos wraps] at apart ⊢
    exact (if_pos wraps).symm ▸ valued.insertGeneric moved.pxOverflowDelayedTaskList apart
  · rw [if_neg wraps] at apart ⊢
    have sooner : (if moved.xTickCount + ticks < moved.xNextTaskUnblockTime then
        moved.xTickCount + ticks else moved.xNextTaskUnblockTime) ≤
          kernel.xNextTaskUnblockTime := by
      split
      next less => exact UInt32.le_trans (UInt32.le_of_lt less) there.unblock
      next => exact there.unblock
    exact (if_neg wraps).symm ▸
      { valued.insertGeneric moved.pxDelayedTaskList apart with unblock := sooner }

theorem delayCurrent_same (kernel : Kernel T E) (ticks : UInt32) :
    (kernel.delayCurrent ticks).uxPriority = kernel.uxPriority ∧
      SameCounts kernel (kernel.delayCurrent ticks) := by
  rw [Kernel.delayCurrent, prvAddCurrentTaskToDelayedList]
  split <;> exact ⟨rfl, rfl, rfl⟩

omit [DecidableEq E] in
theorem Placed.blocking_moved (placed : Placed idle kernel)
    (there : MovedTo task kernel moved generic event wake) (ticks : UInt32) :
    Blocking (moved.listToDelay ticks) := by
  rw [listToDelay, there.delayed, there.overflow]
  split
  · exact placed.blocking_delayed.2
  · exact placed.blocking_delayed.1

omit [DecidableEq E] in
theorem Placed.blocking_listToDelay (placed : Placed idle kernel) (ticks : UInt32) :
    Blocking (kernel.listToDelay ticks) :=
  placed.blocking_moved (MovedTo.stay placed.sound kernel.pxCurrentTCB) ticks

theorem Kept.delayCurrent (kept : Kept idle kernel) (ready : kernel.Ready kernel.pxCurrentTCB)
    (apart : kernel.pxCurrentTCB ≠ idle) (ticks : UInt32) :
    Kept idle (kernel.delayCurrent ticks) := by
  obtain ⟨place, -, nowhere⟩ := kept.ready_task ready
  have there := (MovedTo.stay kept.sound kernel.pxCurrentTCB).delayCurrent ticks
    (kept.blocking_listToDelay ticks)
  have same := delayCurrent_same kernel ticks
  rw [nowhere] at there
  refine kept.move there (.blocked (kept.blocking_listToDelay ticks)) ?_ (fun _ => apart) nofun
    same.2 (alive_of_held place nofun) (kept.blocking_listToDelay ticks).not_terminated
  exact same.1 ▸ kept.priority _

theorem Kept.delayWaiting (kept : Kept idle kernel) (ready : kernel.Ready kernel.pxCurrentTCB)
    (apart : kernel.pxCurrentTCB ≠ idle) (event : E)
    {lists : ListStore (TaskList E) (TaskItem T)}
    (there : MovedTo kernel.pxCurrentTCB kernel { kernel with lists := lists }
      (some (.pxReadyTasksLists (kernel.uxPriority kernel.pxCurrentTCB)))
      (some (.pxEventList event)) wake) (ticks : UInt32) :
    Kept idle (Kernel.delayCurrent ticks { kernel with lists := lists }) := by
  have same := delayCurrent_same { kernel with lists := lists } ticks
  refine kept.move (there.delayCurrent ticks (kept.blocking_listToDelay ticks))
    (.waiting (kept.blocking_listToDelay ticks)
    (.inr ⟨event, rfl⟩)) ?_ (fun _ => apart) nofun same.2
    (alive_of_held (kept.ready_task ready).1 nofun)
    (kept.blocking_listToDelay ticks).not_terminated
  exact (congrFun same.1 _).trans_lt (kept.priority _)

theorem Kept.vTaskPlaceOnEventList (kept : Kept idle kernel)
    (ready : kernel.Ready kernel.pxCurrentTCB) (apart : kernel.pxCurrentTCB ≠ idle) (event : E)
    (ticks : UInt32) : Kept idle (kernel.vTaskPlaceOnEventList event ticks) := by
  obtain ⟨place, -, nowhere⟩ := kept.ready_task ready
  have start := MovedTo.stay kept.sound kernel.pxCurrentTCB
  rw [nowhere, place] at start
  have waiting := start.insertEvent (.pxEventList event) nofun
  rw [Kernel.vTaskPlaceOnEventList]
  split
  next =>
    have suspended := waiting.removeGeneric.insertEndGeneric .xSuspendedTaskList nofun
    exact kept.move suspended (.waiting (.inr (.inr rfl)) (.inr ⟨event, rfl⟩)) (kept.priority _)
      (fun _ => apart) nofun ⟨rfl, rfl⟩ (alive_of_held place nofun) nofun
  next => exact kept.delayWaiting ready apart event waiting ticks

theorem Kept.vTaskPlaceOnEventListRestricted (kept : Kept idle kernel)
    (ready : kernel.Ready kernel.pxCurrentTCB) (apart : kernel.pxCurrentTCB ≠ idle) (event : E)
    (ticks : UInt32) : Kept idle (kernel.vTaskPlaceOnEventListRestricted event ticks) := by
  obtain ⟨place, -, nowhere⟩ := kept.ready_task ready
  have start := MovedTo.stay kept.sound kernel.pxCurrentTCB
  rw [nowhere, place] at start
  exact kept.delayWaiting ready apart event (start.insertEndEvent (.pxEventList event) nofun) ticks

theorem Kept.vTaskDelete (kept : Kept idle kernel) (apart : task ≠ idle)
    (alive : kernel.Alive task) : Kept idle (kernel.vTaskDelete task) := by
  have there := (MovedTo.stay kept.sound task).removeGeneric.leaveEventList.insertEndGeneric
    .xTasksWaitingTermination nofun
  have counts : SameCounts kernel
      (Kernel.leaveEventList task (kernel.vListRemove (.xGenericListItem task))) :=
    leaveEventList_counts (kernel.vListRemove _) task
  have placed := kept.toPlaced.move there .terminated (by simpa using kept.priority task)
    fun _ => apart
  have settled := kept.settled.move there .terminated nofun
  have tasks := kept.counted.1.congr
    (there.generic_iff (· ≠ none) (iff_of_true alive.1 (Option.some_ne_none _)))
  have deleted := kept.counted.2.cons alive.2
    (there.enters (· = some .xTasksWaitingTermination) rfl)
  rw [← counts.1] at tasks
  rw [← counts.2] at deleted
  rw [Kernel.vTaskDelete]
  split
  next => exact ⟨{ placed with }, settled, tasks, deleted⟩
  next => exact ⟨{ placed with }, settled, tasks, deleted⟩

theorem Kept.vTaskSuspend (kept : Kept idle kernel) (apart : task ≠ idle)
    (alive : kernel.Alive task) : Kept idle (kernel.vTaskSuspend task) := by
  have there := (MovedTo.stay kept.sound task).removeGeneric.leaveEventList.insertEndGeneric
    .xSuspendedTaskList nofun
  have suspended := kept.move there (.blocked (.inr (.inr rfl))) (by simpa using kept.priority task)
    (fun _ => apart) nofun (leaveEventList_counts (kernel.vListRemove _) task) alive nofun
  exact suspended.yieldIf _

omit [DecidableEq T] [DecidableEq E] in
/-- A task waits for an event, or its wait is over and it is pending. -/
theorem Placed.blocked_of_event (placed : Placed idle kernel)
    (held : kernel.pvContainer (.xEventListItem task) = some list) :
    ∃ place, kernel.pvContainer (.xGenericListItem task) = some place ∧ Blocking place := by
  have legal := placed.legal task
  rw [held] at legal
  generalize kernel.pvContainer (.xGenericListItem task) = generic at legal
  cases legal with
  | waiting blocking awaits => exact ⟨_, rfl, blocking⟩

theorem Kept.readyOrPending (kept : Kept idle kernel)
    (there : MovedTo task kernel moved (some list) none wake) (blocking : Blocking list)
    (place : kernel.pvContainer (.xGenericListItem task) = some list)
    (same : moved.uxPriority = kernel.uxPriority ∧ SameCounts kernel moved) :
    Kept idle (moved.readyOrPending task) := by
  have alive := alive_of_held place blocking.not_terminated
  have apart := kept.not_idle (place ▸ blocking.not_ready tskIdlePriority)
  rw [Kernel.readyOrPending]
  split
  next => exact kept.addReady there.removeGeneric same.1 apart same.2 alive
  next stopped =>
    refine kept.move (there.insertEndEvent .xPendingReadyList nofun) (.waiting blocking (.inl rfl))
      ?_
      apart (fun _ => there.suspended ▸ stopped) same.2 alive blocking.not_terminated
    rw [vListInsertEnd_uxPriority, same.1]
    exact kept.priority task

theorem Kept.xTaskRemoveFromEventList (kept : Kept idle kernel) (event : E) :
    Kept idle (kernel.xTaskRemoveFromEventList event).2 := by
  rw [Kernel.xTaskRemoveFromEventList]
  split
  next => exact kept
  next head rest held =>
    have place := kept.head_of_awaits held (.inr ⟨event, rfl⟩)
    obtain ⟨list, generic, blocking⟩ := kept.blocked_of_event place
    have there := (MovedTo.stay kept.sound head.pvOwner).removeEvent
    rw [generic] at there
    exact kept.readyOrPending there blocking generic ⟨rfl, rfl, rfl⟩

omit [DecidableEq T] [DecidableEq E] in
theorem Kept.unblockedBy {result : Bool × Kernel T E} (kept : Kept idle result.2)
    (caller : Unblocker) : Kept idle (unblockedBy caller result) := by
  unfold Kernel.unblockedBy
  split
  next =>
    cases caller with
    | task => exact { kept with }
    | unlockQueue => exact { kept with }
    | isr isrcount =>
        dsimp only
        split
        next => exact { kept with }
        next => exact kept
  next => exact kept

omit [DecidableEq T] in
theorem suspended_of_isTaskSuspended (suspended : kernel.xTaskIsTaskSuspended task) :
    kernel.pvContainer (.xGenericListItem task) = some .xSuspendedTaskList ∧
      kernel.pvContainer (.xEventListItem task) = none := by
  simp only [xTaskIsTaskSuspended, Bool.and_eq_true, decide_eq_true_eq] at suspended
  exact ⟨suspended.1, suspended.2.2⟩

theorem Kept.vTaskResume (kept : Kept idle kernel) (task : T) :
    Kept idle (kernel.vTaskResume task) := by
  rw [Kernel.vTaskResume]
  split
  next suspended =>
    obtain ⟨place, nowhere⟩ := suspended_of_isTaskSuspended suspended.2
    have start := MovedTo.stay kept.sound task
    rw [nowhere] at start
    have apart := kept.not_idle (place ▸ Blocking.not_ready (.inr (.inr rfl)) _)
    have ready := kept.addReady start.removeGeneric rfl apart ⟨rfl, rfl⟩
      (alive_of_held place nofun)
    exact ready.yieldIf _
  next => exact kept

theorem Kept.xTaskResumeFromISR (kept : Kept idle kernel) (task : T) :
    Kept idle (kernel.xTaskResumeFromISR task).2 := by
  have readied (suspended : kernel.xTaskIsTaskSuspended task) :
      Kept idle (kernel.readyOrPending task) := by
    obtain ⟨place, nowhere⟩ := suspended_of_isTaskSuspended suspended
    have start := MovedTo.stay kept.sound task
    rw [nowhere, place] at start
    exact kept.readyOrPending start (.inr (.inr rfl)) place ⟨rfl, rfl, rfl⟩
  rw [Kernel.xTaskResumeFromISR]
  split
  next suspended =>
    have ready := readied suspended
    rw [Kernel.readyOrPending] at ready
    split
    next going => rwa [if_pos going] at ready
    next stopped => rwa [if_neg stopped] at ready
  next => exact kept

/-- All that the idle task does about the tasks that were deleted. -/
theorem reapTerminated_cases (kernel : Kernel T E) : kernel.reapTerminated = kernel ∨
    ∃ head rest, kernel.items .xTasksWaitingTermination = head :: rest ∧
      kernel.reapTerminated = { kernel.vListRemove (.xGenericListItem head.pvOwner) with
        uxCurrentNumberOfTasks := kernel.uxCurrentNumberOfTasks - 1
        uxTasksDeleted := kernel.uxTasksDeleted - 1 } := by
  rw [Kernel.reapTerminated]
  split
  next =>
    split
    next => exact .inl rfl
    next head rest held => exact .inr ⟨head, rest, held, rfl⟩
  next => exact .inl rfl

theorem Kept.reapTerminated (kept : Kept idle kernel) : Kept idle kernel.reapTerminated := by
  obtain same | ⟨head, rest, held, same⟩ := kernel.reapTerminated_cases
  · rw [same]
    exact kept
  · have outside : ¬Awaits (.xTasksWaitingTermination : TaskList E) := by
      rintro (same | ⟨event, same⟩) <;> cases same
    have place := kept.head_of_not_awaits held outside
    have start := MovedTo.stay kept.sound head.pvOwner
    have legal := kept.legal head.pvOwner
    rw [place] at legal start
    generalize kernel.pvContainer (.xEventListItem head.pvOwner) = event at legal start
    cases legal with
    | terminated =>
        have there := start.removeGeneric
        have apart := kept.not_idle (place.trans_ne nofun)
        have placed := kept.toPlaced.move there .absent (kept.priority _) apart
        have settled := kept.settled.move there .absent nofun
        have tasks := kept.counted.1.erase (place ▸ Option.some_ne_none _)
          (there.leaves (· ≠ none) (not_not.mpr rfl))
        have deleted := kept.counted.2.erase place
          (there.leaves (· = some .xTasksWaitingTermination) nofun)
        rw [same]
        exact ⟨{ placed with }, settled, tasks, deleted⟩
    | blocked blocking => rcases blocking with same | same | same <;> cases same
    | waiting blocking awaits => rcases blocking with same | same | same <;> cases same

theorem capped_lt (priority : Nat) : capped priority < configMaxPriorities := by
  have some_ : 0 < configMaxPriorities := by decide
  rw [capped]
  split <;> omega

omit [DecidableEq E] in
theorem setPriority_uxPriority (kernel : Kernel T E) (task : T) (priority : Nat) :
    (kernel.setPriority task priority).uxPriority =
      Function.update kernel.uxPriority task priority :=
  rfl

omit [DecidableEq E] in
theorem Legal.of_not_ready {uxPriority : Nat} (legal : Legal uxPriority top generic event)
    (elsewhere : generic ≠ some (.pxReadyTasksLists uxPriority)) (priority : Nat) :
    Legal priority top generic event := by
  cases legal with
  | absent => exact .absent
  | ready low => exact absurd rfl elsewhere
  | terminated => exact .terminated
  | blocked blocking => exact .blocked blocking
  | waiting blocking awaits => exact .waiting blocking awaits

theorem Kept.relistReady (kept : Kept idle kernel) (apart : task ≠ idle) {priority : Nat}
    (low : priority < configMaxPriorities) :
    Kept idle ((kernel.setPriority task priority).relistReady task (kernel.uxPriority task)) := by
  have changed := (MovedTo.stay kept.sound task).setPriority priority
    fun list held => kept.not_delayed held
  have new : (kernel.setPriority task priority).uxPriority task < configMaxPriorities := by
    rw [setPriority_uxPriority, Function.update_self]
    exact low
  rw [Kernel.relistReady]
  split
  next ready =>
    have place : kernel.pvContainer (.xGenericListItem task) = some _ := ready
    rw [(kept.ready_task ⟨_, place⟩).2.2] at changed
    exact kept.move changed.removeGeneric.addReady (addReady_legal (vListRemove _ _) task) new
      (fun _ => apart) nofun ⟨rfl, rfl⟩ (alive_of_held place nofun) nofun
  next elsewhere =>
    have legal := (kept.legal task).of_not_ready elsewhere
      ((kernel.setPriority task priority).uxPriority task)
    exact ⟨kept.toPlaced.move changed legal new fun _ => apart, kept.settled, kept.counted⟩

theorem Kept.vTaskPrioritySet (kept : Kept idle kernel) (apart : task ≠ idle) (priority : Nat) :
    Kept idle (kernel.vTaskPrioritySet task priority) := by
  have moved := kept.relistReady apart (capped_lt priority)
  rw [Kernel.vTaskPrioritySet]
  split
  next => exact moved.yieldIf _
  next => exact kept

omit [DecidableEq E] in
theorem prvInitialiseTCBVariables_of_absent (absent : kernel.Absent task) (priority : Nat) :
    kernel.prvInitialiseTCBVariables task priority = kernel.setPriority task (capped priority) := by
  have generic := ListStore.vListInitialiseItem_of_free absent.1
  have event := ListStore.vListInitialiseItem_of_free absent.2
  rw [prvInitialiseTCBVariables, generic, event]

theorem Kept.added (kept : Kept idle kernel) (absent : kernel.Absent task)
    (apart : kernel.xSchedulerRunning → task ≠ idle)
    (there : MovedTo task kernel moved none none wake)
    (low : moved.uxPriority task < configMaxPriorities)
    (number : moved.uxCurrentNumberOfTasks = kernel.uxCurrentNumberOfTasks + 1)
    (deleted : moved.uxTasksDeleted = kernel.uxTasksDeleted) :
    Kept idle (moved.prvAddTaskToReadyQueue task) := by
  have ready := there.addReady
  have legal := addReady_legal moved task
  have more := kept.counted.1.cons (not_not.mpr absent.1)
    (ready.enters (· ≠ none) (Option.some_ne_none _))
  have same := kept.counted.2.congr (ready.generic_iff (· = some .xTasksWaitingTermination)
    (iff_of_false (absent.1.trans_ne nofun) nofun))
  rw [← number] at more
  rw [← deleted] at same
  exact ⟨kept.toPlaced.move ready legal low apart, kept.settled.move ready legal nofun, more, same⟩

theorem Kept.xTaskGenericCreate (kept : Kept idle kernel) (absent : kernel.Absent task)
    (apart : kernel.xSchedulerRunning → task ≠ idle) (priority : Nat) :
    Kept idle (kernel.xTaskGenericCreate task priority) := by
  have initialised := (MovedTo.stay kept.sound task).setPriority (capped priority)
    fun list held => kept.not_delayed held
  have low : (kernel.setPriority task (capped priority)).uxPriority task < configMaxPriorities := by
    rw [setPriority_uxPriority, Function.update_self]
    exact capped_lt priority
  rw [absent.1, absent.2] at initialised
  have there : MovedTo task kernel
      ((kernel.setPriority task (capped priority)).countTask task priority) none none _ :=
    { initialised with }
  rw [Kernel.xTaskGenericCreate, prvInitialiseTCBVariables_of_absent absent]
  exact (kept.added absent apart there low rfl rfl).yieldIf _

theorem xTaskGenericCreate_moved (sound : kernel.lists.Sound) (absent : kernel.Absent task)
    (priority : Nat) : MovedTo task kernel (kernel.xTaskGenericCreate task priority)
      (some (.pxReadyTasksLists (capped priority))) none
        (kernel.lists.xItemValue (.xGenericListItem task)) := by
  have initialised := (MovedTo.stay sound task).setPriority (capped priority)
    fun list held => nomatch absent.2.symm.trans held
  rw [absent.1, absent.2] at initialised
  have there : MovedTo task kernel
      ((kernel.setPriority task (capped priority)).countTask task priority) none none _ :=
    { initialised with }
  have ready := there.addReady
  have new : ((kernel.setPriority task (capped priority)).countTask task priority).uxPriority task =
      capped priority :=
    Function.update_self ..
  rw [new] at ready
  rw [Kernel.xTaskGenericCreate, prvInitialiseTCBVariables_of_absent absent]
  split
  · exact { ready with }
  · exact ready

/-! Runs. -/

theorem Kept.vTaskStartScheduler (kept : Kept idle kernel)
    (stopped : kernel.xSchedulerRunning = false) (first : kernel.Absent idle)
    (second : kernel.Absent task) (apart : task ≠ idle) :
    Kept idle (kernel.vTaskStartScheduler idle task) := by
  have one := kept.xTaskGenericCreate first (fun started => nomatch stopped ▸ started)
    tskIdlePriority
  have there := xTaskGenericCreate_moved kept.sound first tskIdlePriority
  have absent : (kernel.xTaskGenericCreate idle tskIdlePriority).Absent task :=
    ⟨(there.others (.xGenericListItem task) apart).trans second.1,
      (there.others (.xEventListItem task) apart).trans second.2⟩
  have two := one.xTaskGenericCreate absent (fun _ => apart) configTimerTaskPriority
  have then_ := xTaskGenericCreate_moved one.sound absent configTimerTaskPriority
  have place := (then_.others (.xGenericListItem idle) apart.symm).trans there.generic
  exact { two with idle := fun _ => place }

theorem Kept.step (kept : Kept idle kernel) {next : KernelEvent T E}
    (allowed : kernel.Allowed idle next) : Kept idle (kernel.step next) := by
  cases next with
  | xTaskGenericCreate task priority =>
      refine kept.xTaskGenericCreate allowed.1 (fun started same => ?_) priority
      have place := kept.idle started
      rw [← same, allowed.1.1] at place
      cases place
  | vTaskStartScheduler task timers =>
      obtain ⟨stopped, rfl, apart, first, second⟩ := allowed
      exact kept.vTaskStartScheduler stopped first second apart
  | sysTick => exact kept.sysTickHandler
  | pendSV => exact kept.pendSVHandler
  | taskYield => exact { kept with }
  | vTaskSuspendAll => exact ⟨{ kept.toPlaced with }, nofun, kept.counted⟩
  | xTaskResumeAll => exact kept.xTaskResumeAll allowed.1
  | vTaskDelay ticks => exact kept.delayCurrent allowed.2.1 allowed.2.2.1 ticks
  | vTaskPlaceOnEventList event ticks =>
      exact kept.vTaskPlaceOnEventList allowed.2.1 allowed.2.2.1 event ticks
  | vTaskPlaceOnEventListRestricted event ticks =>
      exact kept.vTaskPlaceOnEventListRestricted allowed.2.1 allowed.2.2.1 event ticks
  | xTaskRemoveFromEventList event caller =>
      exact (kept.xTaskRemoveFromEventList event).unblockedBy caller
  | vTaskDelete task => exact kept.vTaskDelete allowed.2.1 allowed.2.2
  | prvCheckTasksWaitingTermination => exact kept.reapTerminated
  | vTaskPrioritySet task priority => exact kept.vTaskPrioritySet allowed.2 priority
  | vTaskSuspend task => exact kept.vTaskSuspend allowed.2.1 allowed.2.2
  | vTaskResume task => exact kept.vTaskResume task
  | xTaskResumeFromISR task => exact (kept.xTaskResumeFromISR task).yieldIf _

omit [DecidableEq T] [DecidableEq E] in
theorem kept_unstarted (idle task : T) : Kept idle (unstarted task : Kernel T E) :=
  ⟨⟨ListStore.sound_boot, fun _ => .absent, fun _ => Nat.succ_pos 62, .inl ⟨rfl, rfl⟩, nofun⟩,
    fun _ _ => nofun,
    ⟨[], List.nodup_nil, rfl, fun _ => by simp [pvContainer, unstarted]⟩,
    ⟨[], List.nodup_nil, rfl, fun _ => by simp [pvContainer, unstarted]⟩⟩

theorem kept_firstCreated (idle task : T) (priority : Nat) :
    Kept idle (firstCreated task priority : Kernel T E) :=
  (kept_unstarted idle task).xTaskGenericCreate ⟨rfl, rfl⟩ nofun priority

/-- Some run from the creation of the first task leads here. -/
def Reached (idle : T) (kernel : Kernel T E) : Prop :=
  ∃ task priority events, Along step (Allowed idle) (firstCreated task priority) events ∧
    events.foldl step (firstCreated task priority) = kernel

theorem Reached.kept (reached : Reached idle kernel) : Kept idle kernel := by
  obtain ⟨task, priority, events, allowed, rfl⟩ := reached
  exact reached_of_along (fun _ _ kept fits => kept.step fits)
    (kept_firstCreated idle task priority)
    allowed (List.append_nil events).symm

theorem Placed.next_ready (placed : Placed idle kernel) {priority : Nat}
    (some_ : kernel.items (.pxReadyTasksLists priority) ≠ []) :
    kernel.Ready (kernel.switchedTo priority).pxCurrentTCB ∧
      kernel.uxPriority (kernel.switchedTo priority).pxCurrentTCB = priority := by
  obtain ⟨item, member, found⟩ := KernelList.next_mem
    (placed.sound.distinct (.pxReadyTasksLists priority))
    (placed.sound.index (.pxReadyTasksLists priority)) some_
  have current : (kernel.switchedTo priority).pxCurrentTCB = item.pvOwner := by
    simp [Kernel.switchedTo, ListStore.listGetOwnerOfNextEntry, found]
  have outside : ¬Awaits (.pxReadyTasksLists priority : TaskList E) := by
    rintro (same | ⟨event, same⟩) <;> cases same
  have place : kernel.pvContainer item = some (.pxReadyTasksLists priority) :=
    (placed.sound.container _ _).mp member
  rw [placed.item_of_not_awaits member outside] at place
  have ready := (placed.ready_task ⟨priority, place⟩).1
  rw [place] at ready
  rw [current]
  exact ⟨⟨priority, place⟩, (TaskList.pxReadyTasksLists.inj (Option.some.inj ready)).symm⟩

omit [DecidableEq T] [DecidableEq E] in
theorem Placed.ready_member (placed : Placed idle kernel) (ready : kernel.Ready task) :
    kernel.items (.pxReadyTasksLists (kernel.uxPriority task)) ≠ [] :=
  List.ne_nil_of_mem ((placed.sound.container _ _).mpr (placed.ready_task ready).1)

/-- A task that is ready and has the highest priority of all runs next. -/
theorem Kept.vTaskSwitchContext (kept : Kept idle kernel) (started : kernel.xSchedulerRunning)
    (going : kernel.uxSchedulerSuspended = 0) :
    ∃ next, kernel.vTaskSwitchContext = some next ∧ kernel.Ready next.pxCurrentTCB ∧
      ∀ task, kernel.Ready task → kernel.uxPriority task ≤ kernel.uxPriority next.pxCurrentTCB := by
  have search := topReady_spec kernel kernel.uxTopReadyPriority
  rw [Kernel.vTaskSwitchContext, if_neg (not_not.mpr going)]
  cases found : kernel.topReady kernel.uxTopReadyPriority with
  | none =>
      rw [found] at search
      have ready : kernel.Ready idle := ⟨_, kept.idle started⟩
      exact absurd (search _ (kept.ready_task ready).2.1) (kept.ready_member ready)
  | some priority =>
      rw [found] at search
      obtain ⟨next, same⟩ := kept.next_ready search.2.1
      refine ⟨_, rfl, next, fun task ready => ?_⟩
      rw [same]
      refine Nat.le_of_not_lt fun above => kept.ready_member ready ?_
      exact search.2.2 _ (kept.ready_task ready).2.1 above

omit [DecidableEq T] [DecidableEq E] in
theorem Kept.deleted_length (kept : Kept idle kernel) :
    (kernel.items .xTasksWaitingTermination).length = kernel.uxTasksDeleted := by
  obtain ⟨tasks, distinct, length, all⟩ := kept.counted.2
  have outside : ¬Awaits (.xTasksWaitingTermination : TaskList E) := by
    rintro (same | ⟨event, same⟩) <;> cases same
  have injective : Function.Injective (TaskItem.xGenericListItem : T → TaskItem T) :=
    fun _ _ same => TaskItem.xGenericListItem.inj same
  have same : (kernel.items .xTasksWaitingTermination).Perm (tasks.map .xGenericListItem) := by
    refine (List.perm_ext_iff_of_nodup (kept.sound.distinct _)
      (distinct.map injective)).mpr fun item => ?_
    rw [List.mem_map]
    constructor
    · intro member
      have generic := kept.item_of_not_awaits member outside
      have held := (kept.sound.container _ _).mp member
      rw [generic] at held
      exact ⟨item.pvOwner, (all _).mpr held, generic.symm⟩
    · rintro ⟨task, member, rfl⟩
      exact (kept.sound.container _ _).mpr ((all task).mp member)
  rw [same.length_eq, List.length_map, length]

def startedSample : Kernel Nat Unit := (firstCreated 1 2).step (.vTaskStartScheduler 8 9)

theorem reached_startedSample : Reached 8 startedSample :=
  ⟨1, 2, [.vTaskStartScheduler 8 9], ⟨⟨rfl, rfl, by decide, ⟨rfl, rfl⟩, rfl, rfl⟩, trivial⟩, rfl⟩

/-- Its first task is delayed, the timers' task waits for an event, and then the first task is
deleted. -/
def deletedEvents : List (KernelEvent Nat Unit) :=
  [.vTaskStartScheduler 8 9, .vTaskSuspendAll, .vTaskDelay 5, .xTaskResumeAll, .pendSV,
    .vTaskPlaceOnEventList () 7, .pendSV, .vTaskDelete 1]

def deletedSample : Kernel Nat Unit := deletedEvents.foldl step (firstCreated 1 2)

theorem reached_deletedSample : Reached 8 deletedSample := by
  refine ⟨1, 2, deletedEvents, ⟨⟨rfl, rfl, by decide, ⟨rfl, rfl⟩, rfl, rfl⟩, rfl, ?_, ⟨rfl, by decide⟩, rfl,
    ?_, rfl, ?_, trivial⟩, rfl⟩
  · exact ⟨rfl, ⟨2, rfl⟩, by decide, by decide, by decide⟩
  · exact ⟨rfl, ⟨1, rfl⟩, by decide, by decide⟩
  · exact ⟨rfl, by decide, by decide, by decide⟩

end Kernel

end SmartMeter
