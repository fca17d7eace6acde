import SmartMeter.Kernel.TurnQueue
import SmartMeter.Kernel.TaskCore

/-! What the steps of the kernel do to the one task they are about. -/

namespace SmartMeter

variable {L I T E : Type} [DecidableEq T] [DecidableEq E]

namespace ListStore

variable [DecidableEq L] [DecidableEq I] {store : ListStore L I}

theorem vListRemove_pvContainer (store : ListStore L I) (item : I) :
    (store.vListRemove item).pvContainer = Function.update store.pvContainer item none := by
  cases held : store.pvContainer item with
  | none => rw [← held, Function.update_eq_self, vListRemove, held]
  | some list => rw [vListRemove_of_held held]

theorem vListRemove_xItemValue (store : ListStore L I) (item : I) :
    (store.vListRemove item).xItemValue = store.xItemValue := by
  rw [vListRemove]
  cases store.pvContainer item <;> rfl

theorem items_vListRemove (sound : store.Sound) (item : I) (list : L) :
    (store.vListRemove item).items list = (store.items list).erase item := by
  have container := sound.container list item
  cases held : store.pvContainer item with
  | none =>
      rw [held] at container
      rw [List.erase_of_not_mem (by simp [container]), vListRemove, held]
  | some holder =>
      rw [held] at container
      rw [vListRemove_of_held held]
      by_cases same : list = holder
      · simp [items, same, KernelList.remove]
      · rw [List.erase_of_not_mem]
        · simp [items, same]
        · rw [container, Option.some.injEq]
          exact Ne.symm same

omit [DecidableEq L] [DecidableEq I] in
theorem items_update_of_ne {target list : L} [DecidableEq L] (apart : list ≠ target)
    (there : KernelList I) (value : I → UInt32) (container : I → Option L) :
    (ListStore.mk (Function.update store.list target there) value container).items list =
      store.items list := by
  simp [items, apart]

def Ordered (store : ListStore L I) (list : L) : Prop :=
  (store.items list).Pairwise fun first second =>
    store.xItemValue first ≤ store.xItemValue second

theorem items_vListInsertEnd_of_ne {target list : L} (apart : list ≠ target) (item : I) :
    (store.vListInsertEnd target item).items list = store.items list :=
  items_update_of_ne apart ..

theorem items_vListInsert_of_ne {target list : L} (apart : list ≠ target) (item : I) :
    (store.vListInsert target item).items list = store.items list :=
  items_update_of_ne apart ..

theorem Ordered.vListRemove {list : L} (ordered : store.Ordered list) (sound : store.Sound)
    (item : I) : (store.vListRemove item).Ordered list := by
  rw [Ordered, items_vListRemove sound, vListRemove_xItemValue]
  exact ordered.sublist List.erase_sublist

theorem Ordered.vListInsertEnd {list target : L} (ordered : store.Ordered list)
    (apart : list ≠ target) (item : I) : (store.vListInsertEnd target item).Ordered list := by
  rw [Ordered, items_vListInsertEnd_of_ne apart]
  exact ordered

omit [DecidableEq L] in
theorem Ordered.setListItemValue {list : L} (ordered : store.Ordered list) {item : I}
    (outside : item ∉ store.items list) (value : UInt32) :
    (store.setListItemValue item value).Ordered list := by
  refine List.Pairwise.imp_of_mem (fun first second before => ?_) ordered
  have one : _ ≠ item := fun same => outside (same ▸ first)
  have two : _ ≠ item := fun same => outside (same ▸ second)
  simpa [ListStore.setListItemValue, one, two] using before

/-- An item goes behind those of no greater value. -/
theorem Ordered.vListInsert {list : L} (ordered : store.Ordered list) (target : L) (item : I) :
    (store.vListInsert target item).Ordered list := by
  by_cases same : list = target
  · subst same
    have items : (store.vListInsert list item).items list =
        (store.items list).takeWhile (store.xItemValue · ≤ store.xItemValue item) ++
          item :: (store.items list).dropWhile (store.xItemValue · ≤ store.xItemValue item) := by
      simp [ListStore.items, ListStore.vListInsert, KernelList.insert]
    have split := store.insert_split list item
    rw [Ordered, split, List.pairwise_append] at ordered
    obtain ⟨front, rear, apart⟩ := ordered
    rw [Ordered, items, List.pairwise_append, List.pairwise_cons]
    have low : ∀ here ∈ (store.items list).takeWhile (store.xItemValue · ≤ store.xItemValue item),
        store.xItemValue here ≤ store.xItemValue item := by
      intro here member
      simpa using List.mem_takeWhile_imp member
    have high : ∀ here ∈ (store.items list).dropWhile (store.xItemValue · ≤ store.xItemValue item),
        store.xItemValue item ≤ store.xItemValue here := by
      intro here member
      have first := (store.items list).head_dropWhile_not
        (store.xItemValue · ≤ store.xItemValue item) (List.ne_nil_of_mem member)
      obtain ⟨head, rest, parts⟩ := List.exists_cons_of_ne_nil (List.ne_nil_of_mem member)
      simp only [parts, List.head_cons, decide_eq_false_iff_not, UInt32.not_le] at first
      rw [parts] at member rear
      rcases List.mem_cons.mp member with rfl | member
      · exact UInt32.le_of_lt first
      · exact UInt32.le_trans (UInt32.le_of_lt first) (List.rel_of_pairwise_cons rear member)
    refine ⟨front, ⟨high, rear⟩, fun first member second later => ?_⟩
    rcases List.mem_cons.mp later with rfl | later
    · exact low first member
    · exact apart first member second later
  · rw [Ordered, items_vListInsert_of_ne same]
    exact ordered

end ListStore

namespace Kernel

def DelayedList (list : TaskList E) : Prop := list = .xDelayedTaskList1 ∨ list = .xDelayedTaskList2

@[simp] theorem not_delayedList_ready {E : Type} (priority : Nat) :
    ¬DelayedList (.pxReadyTasksLists priority : TaskList E) := by
  simp [DelayedList]

@[simp] theorem not_delayedList_event {E : Type} (event : E) :
    ¬DelayedList (.pxEventList event : TaskList E) := by
  simp [DelayedList]

@[simp] theorem not_delayedList_pending {E : Type} :
    ¬DelayedList (.xPendingReadyList : TaskList E) := by
  simp [DelayedList]

@[simp] theorem not_delayedList_suspended {E : Type} :
    ¬DelayedList (.xSuspendedTaskList : TaskList E) := by
  simp [DelayedList]

@[simp] theorem not_delayedList_terminated {E : Type} :
    ¬DelayedList (.xTasksWaitingTermination : TaskList E) := by
  simp [DelayedList]

def turn (kernel : Kernel T E) (priority : Nat) (task : T) : Nat :=
  kernel.lists.turn (.pxReadyTasksLists priority) (.xGenericListItem task)

/-- One kernel state follows another, and only one task has gone to other places. -/
structure Moves (task : T) (kernel moved : Kernel T E) : Prop where
  others : ∀ item : TaskItem T, item.pvOwner ≠ task →
    moved.pvContainer item = kernel.pvContainer item
  values : ∀ item : TaskItem T, item.pvOwner ≠ task →
    moved.lists.xItemValue item = kernel.lists.xItemValue item
  priorities : ∀ other, other ≠ task → moved.uxPriority other = kernel.uxPriority other
  top : kernel.uxTopReadyPriority ≤ moved.uxTopReadyPriority
  suspended : moved.uxSchedulerSuspended = kernel.uxSchedulerSuspended
  running : moved.xSchedulerRunning = kernel.xSchedulerRunning
  delayed : moved.pxDelayedTaskList = kernel.pxDelayedTaskList
  overflow : moved.pxOverflowDelayedTaskList = kernel.pxOverflowDelayedTaskList
  tick : moved.xTickCount = kernel.xTickCount
  overflows : moved.xNumOfOverflows = kernel.xNumOfOverflows
  unblock : moved.xNextTaskUnblockTime ≤ kernel.xNextTaskUnblockTime
  ordered : ∀ list, DelayedList list → kernel.lists.Ordered list → moved.lists.Ordered list
  turns : ∀ other priority, other ≠ task →
    kernel.pvContainer (.xGenericListItem other) = some (.pxReadyTasksLists priority) →
      moved.turn priority other ≤ kernel.turn priority other

/-- `generic` and `event` are where the items of the task are then, and `wake` is the value of the
generic one. -/
structure MovedTo (task : T) (kernel moved : Kernel T E) (generic event : Option (TaskList E))
    (wake : UInt32) : Prop extends Moves task kernel moved where
  sound : moved.lists.Sound
  generic : moved.pvContainer (.xGenericListItem task) = generic
  event : moved.pvContainer (.xEventListItem task) = event
  wake : moved.lists.xItemValue (.xGenericListItem task) = wake

namespace MovedTo

variable {kernel moved : Kernel T E} {task : T} {generic event : Option (TaskList E)}
variable {wake : UInt32}

omit [DecidableEq E] in
theorem stay (sound : kernel.lists.Sound) (task : T) :
    MovedTo task kernel kernel (kernel.pvContainer (.xGenericListItem task))
      (kernel.pvContainer (.xEventListItem task))
      (kernel.lists.xItemValue (.xGenericListItem task)) :=
  ⟨⟨fun _ _ => rfl, fun _ _ => rfl, fun _ _ => rfl, Nat.le_refl _, rfl, rfl, rfl, rfl, rfl, rfl,
    UInt32.le_refl _, fun _ _ ordered => ordered, fun _ _ _ _ => Nat.le_refl _⟩,
    sound, rfl, rfl, rfl⟩

omit [DecidableEq E] in
/-- Where a step leaves the turns of the others. -/
theorem turns_trans (there : MovedTo task kernel moved generic event wake)
    {lists : ListStore (TaskList E) (TaskItem T)}
    (turns : ∀ priority (item : TaskItem T), item.pvOwner ≠ task →
      item ∈ moved.items (.pxReadyTasksLists priority) →
        lists.turn (.pxReadyTasksLists priority) item ≤
          moved.lists.turn (.pxReadyTasksLists priority) item)
    (other : T) (priority : Nat) (apart : other ≠ task)
    (place : kernel.pvContainer (.xGenericListItem other) = some (.pxReadyTasksLists priority)) :
    lists.turn (.pxReadyTasksLists priority) (.xGenericListItem other) ≤
      kernel.turn priority other := by
  refine (turns priority (.xGenericListItem other) apart ?_).trans
    (there.turns other priority apart place)
  rw [← there.others (.xGenericListItem other) apart] at place
  exact (there.sound.container _ _).mpr place

omit [DecidableEq E] in
/-- Only the place of the one item changes. -/
theorem relist (there : MovedTo task kernel moved generic event wake) {item : TaskItem T}
    (owner : item.pvOwner = task) {lists : ListStore (TaskList E) (TaskItem T)}
    (sound : lists.Sound) (value : lists.xItemValue = moved.lists.xItemValue)
    (ordered : ∀ list, DelayedList list → moved.lists.Ordered list → lists.Ordered list)
    (turns : ∀ priority (here : TaskItem T), here.pvOwner ≠ task →
      here ∈ moved.items (.pxReadyTasksLists priority) →
        lists.turn (.pxReadyTasksLists priority) here ≤
          moved.lists.turn (.pxReadyTasksLists priority) here)
    {place : Option (TaskList E)}
    (container : lists.pvContainer = Function.update moved.pvContainer item place) :
    MovedTo task kernel { moved with lists := lists }
      (Function.update moved.pvContainer item place (.xGenericListItem task))
      (Function.update moved.pvContainer item place (.xEventListItem task)) wake := by
  refine ⟨⟨fun here apart => ?_, fun here apart => ?_, there.priorities, there.top,
    there.suspended, there.running, there.delayed, there.overflow, there.tick, there.overflows,
    there.unblock,
    fun list delayed before => ordered list delayed (there.ordered list delayed before),
    there.turns_trans turns⟩, sound, ?_, ?_, ?_⟩
  · have off : here ≠ item := fun same => apart ((congrArg TaskItem.pvOwner same).trans owner)
    rw [← there.others here apart]
    exact (congrFun container here).trans (Function.update_of_ne off ..)
  · exact (congrFun value here).trans (there.values here apart)
  · exact congrFun container _
  · exact congrFun container _
  · exact (congrFun value _).trans there.wake

theorem remove (there : MovedTo task kernel moved generic event wake) (item : TaskItem T)
    (owner : item.pvOwner = task) :
    MovedTo task kernel (moved.vListRemove item)
      (Function.update moved.pvContainer item none (.xGenericListItem task))
      (Function.update moved.pvContainer item none (.xEventListItem task)) wake :=
  there.relist owner (there.sound.vListRemove _) (ListStore.vListRemove_xItemValue ..)
    (fun _ _ ordered => ordered.vListRemove there.sound _)
    (fun _ _ apart _ => ListStore.turn_vListRemove there.sound
      (fun same => apart ((congrArg TaskItem.pvOwner same.symm).trans owner)) _)
    (ListStore.vListRemove_pvContainer ..)

theorem insertEnd (there : MovedTo task kernel moved generic event wake) (item : TaskItem T)
    (owner : item.pvOwner = task) (free : moved.pvContainer item = none) {list : TaskList E}
    (apart : ¬DelayedList list) :
    MovedTo task kernel (moved.vListInsertEnd list item)
      (Function.update moved.pvContainer item (some list) (.xGenericListItem task))
      (Function.update moved.pvContainer item (some list) (.xEventListItem task)) wake :=
  there.relist owner (there.sound.vListInsertEnd free list) rfl
    (fun other delayed ordered => ordered.vListInsertEnd
      (fun same : other = list => apart (same ▸ delayed)) _)
    (fun _ _ _ member => (ListStore.turn_vListInsertEnd there.sound free member list).le) rfl

theorem insert (there : MovedTo task kernel moved generic event wake) (item : TaskItem T)
    (owner : item.pvOwner = task) (free : moved.pvContainer item = none) {list : TaskList E}
    (apart : ∀ priority, .pxReadyTasksLists priority ≠ list) :
    MovedTo task kernel (moved.vListInsert list item)
      (Function.update moved.pvContainer item (some list) (.xGenericListItem task))
      (Function.update moved.pvContainer item (some list) (.xEventListItem task)) wake :=
  there.relist owner (there.sound.vListInsert free list) rfl
    (fun _ _ ordered => ordered.vListInsert list _)
    (fun priority _ _ _ => (ListStore.turn_vListInsert (apart priority) ..).le) rfl

theorem removeGeneric (there : MovedTo task kernel moved generic event wake) :
    MovedTo task kernel (moved.vListRemove (.xGenericListItem task)) none event wake := by
  simpa [there.event] using there.remove (.xGenericListItem task) rfl

theorem removeEvent (there : MovedTo task kernel moved generic event wake) :
    MovedTo task kernel (moved.vListRemove (.xEventListItem task)) generic none wake := by
  simpa [there.generic] using there.remove (.xEventListItem task) rfl

theorem leaveEventList (there : MovedTo task kernel moved generic event wake) :
    MovedTo task kernel (moved.leaveEventList task) generic none wake := by
  rw [Kernel.leaveEventList]
  split
  next => exact there.removeEvent
  next free =>
    have nowhere := not_not.mp free
    rw [there.event] at nowhere
    exact nowhere ▸ there

theorem insertEndGeneric (there : MovedTo task kernel moved none event wake) (list : TaskList E)
    (apart : ¬DelayedList list) :
    MovedTo task kernel (moved.vListInsertEnd list (.xGenericListItem task))
      (some list) event wake := by
  simpa [there.event] using there.insertEnd (.xGenericListItem task) rfl there.generic apart

theorem insertEndEvent (there : MovedTo task kernel moved generic none wake) (list : TaskList E)
    (apart : ¬DelayedList list) :
    MovedTo task kernel (moved.vListInsertEnd list (.xEventListItem task))
      generic (some list) wake := by
  simpa [there.generic] using there.insertEnd (.xEventListItem task) rfl there.event apart

theorem insertGeneric (there : MovedTo task kernel moved none event wake) (list : TaskList E)
    (apart : ∀ priority, .pxReadyTasksLists priority ≠ list) :
    MovedTo task kernel (moved.vListInsert list (.xGenericListItem task)) (some list) event wake := by
  simpa [there.event] using there.insert (.xGenericListItem task) rfl there.generic apart

theorem insertEvent (there : MovedTo task kernel moved generic none wake) (list : TaskList E)
    (apart : ∀ priority, .pxReadyTasksLists priority ≠ list) :
    MovedTo task kernel (moved.vListInsert list (.xEventListItem task)) generic (some list) wake := by
  simpa [there.generic] using there.insert (.xEventListItem task) rfl there.event apart

omit [DecidableEq E] in
theorem raise (there : MovedTo task kernel moved generic event wake) {top : Nat}
    (grown : moved.uxTopReadyPriority ≤ top) :
    MovedTo task kernel { moved with uxTopReadyPriority := top } generic event wake where
  others := there.others
  values := there.values
  priorities := there.priorities
  top := there.top.trans grown
  suspended := there.suspended
  running := there.running
  delayed := there.delayed
  overflow := there.overflow
  tick := there.tick
  overflows := there.overflows
  unblock := there.unblock
  ordered := there.ordered
  turns := there.turns
  sound := there.sound
  generic := there.generic
  event := there.event
  wake := there.wake

theorem addReady (there : MovedTo task kernel moved none event wake) :
    MovedTo task kernel (moved.prvAddTaskToReadyQueue task)
      (some (.pxReadyTasksLists (moved.uxPriority task))) event wake := by
  refine (there.raise ?_).insertEndGeneric _ nofun
  split <;> omega

omit [DecidableEq E] in
theorem setWake (there : MovedTo task kernel moved none event wake) (value : UInt32) :
    MovedTo task kernel (moved.listSetListItemValue (.xGenericListItem task) value) none event
      value where
  others := there.others
  values here apart := by
    have off : here ≠ .xGenericListItem task := fun same => apart (congrArg TaskItem.pvOwner same)
    rw [← there.values here apart]
    simp [listSetListItemValue, ListStore.setListItemValue, off]
  priorities := there.priorities
  top := there.top
  suspended := there.suspended
  running := there.running
  delayed := there.delayed
  overflow := there.overflow
  tick := there.tick
  overflows := there.overflows
  unblock := there.unblock
  ordered list delayed before := by
    refine (there.ordered list delayed before).setListItemValue ?_ value
    rw [there.sound.container, show moved.lists.pvContainer _ = none from there.generic]
    simp
  turns := there.turns
  sound := ⟨there.sound.distinct, there.sound.container, there.sound.index⟩
  generic := there.generic
  event := there.event
  wake := by simp [listSetListItemValue, ListStore.setListItemValue]

omit [DecidableEq E] in
/-- The priority of the task is changed, and what orders it in event lists. -/
theorem setPriority (there : MovedTo task kernel moved generic event wake) (priority : Nat)
    (apart : ∀ list, event = some list → ¬DelayedList list) :
    MovedTo task kernel (moved.setPriority task priority) generic event wake where
  others := there.others
  values here apart := by
    have off : here ≠ .xEventListItem task := fun same => apart (congrArg TaskItem.pvOwner same)
    rw [← there.values here apart]
    simp [Kernel.setPriority, listSetListItemValue, ListStore.setListItemValue, off]
  priorities other apart := by
    rw [← there.priorities other apart]
    exact Function.update_of_ne apart ..
  top := there.top
  suspended := there.suspended
  running := there.running
  delayed := there.delayed
  overflow := there.overflow
  tick := there.tick
  overflows := there.overflows
  unblock := there.unblock
  ordered list delayed before := by
    refine (there.ordered list delayed before).setListItemValue ?_ _
    rw [there.sound.container]
    exact fun held => apart list (there.event.symm.trans held) delayed
  turns := there.turns
  sound := ⟨there.sound.distinct, there.sound.container, there.sound.index⟩
  generic := there.generic
  event := there.event
  wake := by
    rw [← there.wake]
    simp [Kernel.setPriority, listSetListItemValue, ListStore.setListItemValue]

end MovedTo

theorem prvAddTaskToReadyQueue_top (kernel : Kernel T E) (task : T) :
    kernel.uxPriority task ≤ (kernel.prvAddTaskToReadyQueue task).uxTopReadyPriority := by
  simp only [prvAddTaskToReadyQueue, vListInsertEnd]
  split <;> omega

end Kernel

end SmartMeter
