import Mathlib.Algebra.Group.Nat.Defs
import SmartMeter.Kernel.TaskPlaces

/-!
The tick count overflows, and two lists of delayed tasks take turns: in time that does not overflow
every task is woken at its tick.
-/

namespace SmartMeter

open Runs

variable {T E : Type}

namespace Kernel

/-- The ticks that were processed since the start. -/
def now (kernel : Kernel T E) : Nat := kernel.xNumOfOverflows * 2 ^ 32 + kernel.xTickCount.toNat

structure Timed (kernel : Kernel T E) : Prop where
  delayed : kernel.lists.Ordered kernel.pxDelayedTaskList
  overflow : kernel.lists.Ordered kernel.pxOverflowDelayedTaskList
  ahead : ∀ task, kernel.pvContainer (.xGenericListItem task) = some kernel.pxDelayedTaskList →
    kernel.xTickCount < kernel.lists.xItemValue (.xGenericListItem task)
  behind : ∀ task,
    kernel.pvContainer (.xGenericListItem task) = some kernel.pxOverflowDelayedTaskList →
      kernel.lists.xItemValue (.xGenericListItem task) < kernel.xTickCount
  unblock : ∀ task, kernel.pvContainer (.xGenericListItem task) = some kernel.pxDelayedTaskList →
    kernel.xNextTaskUnblockTime ≤ kernel.lists.xItemValue (.xGenericListItem task)

variable {kernel moved checked : Kernel T E} {idle task : T} {generic event : Option (TaskList E)}
variable {wake : UInt32} {list : TaskList E}

theorem Placed.delayed_lists (placed : Placed idle kernel) :
    DelayedList kernel.pxDelayedTaskList ∧ DelayedList kernel.pxOverflowDelayedTaskList ∧
      kernel.pxDelayedTaskList ≠ kernel.pxOverflowDelayedTaskList := by
  rcases placed.delayed with ⟨delayed, overflow⟩ | ⟨delayed, overflow⟩
  · rw [delayed, overflow]
    exact ⟨.inl rfl, .inr rfl, nofun⟩
  · rw [delayed, overflow]
    exact ⟨.inr rfl, .inl rfl, nofun⟩

theorem Timed.move [DecidableEq T] (timed : kernel.Timed) (placed : Placed idle kernel)
    (there : MovedTo task kernel moved generic event wake)
    (ahead : generic = some kernel.pxDelayedTaskList →
      kernel.xTickCount < wake ∧ moved.xNextTaskUnblockTime ≤ wake)
    (behind : generic = some kernel.pxOverflowDelayedTaskList → wake < kernel.xTickCount) :
    moved.Timed := by
  obtain ⟨delayed, overflow, -⟩ := placed.delayed_lists
  refine ⟨?_, ?_, fun other place => ?_, fun other place => ?_, fun other place => ?_⟩
  · rw [there.delayed]
    exact there.ordered _ delayed timed.delayed
  · rw [there.overflow]
    exact there.ordered _ overflow timed.overflow
  · rw [there.delayed] at place
    rw [there.tick]
    by_cases same : other = task
    · rw [same, there.generic] at place
      rw [same, there.wake]
      exact (ahead place).1
    · rw [there.others (.xGenericListItem other) same] at place
      rw [there.values (.xGenericListItem other) same]
      exact timed.ahead other place
  · rw [there.overflow] at place
    rw [there.tick]
    by_cases same : other = task
    · rw [same, there.generic] at place
      rw [same, there.wake]
      exact behind place
    · rw [there.others (.xGenericListItem other) same] at place
      rw [there.values (.xGenericListItem other) same]
      exact timed.behind other place
  · rw [there.delayed] at place
    by_cases same : other = task
    · rw [same, there.generic] at place
      rw [same, there.wake]
      exact (ahead place).2
    · rw [there.others (.xGenericListItem other) same] at place
      rw [there.values (.xGenericListItem other) same]
      exact UInt32.le_trans there.unblock (timed.unblock other place)

theorem MovedTo.now_eq [DecidableEq T] (there : MovedTo task kernel moved generic event wake) :
    moved.now = kernel.now := by
  rw [now, now, there.overflows, there.tick]

/-! One tick. -/

def Due (kernel : Kernel T E) (task : T) : Prop :=
  kernel.pvContainer (.xGenericListItem task) = some kernel.pxDelayedTaskList ∧
    kernel.lists.xItemValue (.xGenericListItem task) ≤ kernel.xTickCount

structure Checked (kernel checked : Kernel T E) : Prop where
  woken : ∀ task, kernel.Due task →
    checked.pvContainer (.xGenericListItem task) =
        some (.pxReadyTasksLists (kernel.uxPriority task)) ∧
      checked.pvContainer (.xEventListItem task) = none
  others : ∀ item, ¬kernel.Due item.pvOwner → checked.pvContainer item = kernel.pvContainer item
  values : ∀ task, checked.lists.xItemValue (.xGenericListItem task) =
    kernel.lists.xItemValue (.xGenericListItem task)
  tick : checked.xTickCount = kernel.xTickCount
  overflows : checked.xNumOfOverflows = kernel.xNumOfOverflows
  delayed : checked.pxDelayedTaskList = kernel.pxDelayedTaskList
  overflow : checked.pxOverflowDelayedTaskList = kernel.pxOverflowDelayedTaskList
  running : checked.xSchedulerRunning = kernel.xSchedulerRunning
  suspended : checked.uxSchedulerSuspended = kernel.uxSchedulerSuspended
  ordered : ∀ list, DelayedList list → kernel.lists.Ordered list → checked.lists.Ordered list
  unblock : ∀ task, kernel.pvContainer (.xGenericListItem task) = some kernel.pxDelayedTaskList →
    ¬kernel.Due task → checked.xNextTaskUnblockTime ≤
      kernel.lists.xItemValue (.xGenericListItem task)

/-- Nothing is due. -/
theorem Checked.same (nothing : ∀ task, ¬kernel.Due task) (time : UInt32)
    (unblock : ∀ task, kernel.pvContainer (.xGenericListItem task) = some kernel.pxDelayedTaskList →
      time ≤ kernel.lists.xItemValue (.xGenericListItem task)) :
    Checked kernel { kernel with xNextTaskUnblockTime := time } where
  woken task due := absurd due (nothing task)
  others _ _ := rfl
  values _ := rfl
  tick := rfl
  overflows := rfl
  delayed := rfl
  overflow := rfl
  running := rfl
  suspended := rfl
  ordered _ _ ordered := ordered
  unblock task place _ := unblock task place

theorem Placed.due_moved [DecidableEq T] (placed : Placed idle kernel)
    (there : MovedTo task kernel moved
      (some (.pxReadyTasksLists (kernel.uxPriority task))) event wake)
    (other : T) : moved.Due other ↔ other ≠ task ∧ kernel.Due other := by
  obtain ⟨delayed, -, -⟩ := placed.delayed_lists
  by_cases same : other = task
  · simp only [same, Due, there.generic, there.delayed, ne_eq, not_true_eq_false, false_and,
    iff_false]
    rintro ⟨place, -⟩
    rw [← Option.some.inj place] at delayed
    rcases delayed with same | same <;> cases same
  · rw [Due, Due, there.others (.xGenericListItem other) same,
      there.values (.xGenericListItem other) same, there.delayed, there.tick]
    simp [same]

theorem Checked.after [DecidableEq T] (placed : Placed idle kernel) (due : kernel.Due task)
    (there : MovedTo task kernel moved (some (.pxReadyTasksLists (kernel.uxPriority task))) none
      (kernel.lists.xItemValue (.xGenericListItem task)))
    (priorities : moved.uxPriority = kernel.uxPriority) (rest : Checked moved checked) :
    Checked kernel checked where
  woken other otherDue := by
    by_cases same : other = task
    · have off : ¬moved.Due task := by simp [placed.due_moved there]
      rw [same, rest.others (.xGenericListItem task) off, rest.others (.xEventListItem task) off]
      exact ⟨there.generic, there.event⟩
    · rw [← priorities]
      exact rest.woken other ((placed.due_moved there other).mpr ⟨same, otherDue⟩)
  others item off := by
    have apart : item.pvOwner ≠ task := fun same => off (same ▸ due)
    have still : ¬moved.Due item.pvOwner := fun moved => off ((placed.due_moved there _).mp moved).2
    rw [rest.others item still, there.others item apart]
  values other := by
    rw [rest.values]
    by_cases same : other = task
    · rw [same, there.wake]
    · exact there.values (.xGenericListItem other) same
  tick := rest.tick.trans there.tick
  overflows := rest.overflows.trans there.overflows
  delayed := rest.delayed.trans there.delayed
  overflow := rest.overflow.trans there.overflow
  running := rest.running.trans there.running
  suspended := rest.suspended.trans there.suspended
  ordered list delayed before := rest.ordered list delayed (there.ordered list delayed before)
  unblock other place off := by
    have apart : other ≠ task := fun same => off (same ▸ due)
    have still : ¬moved.Due other := fun moved => off ((placed.due_moved there _).mp moved).2
    have bound := rest.unblock other
    rw [there.others (.xGenericListItem other) apart, there.delayed,
      there.values (.xGenericListItem other) apart] at bound
    exact bound place still

variable [DecidableEq E]

def deadline (kernel : Kernel T E) (task : T) : Option Nat :=
  let xItemValue := (kernel.lists.xItemValue (.xGenericListItem task)).toNat
  if kernel.pvContainer (.xGenericListItem task) = some kernel.pxDelayedTaskList then
    some (kernel.xNumOfOverflows * 2 ^ 32 + xItemValue)
  else if kernel.pvContainer (.xGenericListItem task) = some kernel.pxOverflowDelayedTaskList then
    some ((kernel.xNumOfOverflows + 1) * 2 ^ 32 + xItemValue)
  else none

theorem MovedTo.deadline_other [DecidableEq T]
    (there : MovedTo task kernel moved generic event wake) {other : T}
    (apart : other ≠ task) : moved.deadline other = kernel.deadline other := by
  rw [deadline, deadline, there.others (.xGenericListItem other) apart,
    there.values (.xGenericListItem other) apart, there.delayed, there.overflow, there.overflows]

theorem deadline_of_delayed
    (place : kernel.pvContainer (.xGenericListItem task) = some kernel.pxDelayedTaskList) :
    kernel.deadline task = some (kernel.xNumOfOverflows * 2 ^ 32 +
      (kernel.lists.xItemValue (.xGenericListItem task)).toNat) :=
  if_pos place

theorem deadline_of_overflow
    (apart : kernel.pvContainer (.xGenericListItem task) ≠ some kernel.pxDelayedTaskList)
    (place : kernel.pvContainer (.xGenericListItem task) = some kernel.pxOverflowDelayedTaskList) :
    kernel.deadline task = some ((kernel.xNumOfOverflows + 1) * 2 ^ 32 +
      (kernel.lists.xItemValue (.xGenericListItem task)).toNat) :=
  (if_neg apart).trans (if_pos place)

theorem deadline_elsewhere
    (first : kernel.pvContainer (.xGenericListItem task) ≠ some kernel.pxDelayedTaskList)
    (second : kernel.pvContainer (.xGenericListItem task) ≠
      some kernel.pxOverflowDelayedTaskList) : kernel.deadline task = none :=
  (if_neg first).trans (if_neg second)

/-- A task that has gone to a list of another kind is not delayed. -/
theorem Placed.deadline_none (placed : Placed idle kernel)
    (place : kernel.pvContainer (.xGenericListItem task) = generic)
    (apart : ∀ list, generic = some list → ¬DelayedList list) : kernel.deadline task = none := by
  obtain ⟨delayed, overflow, -⟩ := placed.delayed_lists
  refine deadline_elsewhere ?_ ?_
  · exact fun same => apart _ (place.symm.trans same) delayed
  · exact fun same => apart _ (place.symm.trans same) overflow

variable [DecidableEq T]

theorem leaveEventList_eq (kernel : Kernel T E) (task : T) :
    kernel.leaveEventList task = kernel.vListRemove (.xEventListItem task) := by
  rw [leaveEventList]
  split
  next => rfl
  next free =>
    have nowhere : kernel.lists.pvContainer (.xEventListItem task) = none := not_not.mp free
    rw [vListRemove, ListStore.vListRemove, nowhere]

theorem unblock_items (sound : kernel.lists.Sound) (task : T)
    (apart : ∀ priority, list ≠ .pxReadyTasksLists priority) :
    (kernel.unblock task).items list =
      ((kernel.items list).erase (.xGenericListItem task)).erase (.xEventListItem task) := by
  rw [unblock, leaveEventList_eq]
  refine (ListStore.items_vListInsertEnd_of_ne (apart _) _).trans ?_
  refine (ListStore.items_vListRemove (sound.vListRemove _) _ _).trans ?_
  exact congrArg (List.erase · _) (ListStore.items_vListRemove sound _ _)

theorem unblock_moved (sound : kernel.lists.Sound) (task : T) :
    MovedTo task kernel (kernel.unblock task) (some (.pxReadyTasksLists (kernel.uxPriority task)))
      none (kernel.lists.xItemValue (.xGenericListItem task)) := by
  have ready := (MovedTo.stay sound task).removeGeneric.leaveEventList.addReady
  rwa [leaveEventList_uxPriority] at ready

omit [DecidableEq E] [DecidableEq T] in
theorem Placed.nobody (placed : Placed idle kernel) (empty : kernel.items list = []) (task : T) :
    kernel.pvContainer (.xGenericListItem task) ≠ some list := by
  intro place
  have inside := (placed.sound.container _ _).mpr place
  rw [show kernel.lists.items _ = [] from empty] at inside
  cases inside

omit [DecidableEq E] [DecidableEq T] in
theorem Placed.head_least (placed : Placed idle kernel) (ordered : kernel.lists.Ordered list)
    (blocking : Blocking list) {head : TaskItem T} {rest : List (TaskItem T)}
    (held : kernel.items list = head :: rest)
    (place : kernel.pvContainer (.xGenericListItem task) = some list) :
    kernel.lists.xItemValue (.xGenericListItem head.pvOwner) ≤
      kernel.lists.xItemValue (.xGenericListItem task) := by
  have generic := placed.item_of_not_awaits (held ▸ List.mem_cons_self)
    (not_awaits_of_blocking blocking)
  have inside : .xGenericListItem task ∈ kernel.items list :=
    (placed.sound.container _ _).mpr place
  rw [ListStore.Ordered, show kernel.lists.items _ = head :: rest from held] at ordered
  rw [held] at inside
  rcases List.mem_cons.mp inside with first | later
  · rw [first, ← generic]
    exact UInt32.le_refl _
  · rw [← generic]
    exact List.rel_of_pairwise_cons ordered later

/-- The loop wakes every task that is due, and comes to an end. -/
theorem Kept.checkDelayedLoop_spec (kept : Kept idle kernel)
    (ordered : kernel.lists.Ordered kernel.pxDelayedTaskList) {turns : Nat}
    (enough : (kernel.items kernel.pxDelayedTaskList).length < turns) :
    Checked kernel (kernel.checkDelayedLoop turns) := by
  induction turns generalizing kernel with
  | zero => exact absurd enough (Nat.not_lt_zero _)
  | succ turns ih =>
      obtain ⟨delayed, -, -⟩ := kept.delayed_lists
      have blocking := kept.blocking_delayed.1
      rw [Kernel.checkDelayedLoop]
      split
      next empty =>
        exact .same (fun task due => kept.nobody empty task due.1) _
          fun task place => absurd place (kept.nobody empty task)
      next head rest held =>
        have generic := kept.item_of_not_awaits (held ▸ List.mem_cons_self)
          (not_awaits_of_blocking blocking)
        have place := kept.head_of_not_awaits held (not_awaits_of_blocking blocking)
        dsimp only
        split
        next early =>
          refine .same (fun task due => ?_) _ fun task => kept.head_least ordered blocking held
          exact UInt32.not_le.mpr (UInt32.lt_of_lt_of_le early
            (kept.head_least ordered blocking held due.1)) due.2
        next late =>
          have there := unblock_moved kept.sound head.pvOwner
          have due : kernel.Due head.pvOwner := ⟨place, UInt32.not_lt.mp late⟩
          have apart : ∀ priority, kernel.pxDelayedTaskList ≠ .pxReadyTasksLists priority := by
            intro priority same
            rw [same] at delayed
            rcases delayed with same | same <;> cases same
          have fewer : (kernel.unblock head.pvOwner).items kernel.pxDelayedTaskList = rest := by
            rw [unblock_items kept.sound _ apart, held, ← generic, List.erase_cons_head,
              List.erase_of_not_mem]
            intro inside
            have other := kept.item_of_not_awaits (held ▸ List.mem_cons_of_mem _ inside)
              (not_awaits_of_blocking blocking)
            cases other
          have same : (kernel.unblock head.pvOwner).uxPriority = kernel.uxPriority :=
            leaveEventList_uxPriority ..
          refine .after kept.toPlaced due there same (ih ?_ ?_ ?_)
          · exact kept.unblock place blocking
          · rw [there.delayed]
            exact there.ordered _ delayed ordered
          · rw [there.delayed, fewer]
            rw [held] at enough
            exact Nat.lt_of_succ_lt_succ enough

theorem Kept.prvCheckDelayedTasks_spec (kept : Kept idle kernel)
    (ordered : kernel.lists.Ordered kernel.pxDelayedTaskList)
    (unblock : ∀ task, kernel.pvContainer (.xGenericListItem task) = some kernel.pxDelayedTaskList →
      kernel.xNextTaskUnblockTime ≤ kernel.lists.xItemValue (.xGenericListItem task)) :
    Checked kernel kernel.prvCheckDelayedTasks := by
  rw [Kernel.prvCheckDelayedTasks]
  split
  next => exact kept.checkDelayedLoop_spec ordered (Nat.lt_succ_self _)
  next early =>
    refine .same (fun task due => ?_) kernel.xNextTaskUnblockTime unblock
    exact UInt32.not_le.mpr (UInt32.not_le.mp early) (UInt32.le_trans (unblock task due.1) due.2)

structure Ticked (kernel ticked : Kernel T E) : Prop where
  now : ticked.now = kernel.now + 1
  deadline : ∀ task, ticked.deadline task = kernel.deadline task
  container : ticked.pvContainer = kernel.pvContainer
  priorities : ticked.uxPriority = kernel.uxPriority
  running : ticked.xSchedulerRunning = kernel.xSchedulerRunning
  suspended : ticked.uxSchedulerSuspended = kernel.uxSchedulerSuspended
  delayed : ticked.lists.Ordered ticked.pxDelayedTaskList
  overflow : ticked.lists.Ordered ticked.pxOverflowDelayedTaskList
  ahead : ∀ task, ticked.pvContainer (.xGenericListItem task) = some ticked.pxDelayedTaskList →
    ticked.xTickCount ≤ ticked.lists.xItemValue (.xGenericListItem task)
  behind : ∀ task,
    ticked.pvContainer (.xGenericListItem task) = some ticked.pxOverflowDelayedTaskList →
      ticked.lists.xItemValue (.xGenericListItem task) < ticked.xTickCount
  unblock : ∀ task, ticked.pvContainer (.xGenericListItem task) = some ticked.pxDelayedTaskList →
    ticked.xNextTaskUnblockTime ≤ ticked.lists.xItemValue (.xGenericListItem task)

theorem toNat_add_one (count : UInt32) :
    count + 1 = 0 ∧ count.toNat + 1 = 2 ^ 32 ∨
      count + 1 ≠ 0 ∧ (count + 1).toNat = count.toNat + 1 := by
  have bound := count.toNat_lt
  by_cases last : count.toNat + 1 = 2 ^ 32
  · left
    refine ⟨UInt32.toNat_inj.mp ?_, last⟩
    rw [UInt32.toNat_add, UInt32.toNat_one, last]
    rfl
  · right
    have next : (count + 1).toNat = count.toNat + 1 := by
      rw [UInt32.toNat_add, UInt32.toNat_one, Nat.mod_eq_of_lt]
      omega
    refine ⟨fun zero => ?_, next⟩
    rw [zero, UInt32.toNat_zero] at next
    omega

omit [DecidableEq E] [DecidableEq T] in
/-- Where the tick count overflows no task is left in the list that is put away. -/
theorem Timed.delayed_empty (timed : kernel.Timed) (placed : Placed idle kernel)
    (last : kernel.xTickCount.toNat + 1 = 2 ^ 32) :
    kernel.items kernel.pxDelayedTaskList = [] := by
  refine List.eq_nil_iff_forall_not_mem.mpr fun item member => ?_
  have outside := not_awaits_of_blocking placed.blocking_delayed.1
  have place := (placed.sound.container _ item).mp member
  rw [placed.item_of_not_awaits member outside] at place
  have later := UInt32.lt_iff_toNat_lt.mp (timed.ahead _ place)
  have bound := (kernel.lists.xItemValue (.xGenericListItem item.pvOwner)).toNat_lt
  omega

omit [DecidableEq T] in
theorem Kept.switched_spec (kept : Kept idle kernel) (timed : kernel.Timed)
    (zero : kernel.countTick.xTickCount = 0) (last : kernel.xTickCount.toNat + 1 = 2 ^ 32) :
    Ticked kernel kernel.countTick.switchDelayedLists := by
  have nobody := kept.nobody (timed.delayed_empty kept.toPlaced last)
  refine ⟨?_, fun task => ?_, rfl, rfl, rfl, rfl, timed.overflow, timed.delayed,
    fun task place => ?_,
    fun task place => absurd place (nobody task), fun task place => ?_⟩
  · simp only [now, switchDelayedLists, zero, UInt32.toNat_zero]
    change (kernel.xNumOfOverflows + 1) * 2 ^ 32 + 0 = _
    omega
  · have same : kernel.countTick.switchDelayedLists.pvContainer = kernel.pvContainer := rfl
    simp only [deadline, same, if_neg (nobody task)]
    by_cases place : kernel.pvContainer (.xGenericListItem task) =
        some kernel.pxOverflowDelayedTaskList
    · exact (if_pos place).trans (if_pos place).symm
    · exact ((if_neg place).trans (if_neg (nobody task))).trans (if_neg place).symm
  · exact zero ▸ UInt32.zero_le
  · have blocking := kept.blocking_delayed.2
    simp only [switchDelayedLists]
    split
    next empty => exact absurd place (kept.nobody empty task)
    next head rest held => exact kept.head_least timed.overflow blocking held place

omit [DecidableEq T] in
theorem Kept.ticked_spec (kept : Kept idle kernel) (timed : kernel.Timed) :
    Ticked kernel kernel.ticked := by
  rw [Kernel.ticked]
  rcases toNat_add_one kernel.xTickCount with ⟨zero, last⟩ | ⟨some_, next⟩
  · have first : kernel.countTick.xTickCount = 0 := zero
    rw [if_pos first]
    exact kept.switched_spec timed first last
  · have later : kernel.countTick.xTickCount ≠ 0 := some_
    rw [if_neg later]
    refine ⟨?_, fun task => rfl, rfl, rfl, rfl, rfl, timed.delayed, timed.overflow,
      fun task place => ?_,
      fun task place => ?_, timed.unblock⟩
    · simp only [now, countTick, next]
      omega
    · have later := UInt32.lt_iff_toNat_lt.mp (timed.ahead task place)
      rw [UInt32.le_iff_toNat_le]
      change (kernel.xTickCount + 1).toNat ≤ (kernel.lists.xItemValue _).toNat
      omega
    · have earlier := UInt32.lt_iff_toNat_lt.mp (timed.behind task place)
      rw [UInt32.lt_iff_toNat_lt]
      change (kernel.lists.xItemValue _).toNat < (kernel.xTickCount + 1).toNat
      omega

omit [DecidableEq T] in
theorem Ticked.due_iff {ticked : Kernel T E} (spec : Ticked kernel ticked) (task : T) :
    ticked.Due task ↔ ticked.deadline task = some ticked.now := by
  have bound := ticked.xTickCount.toNat_lt
  rw [Due, Kernel.now, UInt32.le_iff_toNat_le]
  by_cases first : ticked.pvContainer (.xGenericListItem task) = some ticked.pxDelayedTaskList
  · have least := UInt32.le_iff_toNat_le.mp (spec.ahead task first)
    rw [deadline_of_delayed first, Option.some.injEq]
    simp only [first, true_and]
    omega
  · by_cases second : ticked.pvContainer (.xGenericListItem task) =
        some ticked.pxOverflowDelayedTaskList
    · rw [deadline_of_overflow first second, Option.some.injEq]
      simp only [first, false_and, false_iff]
      omega
    · simp [first, deadline_elsewhere first second]

/-- A tick wakes the tasks whose tick it is, and leaves the others alone. -/
structure TickedTo (kernel after : Kernel T E) : Prop where
  now : after.now = kernel.now + 1
  running : after.xSchedulerRunning = kernel.xSchedulerRunning
  suspended : after.uxSchedulerSuspended = kernel.uxSchedulerSuspended
  timed : after.Timed
  woken : ∀ task, kernel.deadline task = some (kernel.now + 1) →
    after.pvContainer (.xGenericListItem task) =
        some (.pxReadyTasksLists (kernel.uxPriority task)) ∧
      after.pvContainer (.xEventListItem task) = none ∧ after.deadline task = none
  others : ∀ item, kernel.deadline item.pvOwner ≠ some (kernel.now + 1) →
    after.pvContainer item = kernel.pvContainer item ∧
      after.deadline item.pvOwner = kernel.deadline item.pvOwner

omit [DecidableEq T] in
theorem Checked.deadline_eq (check : Checked kernel checked) (off : ¬kernel.Due task) :
    checked.deadline task = kernel.deadline task := by
  rw [deadline, deadline, check.others (.xGenericListItem task) off, check.values, check.delayed,
    check.overflow, check.overflows]

omit [DecidableEq T] in
theorem Ticked.checked_timed {ticked : Kernel T E} (spec : Ticked kernel ticked)
    (kept : Kept idle ticked) (check : Checked ticked checked) : checked.Timed := by
  obtain ⟨delayed, overflow, -⟩ := kept.delayed_lists
  have early {task : T} {list : TaskList E} (isDelayed : DelayedList list)
      (place : checked.pvContainer (.xGenericListItem task) = some list) : ¬ticked.Due task := by
    intro due
    rw [(check.woken task due).1] at place
    rw [← Option.some.inj place] at isDelayed
    rcases isDelayed with same | same <;> cases same
  refine ⟨?_, ?_, fun task place => ?_, fun task place => ?_, fun task place => ?_⟩
  · rw [check.delayed]
    exact check.ordered _ delayed spec.delayed
  · rw [check.overflow]
    exact check.ordered _ overflow spec.overflow
  · rw [check.delayed] at place
    have off := early delayed place
    rw [check.others (.xGenericListItem task) off] at place
    rw [check.tick, check.values]
    exact UInt32.not_le.mp fun reached => off ⟨place, reached⟩
  · rw [check.overflow] at place
    rw [check.others (.xGenericListItem task) (early overflow place)] at place
    rw [check.tick, check.values]
    exact spec.behind task place
  · rw [check.delayed] at place
    have off := early delayed place
    rw [check.others (.xGenericListItem task) off] at place
    rw [check.values]
    exact check.unblock task place off

theorem Kept.tick_spec (kept : Kept idle kernel) (timed : kernel.Timed)
    (going : kernel.uxSchedulerSuspended = 0) : TickedTo kernel kernel.vTaskIncrementTick := by
  have spec := kept.ticked_spec timed
  have counted := kept.ticked
  have check := counted.prvCheckDelayedTasks_spec spec.delayed spec.unblock
  have result : kernel.vTaskIncrementTick = kernel.ticked.prvCheckDelayedTasks :=
    if_pos going
  have due (task : T) : kernel.ticked.Due task ↔ kernel.deadline task = some (kernel.now + 1) := by
    rw [spec.due_iff, spec.deadline, spec.now]
  rw [result]
  refine ⟨?_, check.running.trans spec.running, check.suspended.trans spec.suspended,
    spec.checked_timed counted check, fun task at_ => ?_, fun item off => ?_⟩
  · rw [← spec.now, now, now, check.overflows, check.tick]
  · obtain ⟨ready, nowhere⟩ := check.woken task ((due task).mpr at_)
    rw [spec.priorities] at ready
    exact ⟨ready, nowhere, counted.prvCheckDelayedTasks.deadline_none ready fun list same => by
      cases same
      exact nofun⟩
  · have still : ¬kernel.ticked.Due item.pvOwner := fun reached => off ((due _).mp reached)
    exact ⟨(check.others item still).trans (congrFun spec.container item),
      (check.deadline_eq still).trans (spec.deadline _)⟩

end Kernel

end SmartMeter
