import SmartMeter.Kernel.ListRefines

/-! A list that is walked entry by entry as a queue of the items' turns. -/

namespace SmartMeter

variable {L I : Type} [DecidableEq I]

namespace KernelList

variable {list : KernelList I} {item : I} {before after : List I}

def order (list : KernelList I) : List I :=
  match list.index with
  | none => list.items
  | some index =>
      (list.items.dropWhile (· ≠ index)).tail ++ list.items.takeWhile (· ≠ index) ++ [index]

theorem order_of_split (distinct : list.items.Nodup) (split : list.items = before ++ after)
    (last : before.getLast? = list.index) : list.order = after ++ before := by
  rcases List.eq_nil_or_concat before with rfl | ⟨front, index, rfl⟩
  · rw [order, ← last, List.getLast?_nil]
    simpa using split
  · have off : ∀ here ∈ front, decide (here ≠ index) = true := by
      intro here member
      rw [split, List.concat_eq_append, List.append_assoc, List.singleton_append,
        List.nodup_middle, List.nodup_cons] at distinct
      simp only [decide_eq_true_eq]
      rintro rfl
      exact distinct.1 (List.mem_append_left _ member)
    have parts : list.items = front ++ index :: after := by simpa using split
    rw [List.concat_eq_append, List.getLast?_concat] at last
    simp only [order, ← last, parts]
    rw [List.dropWhile_append_of_pos off, List.takeWhile_append_of_pos off]
    simp

/-- The walk cuts the list in two. -/
theorem exists_split (distinct : list.items.Nodup)
    (inside : ∀ index, list.index = some index → index ∈ list.items) :
    ∃ before after, list.items = before ++ after ∧ before.getLast? = list.index ∧
      list.order = after ++ before := by
  obtain ⟨before, after, split, last, -⟩ := next_split distinct inside
  exact ⟨before, after, split, last, order_of_split distinct split last⟩

theorem order_perm (distinct : list.items.Nodup)
    (inside : ∀ index, list.index = some index → index ∈ list.items) :
    list.order.Perm list.items := by
  obtain ⟨before, after, split, -, order⟩ := exists_split distinct inside
  rw [split, order]
  exact List.perm_append_comm

theorem next_eq_head (distinct : list.items.Nodup)
    (inside : ∀ index, list.index = some index → index ∈ list.items) :
    list.next = list.order.head? := by
  obtain ⟨before, after, split, last, next⟩ := next_split distinct inside
  rw [next, order_of_split distinct split last, split]
  cases after with
  | nil => simp
  | cons head rest => rfl

/-- The item whose turn it was goes to the end. -/
theorem order_advance (distinct : list.items.Nodup)
    (inside : ∀ index, list.index = some index → index ∈ list.items) {rest : List I}
    (turn : list.order = item :: rest) :
    order { list with index := some item } = rest ++ [item] := by
  obtain ⟨before, after, split, last, order⟩ := exists_split distinct inside
  rw [order] at turn
  cases after with
  | nil =>
      rw [List.nil_append] at turn
      rw [turn, List.append_nil] at split
      have first : list.items = [item] ++ rest := split
      exact order_of_split distinct first rfl
  | cons head after =>
      rw [List.cons_append] at turn
      obtain ⟨rfl, rfl⟩ := List.cons.inj turn
      rw [List.append_assoc]
      exact order_of_split distinct (by simpa using split) List.getLast?_concat

/-- A new item is the last to have its turn. -/
theorem order_insertEnd (distinct : list.items.Nodup)
    (inside : ∀ index, list.index = some index → index ∈ list.items) (fresh : item ∉ list.items) :
    (list.insertEnd item).order = list.order ++ [item] := by
  obtain ⟨before, after, split, placed, last⟩ := list.insertEnd_split item inside
  have unique : (list.insertEnd item).items.Nodup := by
    rw [placed, List.nodup_middle, ← split, List.nodup_cons]
    exact ⟨fresh, distinct⟩
  have parts : (list.insertEnd item).items = (before ++ [item]) ++ after := by simp [placed]
  rw [order_of_split unique parts List.getLast?_concat, order_of_split distinct split last,
    List.append_assoc]

theorem getLast?_erase {items : List I} (apart : items.getLast? ≠ some item) :
    (items.erase item).getLast? = items.getLast? := by
  rcases List.eq_nil_or_concat items with rfl | ⟨front, last, rfl⟩
  · rfl
  · rw [List.concat_eq_append, List.getLast?_concat, ne_eq, Option.some.injEq] at apart
    rw [List.concat_eq_append, List.getLast?_concat, List.erase_append]
    split
    · exact List.getLast?_concat
    · rw [List.erase_of_not_mem (by simpa using Ne.symm apart)]
      exact List.getLast?_concat

/-- The others keep their turns. -/
theorem order_remove (distinct : list.items.Nodup)
    (inside : ∀ index, list.index = some index → index ∈ list.items) :
    (list.remove item).order = list.order.erase item := by
  obtain ⟨before, after, split, last, order⟩ := exists_split distinct inside
  have unique : (list.remove item).items.Nodup := distinct.erase item
  have items : (list.remove item).items = (before ++ after).erase item :=
    congrArg (List.erase · item) split
  rw [split, List.nodup_append] at distinct
  by_cases current : list.index = some item
  · rw [current] at last
    obtain ⟨front, rfl⟩ := List.getLast?_eq_some_iff.mp last
    have off : item ∉ front := by
      intro member
      exact (List.nodup_append.mp distinct.1).2.2 item member item List.mem_cons_self rfl
    have back : item ∉ after :=
      fun member => distinct.2.2 item (List.mem_append_right _ List.mem_cons_self) item member rfl
    have index : (list.remove item).index = front.getLast? := by
      rw [remove, if_pos current, split, List.append_assoc, List.takeWhile_append_of_pos]
      · simp
      · intro here member
        simpa using fun same : here = item => off (same ▸ member)
    rw [List.append_assoc, List.erase_append_right _ off, List.singleton_append,
      List.erase_cons_head] at items
    rw [order_of_split unique items index.symm, order, List.erase_append_right _ back,
      List.erase_append_right _ off, List.erase_cons_head, List.append_nil]
  · have index : (list.remove item).index = list.index := if_neg current
    by_cases earlier : item ∈ before
    · have back : item ∉ after := fun member => distinct.2.2 item earlier item member rfl
      rw [List.erase_append_left _ earlier] at items
      rw [← last] at current
      rw [order_of_split unique items
          ((getLast?_erase current).trans (last.trans index.symm)), order,
        List.erase_append_right _ back]
    · rw [List.erase_append_right _ earlier] at items
      rw [order_of_split unique items (last.trans index.symm), order]
      by_cases later : item ∈ after
      · rw [List.erase_append_left _ later]
      · rw [List.erase_of_not_mem later, List.erase_of_not_mem (by simp [earlier, later])]

end KernelList

namespace ListStore

variable [DecidableEq L] {store : ListStore L I} {item other : I} {list : L}

def turn (store : ListStore L I) (list : L) (item : I) : Nat := (store.list list).order.idxOf item

omit [DecidableEq L] in
theorem turn_of_list {there : KernelList I} (same : store.list list = there) (item : I) :
    store.turn list item = there.order.idxOf item :=
  same ▸ rfl

theorem idxOf_erase_le {items : List I} (apart : other ≠ item) :
    (items.erase other).idxOf item ≤ items.idxOf item := by
  induction items with
  | nil => exact Nat.le_refl _
  | cons head rest ih =>
      by_cases here : head = other
      · subst here
        rw [List.erase_cons_head, List.idxOf_cons_ne _ apart]
        exact Nat.le_succ _
      · rw [List.erase_cons_tail (by simpa using here)]
        by_cases found : head = item
        · rw [List.idxOf_cons_eq _ found]
          exact Nat.zero_le _
        · rw [List.idxOf_cons_ne _ found, List.idxOf_cons_ne _ found]
          exact Nat.succ_le_succ ih

theorem turn_vListRemove (sound : store.Sound) (apart : other ≠ item) (list : L) :
    (store.vListRemove other).turn list item ≤ store.turn list item := by
  cases held : store.pvContainer other with
  | none => rw [vListRemove, held]
  | some holder =>
      rw [vListRemove_of_held held]
      by_cases same : list = holder
      · subst same
        rw [turn_of_list (Function.update_self ..),
          KernelList.order_remove (sound.distinct list) (sound.index list)]
        exact idxOf_erase_le apart
      · exact (turn_of_list (Function.update_of_ne same ..) item).le

theorem turn_vListInsertEnd (sound : store.Sound) (free : store.pvContainer other = none)
    (member : item ∈ store.items list) (target : L) :
    (store.vListInsertEnd target other).turn list item = store.turn list item := by
  by_cases same : list = target
  · subst same
    have fresh : other ∉ store.items list := by
      rw [sound.container, free]
      exact nofun
    have inside : item ∈ (store.list list).order :=
      (KernelList.order_perm (sound.distinct list) (sound.index list)).mem_iff.mpr member
    rw [vListInsertEnd, turn_of_list (Function.update_self ..),
      KernelList.order_insertEnd (sound.distinct list) (sound.index list) fresh,
      List.idxOf_append_of_mem inside]
    rfl
  · exact turn_of_list (Function.update_of_ne same ..) item

theorem turn_vListInsert {target : L} (apart : list ≠ target) (other item : I) :
    (store.vListInsert target other).turn list item = store.turn list item :=
  turn_of_list (Function.update_of_ne apart ..) item

/-- The item whose turn it is is next, and the others come one turn nearer. -/
theorem turn_listGetOwnerOfNextEntry (sound : store.Sound) (member : item ∈ store.items list) :
    (store.listGetOwnerOfNextEntry list).list list =
        { store.list list with index := (store.list list).next } ∧
      (store.turn list item = 0 → (store.list list).next = some item) ∧
      (store.turn list item ≠ 0 →
        (store.listGetOwnerOfNextEntry list).turn list item + 1 = store.turn list item) := by
  have inside : item ∈ (store.list list).order :=
    (KernelList.order_perm (sound.distinct list) (sound.index list)).mem_iff.mpr member
  have next := KernelList.next_eq_head (sound.distinct list) (sound.index list)
  have advanced : (store.listGetOwnerOfNextEntry list).list list =
      { store.list list with index := (store.list list).next } :=
    Function.update_self ..
  obtain ⟨head, rest, order⟩ := List.exists_cons_of_ne_nil (List.ne_nil_of_mem inside)
  rw [order, List.head?_cons] at next
  refine ⟨advanced, fun zero => ?_, fun later => ?_⟩
  · rw [turn, order] at zero
    rw [next]
    by_cases same : head = item
    · rw [same]
    · rw [List.idxOf_cons_ne _ same] at zero
      cases zero
  · have apart : head ≠ item := by
      intro same
      rw [turn, order, List.idxOf_cons_eq _ same] at later
      exact later rfl
    rw [order] at inside
    have member := (List.mem_cons.mp inside).resolve_left (Ne.symm apart)
    rw [turn_of_list advanced, next,
      KernelList.order_advance (sound.distinct list) (sound.index list) order, turn, order,
      List.idxOf_cons_ne _ apart, List.idxOf_append_of_mem member]

omit [DecidableEq L] in
theorem turn_lt (sound : store.Sound) (member : item ∈ store.items list) :
    store.turn list item < (store.items list).length := by
  have perm := KernelList.order_perm (sound.distinct list) (sound.index list)
  rw [turn, ListStore.items, ← perm.length_eq]
  exact List.idxOf_lt_length_of_mem (perm.mem_iff.mpr member)

end ListStore

end SmartMeter
