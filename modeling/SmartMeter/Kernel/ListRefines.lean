import Mathlib.Data.List.TakeWhile
import SmartMeter.Kernel.ListCore

/-! The stores of `list.c` into pointers do what the kernel expects of its lists. -/

namespace SmartMeter

open LinkRing Runs

variable {L I : Type}

namespace ListMemory

def nodes (store : ListStore L I) (list : L) : List (ListNode L I) :=
  .xListEnd list :: (store.items list).map .item

def nodeOf (list : L) (index : Option I) : ListNode L I := index.elim (.xListEnd list) .item

structure Represents (memory : ListMemory L I) (store : ListStore L I) : Prop where
  ring : ∀ list, Ring memory.links (.xListEnd list) ((store.items list).map .item)
  index : ∀ list, memory.pxIndex list = nodeOf list (store.list list).index
  count : ∀ list, memory.uxNumberOfItems list = UInt32.ofNat (store.items list).length
  value : ∀ item, memory.xItemValue (.item item) = store.xItemValue item
  endValue : ∀ list, memory.xItemValue (.xListEnd list) = portMaxDelay
  container : memory.pvContainer = store.pvContainer

theorem nodes_apart {store : ListStore L I} (sound : store.Sound) {list other : L}
    (apart : list ≠ other) {node : ListNode L I} (member : node ∈ nodes store list) :
    node ∉ nodes store other := by
  intro shared
  cases node with
  | xListEnd marker =>
      simp only [nodes, List.mem_cons, ListNode.xListEnd.injEq, List.mem_map, reduceCtorEq,
        and_false, exists_false, or_false] at member shared
      exact apart (member.symm.trans shared)
  | item item =>
      simp only [nodes, List.mem_cons, reduceCtorEq, List.mem_map, ListNode.item.injEq,
        exists_eq_right, false_or] at member shared
      rw [sound.container] at member shared
      exact apart (Option.some.inj (member.symm.trans shared))

theorem item_not_mem_nodes {store : ListStore L I} (sound : store.Sound) {item : I}
    (free : store.pvContainer item = none) (list : L) : .item item ∉ nodes store list := by
  simp [nodes, sound.container, free]

def lastOf (list : L) (before : List I) : ListNode L I :=
  (before.map .item).getLastD (.xListEnd list)

theorem nodeOf_eq_item (list : L) (index : Option I) (item : I) :
    nodeOf list index = .item item ↔ index = some item := by
  cases index <;> simp [nodeOf]

theorem lastOf_eq_nodeOf (list : L) (before : List I) :
    lastOf list before = nodeOf list before.getLast? := by
  rw [lastOf, nodeOf, List.getLastD_eq_getLast?, List.getLast?_map]
  cases before.getLast? <;> rfl

def firstOf (list : L) (after : List I) : ListNode L I :=
  (after.map .item).headD (.xListEnd list)

theorem firstOf_cons (list : L) (item : I) (after : List I) :
    firstOf list (item :: after) = .item item :=
  rfl

theorem lastOf_mem {store : ListStore L I} {list : L} {before after : List I}
    (split : store.items list = before ++ after) : lastOf list before ∈ nodes store list := by
  rcases List.mem_cons.mp (getLastD_mem (before.map ListNode.item) (.xListEnd list))
    with here | member
  · exact List.mem_cons.mpr (.inl here)
  · refine List.mem_cons_of_mem _ ?_
    rw [split, List.map_append]
    exact List.mem_append_left _ member

theorem firstOf_mem {store : ListStore L I} {list : L} {before after : List I}
    (split : store.items list = before ++ after) : firstOf list after ∈ nodes store list := by
  rcases List.mem_append.mp (headD_mem (after.map ListNode.item) (.xListEnd list))
    with member | here
  · refine List.mem_cons_of_mem _ ?_
    rw [split, List.map_append]
    exact List.mem_append_right _ member
  · exact List.mem_cons.mpr (.inl (List.mem_singleton.mp here))

namespace Represents

variable {memory : ListMemory L I} {store : ListStore L I} {list : L} {before after : List I}

theorem next_lastOf (represents : memory.Represents store)
    (split : store.items list = before ++ after) :
    memory.links.next (lastOf list before) = firstOf list after := by
  have ring := represents.ring list
  rw [split, List.map_append] at ring
  exact ring.next_position

theorem prev_end (represents : memory.Represents store) (list : L) :
    memory.links.prev (.xListEnd list) = lastOf list (store.items list) :=
  (represents.ring list).prev_anchor

/-- The walk of `vListInsert` ends behind the last item of no greater value. -/
theorem iterate_eq (represents : memory.Represents store) {value : UInt32}
    (below : value ≠ portMaxDelay) {fuel : Nat} (enough : after.length < fuel)
    (split : store.items list = before ++ after) :
    memory.iterate value fuel (lastOf list before) =
      some (lastOf list (before ++ after.takeWhile (store.xItemValue · ≤ value))) := by
  induction fuel generalizing before after with
  | zero => exact absurd enough (Nat.not_lt_zero _)
  | succ fuel ih =>
      rw [iterate, represents.next_lastOf split]
      cases after with
      | nil =>
          have marker : ¬portMaxDelay ≤ value := by
            intro reached
            exact below (UInt32.le_antisymm (le_portMaxDelay value) reached)
          simp [firstOf, represents.endValue, marker]
      | cons head rest =>
          rw [firstOf_cons, represents.value]
          by_cases fits : store.xItemValue head ≤ value
          · have further : store.items list = (before ++ [head]) ++ rest := by simp [split]
            have walked := ih (Nat.lt_of_succ_lt_succ enough) further
            simp [fits, lastOf] at walked ⊢
            exact walked
          · simp [fits]

end Represents

end ListMemory

theorem KernelList.insert_items (value : I → UInt32) (item : I) (list : KernelList I) :
    (list.insert value item).items = list.items.takeWhile (value · ≤ value item) ++
      item :: list.items.dropWhile (value · ≤ value item) :=
  rfl

variable [DecidableEq I]

namespace KernelList

theorem behind_split {index : I} (item : I) {items : List I} (member : index ∈ items) :
    ∃ before after, items = before ++ index :: after ∧
      behind index item items = before ++ index :: item :: after := by
  induction items with
  | nil => cases member
  | cons head rest ih =>
      by_cases here : head = index
      · subst here
        exact ⟨[], rest, rfl, if_pos rfl⟩
      · obtain ⟨before, after, split, placed⟩ :=
          ih ((List.mem_cons.mp member).resolve_left (Ne.symm here))
        refine ⟨head :: before, after, congrArg (head :: ·) split, ?_⟩
        rw [behind, if_neg here, placed]
        rfl

theorem length_behind (index item : I) (items : List I) :
    (behind index item items).length = items.length + 1 := by
  induction items with
  | nil => rfl
  | cons head rest ih =>
      rw [behind]
      split <;> simp [ih]

theorem length_insertEnd (item : I) (list : KernelList I) :
    (list.insertEnd item).items.length = list.items.length + 1 := by
  rw [insertEnd]
  cases list.index with
  | none => rfl
  | some index => exact length_behind index item list.items

omit [DecidableEq I] in
theorem length_insert (value : I → UInt32) (item : I) (list : KernelList I) :
    (list.insert value item).items.length = list.items.length + 1 := by
  have parts := congrArg List.length
    (List.takeWhile_append_dropWhile (p := (value · ≤ value item)) (l := list.items))
  rw [List.length_append] at parts
  rw [insert_items, List.length_append, List.length_cons]
  omega

/-- Where an item goes at the end of the walk. -/
theorem insertEnd_split {list : KernelList I} (item : I)
    (inside : ∀ index, list.index = some index → index ∈ list.items) :
    ∃ before after, list.items = before ++ after ∧
      (list.insertEnd item).items = before ++ item :: after ∧
        before.getLast? = list.index := by
  cases place : list.index with
  | none => exact ⟨[], list.items, rfl, by simp [insertEnd, place], rfl⟩
  | some index =>
      obtain ⟨before, after, split, placed⟩ := behind_split item (inside index place)
      refine ⟨before ++ [index], after, by simp [split], ?_, List.getLast?_concat⟩
      simp [insertEnd, place, placed]

theorem remove_split {item : I} {list : KernelList I} (distinct : list.items.Nodup)
    (member : item ∈ list.items) : ∃ before after, list.items = before ++ item :: after ∧
      (list.remove item).items = before ++ after ∧
        (list.items.takeWhile (· ≠ item)).getLast? = before.getLast? := by
  obtain ⟨before, after, split⟩ := List.append_of_mem member
  have off : item ∉ before := by
    rw [split, List.nodup_middle, List.nodup_cons] at distinct
    exact fun earlier => distinct.1 (List.mem_append_left _ earlier)
  refine ⟨before, after, split, ?_, ?_⟩
  · rw [remove, split, List.erase_append_right _ off, List.erase_cons_head]
  · have whole : before.takeWhile (· ≠ item) = before :=
      List.takeWhile_eq_self_iff.mpr fun here member => by
        simpa using fun same : here = item => off (same ▸ member)
    rw [split, List.takeWhile_append, whole]
    simp

/-- What is given next stands behind the last part given, or is the first of all. -/
theorem next_split {list : KernelList I} (distinct : list.items.Nodup)
    (inside : ∀ index, list.index = some index → index ∈ list.items) :
    ∃ before after, list.items = before ++ after ∧ before.getLast? = list.index ∧
      list.next = after.head?.or list.items.head? := by
  cases place : list.index with
  | none => exact ⟨[], list.items, rfl, rfl, by simp [next, place]⟩
  | some index =>
      obtain ⟨before, after, split⟩ := List.append_of_mem (inside index place)
      have off : ∀ here ∈ before, here ≠ index := by
        rw [split, List.nodup_middle, List.nodup_cons] at distinct
        rintro here member rfl
        exact distinct.1 (List.mem_append_left _ member)
      refine ⟨before ++ [index], after, by simp [split], List.getLast?_concat, ?_⟩
      have skipped : (before ++ index :: after).dropWhile (· ≠ index) = index :: after := by
        rw [List.dropWhile_append_of_pos (by simpa using off)]
        simp
      simp only [next, place, split, skipped, List.tail_cons]

theorem next_mem {list : KernelList I} (distinct : list.items.Nodup)
    (inside : ∀ index, list.index = some index → index ∈ list.items) (some_ : list.items ≠ []) :
    ∃ item ∈ list.items, list.next = some item := by
  obtain ⟨before, after, split, -, found⟩ := next_split distinct inside
  cases after with
  | nil =>
      obtain ⟨item, rest, parts⟩ := List.exists_cons_of_ne_nil some_
      exact ⟨item, parts ▸ List.mem_cons_self, by simp [found, parts]⟩
  | cons item rest => exact ⟨item, by simp [split], by simp [found]⟩

end KernelList

variable [DecidableEq L]

namespace ListStore

def placed (list : L) (item : I) (there : KernelList I) (store : ListStore L I) : ListStore L I :=
  { store with
    list := Function.update store.list list there
    pvContainer := Function.update store.pvContainer item (some list) }

variable {store : ListStore L I} {list : L} {before after : List I} {item : I}

theorem Sound.placed (sound : store.Sound) (free : store.pvContainer item = none)
    (split : store.items list = before ++ after) {there : KernelList I}
    (items : there.items = before ++ item :: after)
    (inside : ∀ index, there.index = some index → index ∈ there.items) :
    (store.placed list item there).Sound where
  distinct other := by
    by_cases same : other = list
    · subst same
      have distinct := sound.distinct other
      have new : item ∉ before ++ after := by
        rw [← split, sound.container, free]
        exact Option.some_ne_none _ ∘ Eq.symm
      rw [split] at distinct
      simpa [ListStore.items, ListStore.placed, items, List.nodup_middle] using
        ⟨by simpa using new, distinct⟩
    · simpa [ListStore.items, ListStore.placed, same] using sound.distinct other
  container other here := by
    have container := sound.container other here
    by_cases same : other = list
    · subst same
      rw [split] at container
      by_cases new : here = item
      · simp [ListStore.items, ListStore.placed, items, new]
      · simpa [ListStore.items, ListStore.placed, items, new] using container
    · by_cases new : here = item
      · subst new
        simpa [ListStore.items, ListStore.placed, same, Ne.symm same, free] using container
      · simpa [ListStore.items, ListStore.placed, same, new] using container
  index other here place := by
    by_cases same : other = list
    · subst same
      simp only [ListStore.items, ListStore.placed, Function.update_self] at place ⊢
      exact inside here place
    · simp only [ListStore.items, ListStore.placed, Function.update_of_ne same] at place ⊢
      exact sound.index other here place

theorem Sound.vListInsertEnd (sound : store.Sound) (free : store.pvContainer item = none)
    (list : L) : (store.vListInsertEnd list item).Sound := by
  obtain ⟨before, after, split, items, last⟩ :=
    (store.list list).insertEnd_split item (sound.index list)
  refine sound.placed free split items fun index place => ?_
  rw [items, ← Option.some.inj place]
  exact List.mem_append_right _ List.mem_cons_self

omit [DecidableEq I] [DecidableEq L] in
theorem insert_split (store : ListStore L I) (list : L) (item : I) :
    store.items list = (store.items list).takeWhile (store.xItemValue · ≤ store.xItemValue item) ++
      (store.items list).dropWhile (store.xItemValue · ≤ store.xItemValue item) :=
  List.takeWhile_append_dropWhile.symm

theorem Sound.vListInsert (sound : store.Sound) (free : store.pvContainer item = none)
    (list : L) : (store.vListInsert list item).Sound := by
  have split := store.insert_split list item
  have items := KernelList.insert_items store.xItemValue item (store.list list)
  refine sound.placed free split items fun index place => ?_
  have member := sound.index list index place
  rw [split] at member
  rw [items]
  simp only [List.mem_append, List.mem_cons] at member ⊢
  tauto

theorem listGetOwnerOfNextEntry_items (store : ListStore L I) (list other : L) :
    (store.listGetOwnerOfNextEntry list).items other = store.items other := by
  by_cases same : other = list
  · simp [items, listGetOwnerOfNextEntry, same]
  · simp [items, listGetOwnerOfNextEntry, same]

theorem Sound.listGetOwnerOfNextEntry (sound : store.Sound) (list : L) :
    (store.listGetOwnerOfNextEntry list).Sound := by
  refine ⟨fun other => ?_, fun other here => ?_, fun other here place => ?_⟩
  · rw [listGetOwnerOfNextEntry_items]
    exact sound.distinct other
  · rw [listGetOwnerOfNextEntry_items]
    exact sound.container other here
  · rw [listGetOwnerOfNextEntry_items]
    by_cases same : other = list
    · obtain ⟨before, after, split, -, next⟩ :=
        KernelList.next_split (sound.distinct list) (sound.index list)
      simp only [ListStore.listGetOwnerOfNextEntry, same, Function.update_self] at place
      rw [next, Option.or_eq_some_iff] at place
      rw [same, items]
      rcases place with ahead | ⟨-, ahead⟩
      · rw [split]
        exact List.mem_append_right _ (List.mem_of_mem_head? ahead)
      · exact List.mem_of_mem_head? ahead
    · simp only [ListStore.listGetOwnerOfNextEntry, Function.update_of_ne same] at place
      exact sound.index other here place

omit [DecidableEq L] in
theorem remove_parts (sound : store.Sound) (held : store.pvContainer item = some list) :
    ∃ before after, store.items list = before ++ item :: after ∧
      ((store.list list).remove item).items = before ++ after ∧
        ((store.items list).takeWhile (· ≠ item)).getLast? = before.getLast? :=
  KernelList.remove_split (sound.distinct list) ((sound.container list item).mpr held)

theorem vListRemove_of_held (held : store.pvContainer item = some list) :
    store.vListRemove item = { store with
      list := Function.update store.list list ((store.list list).remove item)
      pvContainer := Function.update store.pvContainer item none } := by
  rw [vListRemove, held]

theorem Sound.vListRemove (sound : store.Sound) (item : I) : (store.vListRemove item).Sound := by
  cases held : store.pvContainer item with
  | none => simpa [ListStore.vListRemove, held] using sound
  | some list =>
      obtain ⟨before, after, split, items, last⟩ := remove_parts sound held
      have distinct := sound.distinct list
      rw [split, List.nodup_middle, List.nodup_cons] at distinct
      rw [vListRemove_of_held held]
      refine ⟨fun other => ?_, fun other here => ?_, fun other here place => ?_⟩
      · by_cases same : other = list
        · simpa [ListStore.items, same, items] using distinct.2
        · simpa [ListStore.items, same] using sound.distinct other
      · have container := sound.container other here
        by_cases same : other = list
        · subst same
          by_cases new : here = item
          · simpa [ListStore.items, items, new] using distinct.1
          · rw [split] at container
            simpa [ListStore.items, items, new] using container
        · by_cases new : here = item
          · subst new
            simpa [ListStore.items, same, held, Ne.symm same] using container
          · simpa [ListStore.items, same, new] using container
      · by_cases same : other = list
        · subst same
          simp only [ListStore.items, Function.update_self, items] at place ⊢
          by_cases index : (store.list other).index = some item
          · rw [KernelList.remove, if_pos index] at place
            exact List.mem_append_left _ (List.mem_of_getLast? (last.symm.trans place))
          · rw [KernelList.remove, if_neg index] at place
            have member := sound.index other here place
            rw [split] at member
            have apart : here ≠ item := fun same => index (same ▸ place)
            simpa [apart] using member
        · simp only [ListStore.items, Function.update_of_ne same] at place ⊢
          exact sound.index other here place

omit [DecidableEq I] [DecidableEq L] in
theorem sound_initialised (xItemValue : I → UInt32) :
    (initialised xItemValue : ListStore L I).Sound :=
  ⟨fun _ => List.nodup_nil, fun _ _ => by simp [items, initialised, KernelList.empty],
    fun _ _ place => nomatch place⟩

omit [DecidableEq I] [DecidableEq L] in
theorem sound_boot : (boot : ListStore L I).Sound := sound_initialised _

omit [DecidableEq I] in
theorem Sound.vListInitialise (sound : store.Sound) (vacant : store.items list = []) :
    (store.vListInitialise list).Sound := by
  have items (other : L) : (store.vListInitialise list).items other = store.items other := by
    by_cases same : other = list
    · subst same
      simp only [ListStore.items] at vacant
      simp [ListStore.items, ListStore.vListInitialise, KernelList.empty, vacant]
    · simp [ListStore.items, ListStore.vListInitialise, same]
  refine ⟨fun other => ?_, fun other here => ?_, fun other here place => ?_⟩
  · rw [items]
    exact sound.distinct other
  · rw [items]
    exact sound.container other here
  · by_cases same : other = list
    · simp [ListStore.vListInitialise, same, KernelList.empty] at place
    · rw [items]
      exact sound.index other here (by simpa [ListStore.vListInitialise, same] using place)

omit [DecidableEq L] in
theorem vListInitialiseItem_of_free (free : store.pvContainer item = none) :
    store.vListInitialiseItem item = store := by
  rw [vListInitialiseItem, ← free, Function.update_eq_self]

theorem Sound.call (sound : store.Sound) {next : ListCall L I} (allowed : store.Allowed next) :
    (store.call next).Sound := by
  cases next with
  | initialise list => exact sound.vListInitialise allowed
  | initialiseItem item =>
      rw [ListStore.call, vListInitialiseItem_of_free allowed]
      exact sound
  | setValue item value => exact ⟨sound.distinct, sound.container, sound.index⟩
  | insert list item => exact sound.vListInsert allowed list
  | insertEnd list item => exact sound.vListInsertEnd allowed list
  | remove item => exact sound.vListRemove item
  | ownerOfNextEntry list => exact sound.listGetOwnerOfNextEntry list

theorem length_call_le (store : ListStore L I) (next : ListCall L I) (list : L) :
    ((store.call next).items list).length ≤ (store.items list).length + 1 := by
  have changed (target : L) (there : KernelList I)
      (grown : there.items.length ≤ (store.list target).items.length + 1) :
      (Function.update store.list target there list).items.length ≤
        (store.list list).items.length + 1 := by
    by_cases same : list = target
    · subst same
      simpa using grown
    · simp [same]
  cases next with
  | initialise target => exact changed target _ (by simp [KernelList.empty])
  | initialiseItem item => exact Nat.le_succ _
  | setValue item value => exact Nat.le_succ _
  | insert target item => exact changed target _ (KernelList.length_insert ..).le
  | insertEnd target item => exact changed target _ (KernelList.length_insertEnd ..).le
  | remove item =>
      rw [call, vListRemove]
      cases held : store.pvContainer item with
      | none => exact Nat.le_succ _
      | some target => exact changed target _ (List.length_erase_le.trans (Nat.le_succ _))
  | ownerOfNextEntry target =>
      rw [call, listGetOwnerOfNextEntry_items]
      exact Nat.le_succ _

end ListStore

namespace ListMemory

namespace Represents

variable {memory : ListMemory L I} {store : ListStore L I} {list : L} {before after : List I}

/-- An item that is in no list comes behind a part of one. -/
theorem rings_insert (represents : memory.Represents store) (sound : store.Sound) {item : I}
    (free : store.pvContainer item = none) (split : store.items list = before ++ after)
    (items : L → List I) (there : items list = before ++ item :: after)
    (elsewhere : ∀ other, other ≠ list → items other = store.items other) (other : L) :
    Ring (memory.links.insertAfter (lastOf list before) (.item item)) (.xListEnd other)
      ((items other).map .item) := by
  have new := item_not_mem_nodes sound free
  have last := lastOf_mem split
  by_cases same : other = list
  · subst same
    have ring := represents.ring other
    have fresh := new other
    rw [nodes, split, List.map_append] at fresh
    rw [split, List.map_append] at ring
    rw [there, List.map_append, List.map_cons]
    exact ring.insert fresh
  · rw [elsewhere other same]
    refine (represents.ring other).insert_other ?_ (new other) ?_ ?_
    · exact fun equal => new list (equal ▸ last)
    · exact nodes_apart sound (Ne.symm same) last
    · rw [represents.next_lastOf split]
      exact nodes_apart sound (Ne.symm same) (firstOf_mem split)

theorem insertBehind_eq {links : Links (ListNode L I)} {position node : ListNode L I}
    (apart : node ≠ position) (ahead : node ≠ links.next position) :
    insertBehind position node links = links.insertAfter position node := by
  have commute := Function.update_comm ahead position node links.prev
  simp only [insertBehind, Links.insertAfter, Links.setNext, Links.setPrev, Function.update_self,
    Function.update_of_ne apart.symm, commute]

theorem placed (represents : memory.Represents store) (sound : store.Sound) {item : I}
    (free : store.pvContainer item = none) (split : store.items list = before ++ after)
    {there : KernelList I} (items : there.items = before ++ item :: after) :
    (contain list item { memory with
      links := memory.links.insertAfter (lastOf list before) (.item item)
      pxIndex := Function.update memory.pxIndex list (nodeOf list there.index) }).Represents
      (store.placed list item there) where
  ring := by
    refine represents.rings_insert sound free split _ ?_ ?_
    · simpa [ListStore.items, ListStore.placed] using items
    · intro other apart
      simp [ListStore.items, ListStore.placed, apart]
  index other := by
    by_cases same : other = list
    · subst same
      simp [contain, ListStore.placed]
    · simpa [contain, ListStore.placed, same] using represents.index other
  count other := by
    by_cases same : other = list
    · subst same
      have count := represents.count other
      simp only [ListStore.items] at split count
      simp [contain, ListStore.items, ListStore.placed, items, count, split, UInt32.ofNat_add,
        UInt32.add_assoc]
    · simpa [contain, ListStore.items, ListStore.placed, same] using represents.count other
  value := represents.value
  endValue := represents.endValue
  container := by simp [contain, ListStore.placed, represents.container]

theorem vListInsertEnd (represents : memory.Represents store) (sound : store.Sound) {item : I}
    (free : store.pvContainer item = none) (list : L) :
    (memory.vListInsertEnd list item).Represents (store.vListInsertEnd list item) := by
  obtain ⟨before, after, split, items, last⟩ :=
    (store.list list).insertEnd_split item (sound.index list)
  have position : memory.pxIndex list = lastOf list before := by
    rw [represents.index, lastOf_eq_nodeOf, last]
  have placed := represents.placed sound free split items
  rwa [← position] at placed

theorem vListInsert (represents : memory.Represents store) (sound : store.Sound) {item : I}
    (free : store.pvContainer item = none) (list : L) {fuel : Nat}
    (enough : (store.items list).length < fuel) :
    ∃ after, memory.vListInsert fuel list item = some after ∧
      after.Represents (store.vListInsert list item) := by
  have split := store.insert_split list item
  have items := KernelList.insert_items store.xItemValue item (store.list list)
  have same : ((store.list list).insert store.xItemValue item).index = (store.list list).index :=
    rfl
  have placed := represents.placed sound free split items
  rw [same, ← represents.index, Function.update_eq_self, ← insertBehind_eq] at placed
  · refine ⟨_, ?_, placed⟩
    rw [ListMemory.vListInsert, represents.value]
    by_cases greatest : store.xItemValue item = portMaxDelay
    · have whole : (store.items list).takeWhile (store.xItemValue · ≤ portMaxDelay) =
          store.items list :=
        List.takeWhile_eq_self_iff.mpr fun here _ => by simpa using le_portMaxDelay _
      rw [if_pos greatest, represents.prev_end, greatest, whole]
      rfl
    · have walked := represents.iterate_eq greatest enough (List.nil_append _).symm
      rw [lastOf, List.map_nil, List.getLastD_nil] at walked
      rw [if_neg greatest, walked]
      rfl
  · exact fun same => item_not_mem_nodes sound free list (same ▸ lastOf_mem split)
  · rw [represents.next_lastOf split]
    exact fun same => item_not_mem_nodes sound free list (same ▸ firstOf_mem split)

theorem listGetOwnerOfNextEntry (represents : memory.Represents store) (sound : store.Sound)
    (list : L) : (memory.listGetOwnerOfNextEntry list).Represents
      (store.listGetOwnerOfNextEntry list) := by
  obtain ⟨before, after, split, last, next⟩ :=
    KernelList.next_split (sound.distinct list) (sound.index list)
  have position : memory.pxIndex list = lastOf list before := by
    rw [represents.index, lastOf_eq_nodeOf, last]
  have first : memory.links.next (.xListEnd list) = nodeOf list (store.items list).head? := by
    have marker := represents.next_lastOf (List.nil_append (store.items list)).symm
    rw [lastOf, List.map_nil, List.getLastD_nil] at marker
    rw [marker]
    cases store.items list <;> rfl
  have moved : (if firstOf list after = .xListEnd list then memory.links.next (firstOf list after)
      else firstOf list after) = nodeOf list (store.list list).next := by
    rw [next]
    cases after with
    | nil => simpa [firstOf, ListStore.items] using first
    | cons head rest => rfl
  refine ⟨fun other => ?_, fun other => ?_, fun other => ?_, represents.value, represents.endValue,
    represents.container⟩
  · rw [ListStore.listGetOwnerOfNextEntry_items]
    exact represents.ring other
  · rw [ListMemory.listGetOwnerOfNextEntry, position, represents.next_lastOf split, moved]
    by_cases same : other = list
    · simp [ListStore.listGetOwnerOfNextEntry, same]
    · simpa [ListStore.listGetOwnerOfNextEntry, same] using represents.index other
  · rw [ListStore.listGetOwnerOfNextEntry_items]
    exact represents.count other

theorem setListItemValue (represents : memory.Represents store) (item : I) (value : UInt32) :
    (memory.setListItemValue item value).Represents (store.setListItemValue item value) := by
  refine ⟨represents.ring, represents.index, represents.count, fun here => ?_, fun list => ?_,
    represents.container⟩
  · by_cases same : here = item
    · simp [ListMemory.setListItemValue, ListStore.setListItemValue, same]
    · simpa [ListMemory.setListItemValue, ListStore.setListItemValue, same] using
        represents.value here
  · simpa [ListMemory.setListItemValue] using represents.endValue list

theorem vListRemove (represents : memory.Represents store) (sound : store.Sound) {item : I}
    (held : store.pvContainer item = some list) :
    ∃ after, memory.vListRemove item = some after ∧ after.Represents (store.vListRemove item) := by
  obtain ⟨before, after, split, items, last⟩ := ListStore.remove_parts sound held
  have distinct := sound.distinct list
  have ring := represents.ring list
  rw [split, List.map_append, List.map_cons] at ring
  have next : memory.links.next (.item item) = firstOf list after := ring.next_node
  have prev : memory.links.prev (.item item) = lastOf list before := ring.prev_node
  have away : firstOf list after ≠ .item item := by
    rw [split] at distinct
    cases after with
    | nil => exact nofun
    | cons head rest =>
        have apart : item ≠ head := by
          simp only [List.nodup_middle, List.nodup_cons, List.mem_append, List.mem_cons] at distinct
          exact fun same => distinct.1 (.inr (.inl same))
        exact fun same => apart (ListNode.item.inj same).symm
  have left : (memory.links.unlink (.item item)).prev (.item item) = lastOf list before := by
    rw [unlink_prev, next, Function.update_of_ne away.symm, prev]
  rw [ListStore.vListRemove_of_held held, ListMemory.vListRemove, represents.container, held]
  refine ⟨_, rfl, fun other => ?_, fun other => ?_, fun other => ?_, represents.value,
    represents.endValue, ?_⟩
  · by_cases same : other = list
    · subst same
      simpa [ListStore.items, items] using ring.remove
    · simp only [ListStore.items, Function.update_of_ne same]
      refine (represents.ring other).unlink_other ?_ ?_ ?_
      · rwa [next]
      · rw [prev]
        exact nodes_apart sound (Ne.symm same) (lastOf_mem split)
      · rw [next]
        exact nodes_apart sound (Ne.symm same) (firstOf_mem (split.trans (List.append_cons ..)))
  · simp only [left, represents.index list, nodeOf_eq_item]
    by_cases same : other = list
    · subst same
      by_cases index : (store.list other).index = some item
      · simp [index, KernelList.remove, lastOf_eq_nodeOf, ← last, ListStore.items]
      · simp [index, KernelList.remove, represents.index]
    · by_cases index : (store.list list).index = some item
      · simpa [index, same] using represents.index other
      · simpa [index, same] using represents.index other
  · by_cases same : other = list
    · subst same
      have count := represents.count other
      rw [split] at count
      simp [ListStore.items, items, count, UInt32.ofNat_add, ← UInt32.add_assoc]
    · simpa [ListStore.items, same] using represents.count other
  · simp

theorem vListInitialise (represents : memory.Represents store) (sound : store.Sound)
    (vacant : store.items list = []) :
    (memory.vListInitialise list).Represents (store.vListInitialise list) where
  ring other := by
    by_cases same : other = list
    · subst same
      simpa [ListStore.items, ListStore.vListInitialise, KernelList.empty,
        ListMemory.vListInitialise] using ring_init ..
    · have marker : ListNode.xListEnd list ∉ nodes store other :=
        nodes_apart sound (Ne.symm same) List.mem_cons_self
      simpa [ListStore.items, ListStore.vListInitialise, same, ListMemory.vListInitialise] using
        (represents.ring other).init_other marker
  index other := by
    by_cases same : other = list
    · subst same
      simp [ListMemory.vListInitialise, ListStore.vListInitialise, KernelList.empty, nodeOf]
    · simpa [ListMemory.vListInitialise, ListStore.vListInitialise, same] using
        represents.index other
  count other := by
    by_cases same : other = list
    · subst same
      simp [ListMemory.vListInitialise, ListStore.items, ListStore.vListInitialise,
        KernelList.empty]
    · simpa [ListMemory.vListInitialise, ListStore.items, ListStore.vListInitialise, same] using
        represents.count other
  value item := by
    simpa [ListMemory.vListInitialise, ListStore.vListInitialise] using represents.value item
  endValue other := by
    by_cases same : other = list
    · simp [ListMemory.vListInitialise, same]
    · simpa [ListMemory.vListInitialise, same] using represents.endValue other
  container := represents.container

omit [DecidableEq L] in
theorem vListInitialiseItem (represents : memory.Represents store) (item : I) :
    (memory.vListInitialiseItem item).Represents (store.vListInitialiseItem item) := by
  refine ⟨represents.ring, represents.index, represents.count, represents.value,
    represents.endValue, ?_⟩
  simp [ListMemory.vListInitialiseItem, ListStore.vListInitialiseItem, represents.container]

theorem call {fuel : Nat} (represents : memory.Represents store) (sound : store.Sound)
    {next : ListCall L I} (allowed : store.Allowed next)
    (enough : ∀ list, (store.items list).length < fuel) :
    ∃ after, memory.call fuel next = some after ∧ after.Represents (store.call next) := by
  cases next with
  | initialise list => exact ⟨_, rfl, represents.vListInitialise sound allowed⟩
  | initialiseItem item => exact ⟨_, rfl, represents.vListInitialiseItem item⟩
  | setValue item value => exact ⟨_, rfl, represents.setListItemValue item value⟩
  | insert list item => exact represents.vListInsert sound allowed list (enough list)
  | insertEnd list item => exact ⟨_, rfl, represents.vListInsertEnd sound allowed list⟩
  | remove item =>
      obtain ⟨list, held⟩ := Option.ne_none_iff_exists'.mp allowed
      exact represents.vListRemove sound held
  | ownerOfNextEntry list => exact ⟨_, rfl, represents.listGetOwnerOfNextEntry sound list⟩

theorem calls {fuel : Nat} (represents : memory.Represents store) (sound : store.Sound)
    {calls : List (ListCall L I)} (allowed : Along ListStore.call ListStore.Allowed store calls)
    (enough : ∀ list, (store.items list).length + calls.length < fuel) :
    ∃ after, memory.calls fuel calls = some after ∧
      after.Represents (calls.foldl ListStore.call store) := by
  induction calls generalizing memory store with
  | nil => exact ⟨memory, rfl, represents⟩
  | cons next rest ih =>
      obtain ⟨fits, later⟩ := allowed
      have room list : (store.items list).length + rest.length + 1 < fuel := enough list
      have fewer list : (store.items list).length < fuel := by
        have bound := room list
        omega
      obtain ⟨after, called, follows⟩ := represents.call sound fits fewer
      obtain ⟨final, ran, ends⟩ := ih follows (sound.call fits) later fun list => by
        have grown := store.length_call_le next list
        have bound := room list
        omega
      exact ⟨final, by rw [ListMemory.calls, List.foldlM_cons, called]; exact ran, ends⟩

end Represents

/-! The lists and the items are initialised, whatever was in their memory. -/

structure Fresh (memory : ListMemory L I) (list : L) : Prop where
  ring : Ring memory.links (.xListEnd list) []
  index : memory.pxIndex list = .xListEnd list
  count : memory.uxNumberOfItems list = 0
  endValue : memory.xItemValue (.xListEnd list) = portMaxDelay

theorem fresh_vListInitialise (memory : ListMemory L I) (list : L) :
    (memory.vListInitialise list).Fresh list :=
  ⟨ring_init .., Function.update_self .., Function.update_self .., Function.update_self ..⟩

theorem Fresh.vListInitialise {memory : ListMemory L I} {list : L} (fresh : memory.Fresh list)
    (other : L) : (memory.vListInitialise other).Fresh list := by
  by_cases same : list = other
  · rw [same]
    exact fresh_vListInitialise memory other
  · have marker : ListNode.xListEnd list ≠ (.xListEnd other : ListNode L I) :=
      fun ends => same (ListNode.xListEnd.inj ends)
    refine ⟨fresh.ring.init_other ?_, ?_, ?_, ?_⟩
    · simpa using marker.symm
    · exact (Function.update_of_ne same ..).trans fresh.index
    · exact (Function.update_of_ne same ..).trans fresh.count
    · exact (Function.update_of_ne marker ..).trans fresh.endValue

theorem calls_append (fuel : Nat) (memory : ListMemory L I) (first second : List (ListCall L I)) :
    memory.calls fuel (first ++ second) =
      (memory.calls fuel first).bind fun middle => middle.calls fuel second :=
  List.foldlM_append

theorem calls_cons (fuel : Nat) (memory : ListMemory L I) (next : ListCall L I)
    (rest : List (ListCall L I)) : memory.calls fuel (next :: rest) =
      (memory.call fuel next).bind fun after => after.calls fuel rest :=
  List.foldlM_cons ..

theorem calls_initialise (fuel : Nat) (memory : ListMemory L I) (lists : List L) :
    ∃ after, memory.calls fuel (lists.map .initialise) = some after ∧
      (∀ list, list ∈ lists ∨ memory.Fresh list → after.Fresh list) ∧
      ∀ item, after.xItemValue (.item item) = memory.xItemValue (.item item) := by
  induction lists generalizing memory with
  | nil => exact ⟨memory, rfl, fun list fresh => fresh.resolve_left List.not_mem_nil, fun _ => rfl⟩
  | cons head rest ih =>
      obtain ⟨after, ran, fresh, values⟩ := ih (memory.vListInitialise head)
      refine ⟨after, ?_, fun list known => fresh list ?_, fun item => ?_⟩
      · rw [List.map_cons, calls_cons]
        exact ran
      · rcases known with member | old
        · rcases List.mem_cons.mp member with rfl | later
          · exact .inr (fresh_vListInitialise memory list)
          · exact .inl later
        · exact .inr (old.vListInitialise head)
      · have apart : ListNode.item item ≠ (.xListEnd head : ListNode L I) := nofun
        rw [values]
        exact Function.update_of_ne apart portMaxDelay memory.xItemValue

theorem calls_initialiseItem (fuel : Nat) (memory : ListMemory L I) (items : List I) :
    ∃ after, memory.calls fuel (items.map .initialiseItem) = some after ∧
      (∀ list, memory.Fresh list → after.Fresh list) ∧
      after.xItemValue = memory.xItemValue ∧
      ∀ item, item ∈ items ∨ memory.pvContainer item = none → after.pvContainer item = none := by
  induction items generalizing memory with
  | nil => exact ⟨memory, rfl, fun _ => id, rfl, fun item => (·.resolve_left List.not_mem_nil)⟩
  | cons head rest ih =>
      obtain ⟨after, ran, fresh, values, free⟩ := ih (memory.vListInitialiseItem head)
      refine ⟨after, ?_, fun list old => fresh list ⟨old.ring, old.index, old.count, old.endValue⟩,
        values, fun item known => free item ?_⟩
      · rw [List.map_cons, calls_cons]
        exact ran
      · by_cases same : item = head
        · rw [same]
          exact .inr (Function.update_self ..)
        · rcases known with member | old
          · exact .inl ((List.mem_cons.mp member).resolve_left same)
          · exact .inr ((Function.update_of_ne same ..).trans old)

/-- From any memory on: once every list and every item has been initialised, and wherever items
are inserted only out of lists and removed only from lists, every ring of links is whole, and the
insertions end. -/
theorem calls_from_initialised (memory : ListMemory L I) {lists : List L} {items : List I}
    (allLists : ∀ list, list ∈ lists) (allItems : ∀ item, item ∈ items)
    (calls : List (ListCall L I))
    (allowed : Along ListStore.call ListStore.Allowed
      (.initialised fun item => memory.xItemValue (.item item)) calls)
    {fuel : Nat} (enough : calls.length < fuel) :
    ∃ after, memory.calls fuel (initialiseAll lists items ++ calls) = some after ∧
      after.Represents (calls.foldl ListStore.call
        (.initialised fun item => memory.xItemValue (.item item))) := by
  obtain ⟨listed, first, fresh, values⟩ := calls_initialise fuel memory lists
  obtain ⟨started, second, stays, same, free⟩ := calls_initialiseItem fuel listed items
  have ready (list : L) := stays list (fresh list (.inl (allLists list)))
  have represents : started.Represents
      (.initialised fun item => memory.xItemValue (.item item)) :=
    ⟨fun list => (ready list).ring, fun list => (ready list).index, fun list => (ready list).count,
      fun item => (congrFun same _).trans (values item), fun list => (ready list).endValue,
      funext fun item => free item (.inl (allItems item))⟩
  obtain ⟨after, ran, ends⟩ := represents.calls (ListStore.sound_initialised _) allowed
    fun list => by simpa [ListStore.items, ListStore.initialised, KernelList.empty] using enough
  refine ⟨after, ?_, ends⟩
  rw [calls_append, initialiseAll, calls_append, first, Option.bind_some, second, Option.bind_some,
    ran]

def sampleCalls : List (ListCall Bool (Fin 3)) :=
  [.setValue 0 5, .insert true 0, .insertEnd true 1, .ownerOfNextEntry true, .remove 0,
    .insert true 0, .insert false 2, .remove 2]

def blankLists : ListMemory Bool (Fin 3) :=
  ⟨⟨fun _ => .xListEnd false, fun _ => .xListEnd false⟩, fun _ => 0, fun _ => some true,
    fun _ => .item 0, fun _ => 0⟩

theorem calls_from_initialised_sample :
    ∃ after, blankLists.calls 9 (initialiseAll [true, false] [0, 1, 2] ++ sampleCalls) =
        some after ∧ after.links.next (.xListEnd true) = .item 1 ∧
      after.links.next (.item 1) = .item 0 ∧ after.links.next (.item 0) = .xListEnd true := by
  have allLists : ∀ list, list ∈ [true, false] := by decide
  have allItems : ∀ item, item ∈ ([0, 1, 2] : List (Fin 3)) := by decide
  have allowed : Along ListStore.call ListStore.Allowed
      (.initialised fun item => blankLists.xItemValue (.item item)) sampleCalls :=
    ⟨trivial, rfl, rfl, trivial, nofun, rfl, rfl, nofun, trivial⟩
  obtain ⟨after, ran, represents⟩ :=
    calls_from_initialised blankLists allLists allItems sampleCalls allowed (by decide : 8 < 9)
  have none : (sampleCalls.foldl ListStore.call
    (.initialised fun item => blankLists.xItemValue (.item item))).items true = [] ++ [1, 0] := rfl
  have one : (sampleCalls.foldl ListStore.call
    (.initialised fun item => blankLists.xItemValue (.item item))).items true = [1] ++ [0] := rfl
  have both : (sampleCalls.foldl ListStore.call
    (.initialised fun item => blankLists.xItemValue (.item item))).items true = [1, 0] ++ [] := rfl
  exact ⟨after, ran, represents.next_lastOf none, represents.next_lastOf one,
    represents.next_lastOf both⟩

end ListMemory

end SmartMeter
