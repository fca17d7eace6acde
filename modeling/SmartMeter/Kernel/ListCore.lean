import SmartMeter.Library.LinkRing
import SmartMeter.Library.Runs

/-!
`list.c`: the lists of the kernel in memory, and what they are to its other files, lists of items
with a place up to which one of them has been walked through.
-/

namespace SmartMeter

open LinkRing

def portMaxDelay : UInt32 := 0xFFFFFFFF

theorem le_portMaxDelay (value : UInt32) : value ≤ portMaxDelay := by
  have bound := value.toNat_lt
  rw [UInt32.le_iff_toNat_le]
  change value.toNat ≤ 4294967295
  omega

/-- `xListItem`, or the `xListEnd` of a list. -/
inductive ListNode (L I : Type)
  | xListEnd (list : L)
  | item (item : I)
deriving DecidableEq

/-- `pxNext` and `pxPrevious` are the links. -/
structure ListMemory (L I : Type) where
  links : Links (ListNode L I)
  xItemValue : ListNode L I → UInt32
  pvContainer : I → Option L
  pxIndex : L → ListNode L I
  uxNumberOfItems : L → UInt32

inductive ListCall (L I : Type)
  | initialise (list : L)
  | initialiseItem (item : I)
  | setValue (item : I) (value : UInt32)
  | insert (list : L) (item : I)
  | insertEnd (list : L) (item : I)
  | remove (item : I)
  | ownerOfNextEntry (list : L)

variable {L I : Type} [DecidableEq L] [DecidableEq I]

def initialiseAll (lists : List L) (items : List I) : List (ListCall L I) :=
  lists.map .initialise ++ items.map .initialiseItem

namespace ListMemory

def vListInitialise (list : L) (memory : ListMemory L I) : ListMemory L I :=
  { memory with
    pxIndex := Function.update memory.pxIndex list (.xListEnd list)
    xItemValue := Function.update memory.xItemValue (.xListEnd list) portMaxDelay
    links := memory.links.init (.xListEnd list)
    uxNumberOfItems := Function.update memory.uxNumberOfItems list 0 }

def vListInitialiseItem (item : I) (memory : ListMemory L I) : ListMemory L I :=
  { memory with pvContainer := Function.update memory.pvContainer item none }

def setListItemValue (item : I) (value : UInt32) (memory : ListMemory L I) : ListMemory L I :=
  { memory with xItemValue := Function.update memory.xItemValue (.item item) value }

def contain (list : L) (item : I) (memory : ListMemory L I) : ListMemory L I :=
  { memory with
    pvContainer := Function.update memory.pvContainer item (some list)
    uxNumberOfItems :=
      Function.update memory.uxNumberOfItems list (memory.uxNumberOfItems list + 1) }

def vListInsertEnd (list : L) (item : I) (memory : ListMemory L I) : ListMemory L I :=
  contain list item { memory with
    links := memory.links.insertAfter (memory.pxIndex list) (.item item)
    pxIndex := Function.update memory.pxIndex list (.item item) }

def iterate (memory : ListMemory L I) (xValueOfInsertion : UInt32) :
    Nat → ListNode L I → Option (ListNode L I)
  | 0, _ => none
  | fuel + 1, pxIterator =>
      if memory.xItemValue (memory.links.next pxIterator) ≤ xValueOfInsertion then
        iterate memory xValueOfInsertion fuel (memory.links.next pxIterator)
      else some pxIterator

/-- The same four stores as at the end of a list, in another order. -/
def insertBehind (pxIterator node : ListNode L I) (links : Links (ListNode L I)) :
    Links (ListNode L I) :=
  let ahead := links.setNext node (links.next pxIterator)
  let back := ahead.setPrev (ahead.next node) node
  (back.setPrev node pxIterator).setNext pxIterator node

def vListInsert (fuel : Nat) (list : L) (item : I) (memory : ListMemory L I) :
    Option (ListMemory L I) :=
  let xValueOfInsertion := memory.xItemValue (.item item)
  let pxIterator :=
    if xValueOfInsertion = portMaxDelay then some (memory.links.prev (.xListEnd list))
    else memory.iterate xValueOfInsertion fuel (.xListEnd list)
  pxIterator.map fun pxIterator =>
    contain list item { memory with links := insertBehind pxIterator (.item item) memory.links }

/-- An item in no list has no container to be taken out of. -/
def vListRemove (item : I) (memory : ListMemory L I) : Option (ListMemory L I) :=
  let links := memory.links.unlink (.item item)
  (memory.pvContainer item).map fun pxList =>
    { memory with
      links := links
      pxIndex :=
        if memory.pxIndex pxList = .item item then
          Function.update memory.pxIndex pxList (links.prev (.item item))
        else memory.pxIndex
      pvContainer := Function.update memory.pvContainer item none
      uxNumberOfItems :=
        Function.update memory.uxNumberOfItems pxList (memory.uxNumberOfItems pxList - 1) }

/-- `listGET_OWNER_OF_NEXT_ENTRY`, which gives the owner of the new `pxIndex`. -/
def listGetOwnerOfNextEntry (pxConstList : L) (memory : ListMemory L I) : ListMemory L I :=
  let pxIndex := memory.links.next (memory.pxIndex pxConstList)
  { memory with
    pxIndex := Function.update memory.pxIndex pxConstList
      (if pxIndex = .xListEnd pxConstList then memory.links.next pxIndex else pxIndex) }

def call (fuel : Nat) (memory : ListMemory L I) : ListCall L I → Option (ListMemory L I)
  | .initialise list => some (memory.vListInitialise list)
  | .initialiseItem item => some (memory.vListInitialiseItem item)
  | .setValue item value => some (memory.setListItemValue item value)
  | .insert list item => memory.vListInsert fuel list item
  | .insertEnd list item => some (memory.vListInsertEnd list item)
  | .remove item => memory.vListRemove item
  | .ownerOfNextEntry list => some (memory.listGetOwnerOfNextEntry list)

def calls (fuel : Nat) (memory : ListMemory L I) (calls : List (ListCall L I)) :
    Option (ListMemory L I) :=
  calls.foldlM (call fuel) memory

end ListMemory

/-- `index` is the item that was given last, `none` for the end of the list. -/
structure KernelList (I : Type) where
  items : List I
  index : Option I
deriving DecidableEq

namespace KernelList

def empty : KernelList I := ⟨[], none⟩

/-- An item is put behind another one. -/
def behind (index item : I) : List I → List I
  | [] => [item]
  | head :: rest => if head = index then head :: item :: rest else head :: behind index item rest

def insertEnd (item : I) (list : KernelList I) : KernelList I where
  items := match list.index with
    | none => item :: list.items
    | some index => behind index item list.items
  index := some item

/-- In front of the first item of a greater value. -/
def insert (value : I → UInt32) (item : I) (list : KernelList I) : KernelList I :=
  { list with
    items := list.items.takeWhile (value · ≤ value item) ++
      item :: list.items.dropWhile (value · ≤ value item) }

def remove (item : I) (list : KernelList I) : KernelList I where
  items := list.items.erase item
  index := if list.index = some item then (list.items.takeWhile (· ≠ item)).getLast?
    else list.index

def next (list : KernelList I) : Option I :=
  match list.index with
  | none => list.items.head?
  | some index => ((list.items.dropWhile (· ≠ index)).tail.head?).or list.items.head?

end KernelList

structure ListStore (L I : Type) where
  list : L → KernelList I
  xItemValue : I → UInt32
  pvContainer : I → Option L

namespace ListStore

def items (store : ListStore L I) (list : L) : List I := (store.list list).items

def vListInitialise (list : L) (store : ListStore L I) : ListStore L I :=
  { store with list := Function.update store.list list .empty }

def vListInitialiseItem (item : I) (store : ListStore L I) : ListStore L I :=
  { store with pvContainer := Function.update store.pvContainer item none }

def setListItemValue (item : I) (value : UInt32) (store : ListStore L I) : ListStore L I :=
  { store with xItemValue := Function.update store.xItemValue item value }

def vListInsertEnd (list : L) (item : I) (store : ListStore L I) : ListStore L I :=
  { store with
    list := Function.update store.list list ((store.list list).insertEnd item)
    pvContainer := Function.update store.pvContainer item (some list) }

def vListInsert (list : L) (item : I) (store : ListStore L I) : ListStore L I :=
  { store with
    list := Function.update store.list list ((store.list list).insert store.xItemValue item)
    pvContainer := Function.update store.pvContainer item (some list) }

def vListRemove (item : I) (store : ListStore L I) : ListStore L I :=
  match store.pvContainer item with
  | none => store
  | some pxList =>
      { store with
        list := Function.update store.list pxList ((store.list pxList).remove item)
        pvContainer := Function.update store.pvContainer item none }

def listGetOwnerOfNextEntry (pxConstList : L) (store : ListStore L I) : ListStore L I :=
  { store with
    list := Function.update store.list pxConstList
      { store.list pxConstList with index := (store.list pxConstList).next } }

def call (store : ListStore L I) : ListCall L I → ListStore L I
  | .initialise list => store.vListInitialise list
  | .initialiseItem item => store.vListInitialiseItem item
  | .setValue item value => store.setListItemValue item value
  | .insert list item => store.vListInsert list item
  | .insertEnd list item => store.vListInsertEnd list item
  | .remove item => store.vListRemove item
  | .ownerOfNextEntry list => store.listGetOwnerOfNextEntry list

/-- A list is initialised when it is empty. An item is inserted or initialised when it is in no list
and removed when it is in one. -/
def Allowed (store : ListStore L I) : ListCall L I → Prop
  | .initialise list => store.items list = []
  | .initialiseItem item => store.pvContainer item = none
  | .insert _ item | .insertEnd _ item => store.pvContainer item = none
  | .remove item => store.pvContainer item ≠ none
  | _ => True

def initialised (xItemValue : I → UInt32) : ListStore L I :=
  ⟨fun _ => .empty, xItemValue, fun _ => none⟩

def boot : ListStore L I := initialised fun _ => portMaxDelay

omit [DecidableEq L] [DecidableEq I] in
@[simp]
theorem boot_pvContainer (item : I) : (boot : ListStore L I).pvContainer item = none := rfl

/-- Items are in one list at most, which is their container. -/
structure Sound (store : ListStore L I) : Prop where
  distinct : ∀ list, (store.items list).Nodup
  container : ∀ list item, item ∈ store.items list ↔ store.pvContainer item = some list
  index : ∀ list item, (store.list list).index = some item → item ∈ store.items list

end ListStore

end SmartMeter
