import Mathlib.Algebra.Group.Nat.Defs
import Mathlib.Data.List.Sort
import SmartMeter.Library.Buffer
import SmartMeter.Library.Tiles
import SmartMeter.Params.ParamLayout

/-!
`heap_2.c`, from which the kernel takes its memory, and the heap that its users see: an interval cut
into blocks.
-/

namespace SmartMeter

open Tiles

def configTotalHeapSize : Nat := 12 * 1024

def portByteAlignment : UInt32 := 8

def portByteAlignmentMask : UInt32 := 7

def heapStructSize : Nat := 16

def heapMinimumBlockSize : Nat := heapStructSize * 2

structure HeapLayout where
  ucHeap : Nat
  xStart : Nat
  xEnd : Nat
  aligned : ucHeap % 8 = 0
  placed : 0 < ucHeap
  fits : ucHeap + configTotalHeapSize ≤ 2 ^ 32
  endPlaced : 0 < xEnd
  endFits : xEnd < 2 ^ 32
  startApart : xStart + 8 ≤ ucHeap ∨ ucHeap + configTotalHeapSize ≤ xStart
  endApart : xEnd + 8 ≤ ucHeap ∨ ucHeap + configTotalHeapSize ≤ xEnd
  linksApart : xStart + 8 ≤ xEnd ∨ xEnd + 8 ≤ xStart

structure Heap where
  memory : Nat → UInt8
  xHeapHasBeenInitialised : Bool
  xFreeBytesRemaining : UInt32

inductive HeapEvent
  | pvPortMalloc (xWantedSize : UInt32)
  | vPortFree (pv : Nat)
  | store (address : Nat) (value : UInt8)

/-- What `pvPortMalloc` looks for. -/
def blockSizeFor (xWantedSize : UInt32) : UInt32 :=
  if 0 < xWantedSize then
    let xWantedSize := xWantedSize + UInt32.ofNat heapStructSize
    if xWantedSize &&& portByteAlignmentMask ≠ 0 then
      xWantedSize + (portByteAlignment - (xWantedSize &&& portByteAlignmentMask))
    else xWantedSize
  else xWantedSize

namespace Heap

variable (heap : Heap)

def pxNextFreeBlock (block : Nat) : Nat := wordAt heap.memory block 4

def xBlockSize (block : Nat) : Nat := wordAt heap.memory (block + 4) 4

def setWord (address value : Nat) : Heap :=
  { heap with memory := Buffer.copy heap.memory address (byteOf value) 4 }

def setNextFreeBlock (block next : Nat) : Heap := heap.setWord block next

def setBlockSize (block size : Nat) : Heap := heap.setWord (block + 4) size

def iterate (xBlockSize : Nat) : Nat → Nat → Option Nat
  | 0, _ => none
  | rounds + 1, pxIterator =>
      if heap.xBlockSize (heap.pxNextFreeBlock pxIterator) < xBlockSize then
        iterate xBlockSize rounds (heap.pxNextFreeBlock pxIterator)
      else some pxIterator

def prvInsertBlockIntoFreeList (layout : HeapLayout) (rounds pxBlockToInsert : Nat) : Option Heap :=
  (heap.iterate (heap.xBlockSize pxBlockToInsert) rounds layout.xStart).map fun pxIterator =>
    (heap.setNextFreeBlock pxBlockToInsert (heap.pxNextFreeBlock pxIterator)).setNextFreeBlock
      pxIterator pxBlockToInsert

def prvHeapInit (layout : HeapLayout) : Heap :=
  let heap := heap.setNextFreeBlock layout.xStart layout.ucHeap
  let heap := heap.setBlockSize layout.xStart 0
  let heap := heap.setBlockSize layout.xEnd configTotalHeapSize
  let heap := heap.setNextFreeBlock layout.xEnd 0
  let heap := heap.setBlockSize layout.ucHeap configTotalHeapSize
  heap.setNextFreeBlock layout.ucHeap layout.xEnd

/-- The search of `pvPortMalloc`, with `pxPreviousBlock` and `pxBlock`. -/
def findBlock (xWantedSize : Nat) : Nat → Nat → Nat → Option (Nat × Nat)
  | 0, _, _ => none
  | rounds + 1, pxPreviousBlock, pxBlock =>
      if heap.xBlockSize pxBlock < xWantedSize ∧ heap.pxNextFreeBlock pxBlock ≠ 0 then
        findBlock xWantedSize rounds pxBlock (heap.pxNextFreeBlock pxBlock)
      else some (pxPreviousBlock, pxBlock)

/-- The rest of a block that is larger than it has to be becomes a free block. -/
def splitBlock (layout : HeapLayout) (rounds pxBlock xWantedSize : Nat) : Option Heap :=
  if heap.xBlockSize pxBlock - xWantedSize > heapMinimumBlockSize then
    let pxNewBlockLink := pxBlock + xWantedSize
    let heap := heap.setBlockSize pxNewBlockLink (heap.xBlockSize pxBlock - xWantedSize)
    let heap := heap.setBlockSize pxBlock xWantedSize
    heap.prvInsertBlockIntoFreeList layout rounds pxNewBlockLink
  else some heap

def takeBlock (layout : HeapLayout) (rounds xWantedSize pxPreviousBlock pxBlock : Nat) :
    Option (Nat × Heap) :=
  let pvReturn := heap.pxNextFreeBlock pxPreviousBlock + heapStructSize
  let heap := heap.setNextFreeBlock pxPreviousBlock (heap.pxNextFreeBlock pxBlock)
  (heap.splitBlock layout rounds pxBlock xWantedSize).map fun heap =>
    (pvReturn, { heap with
      xFreeBytesRemaining :=
        heap.xFreeBytesRemaining - UInt32.ofNat (heap.xBlockSize pxBlock) })

def initialised (layout : HeapLayout) : Heap :=
  if heap.xHeapHasBeenInitialised then heap
  else { heap.prvHeapInit layout with xHeapHasBeenInitialised := true }

/-- The scheduler is suspended during the call. `none` if the rounds do not suffice for a loop, and
0 is the null pointer. -/
def pvPortMalloc (layout : HeapLayout) (rounds : Nat) (xWantedSize : UInt32) :
    Option (Nat × Heap) :=
  let heap := heap.initialised layout
  let xWantedSize := (blockSizeFor xWantedSize).toNat
  if 0 < xWantedSize ∧ xWantedSize < configTotalHeapSize then
    match heap.findBlock xWantedSize rounds layout.xStart
        (heap.pxNextFreeBlock layout.xStart) with
    | none => none
    | some (pxPreviousBlock, pxBlock) =>
        if pxBlock ≠ layout.xEnd then
          heap.takeBlock layout rounds xWantedSize pxPreviousBlock pxBlock
        else some (0, heap)
  else some (0, heap)

def vPortFree (layout : HeapLayout) (rounds pv : Nat) : Option Heap :=
  if pv ≠ 0 then
    let pxLink := pv - heapStructSize
    (heap.prvInsertBlockIntoFreeList layout rounds pxLink).map fun heap =>
      { heap with
        xFreeBytesRemaining := heap.xFreeBytesRemaining + UInt32.ofNat (heap.xBlockSize pxLink) }
  else some heap

def step (layout : HeapLayout) (rounds : Nat) : HeapEvent → Option (Nat × Heap)
  | .pvPortMalloc xWantedSize => heap.pvPortMalloc layout rounds xWantedSize
  | .vPortFree pv => (heap.vPortFree layout rounds pv).map fun heap => (0, heap)
  | .store address value =>
      some (0, { heap with memory := Function.update heap.memory address value })

def run (layout : HeapLayout) (rounds : Nat) : Heap → List HeapEvent → Option (List Nat × Heap)
  | heap, [] => some ([], heap)
  | heap, event :: rest => do
      let (pointer, next) ← heap.step layout rounds event
      let (pointers, last) ← run layout rounds next rest
      return (pointer :: pointers, last)

def boot (memory : Nat → UInt8) : Heap :=
  { memory
    xHeapHasBeenInitialised := false
    xFreeBytesRemaining := UInt32.ofNat configTotalHeapSize }

end Heap

/-- All blocks in the order of their addresses, the free ones in the order of their sizes, and the
bytes that tasks have stored and may expect to find again. -/
structure BlockHeap where
  blocks : List Piece
  free : List Piece
  contents : Nat → Option UInt8

namespace BlockHeap

variable (heap : BlockHeap)

def Smaller (first second : Piece) : Prop := first.size ≤ second.size

instance : DecidableRel Smaller := fun first second => Nat.decLe first.size second.size

def boot (layout : HeapLayout) : BlockHeap where
  blocks := [⟨layout.ucHeap, configTotalHeapSize⟩]
  free := [⟨layout.ucHeap, configTotalHeapSize⟩]
  contents := fun _ => none

def Allocated (block : Piece) : Prop := block ∈ heap.blocks ∧ block ∉ heap.free

/-- The address is one that the user of the block may write to. -/
def InPayload (address : Nat) (block : Piece) : Prop :=
  block.start + heapStructSize ≤ address ∧ address < block.start + block.size

def Outside (layout : HeapLayout) (address : Nat) : Prop :=
  (address < layout.ucHeap ∨ layout.ucHeap + configTotalHeapSize ≤ address) ∧
    (address < layout.xStart ∨ layout.xStart + 8 ≤ address) ∧
      (address < layout.xEnd ∨ layout.xEnd + 8 ≤ address)

instance (address : Nat) (block : Piece) : Decidable (InPayload address block) := instDecidableAnd

instance (layout : HeapLayout) (address : Nat) : Decidable (Outside layout address) :=
  instDecidableAnd

def forget (block : Piece) (address : Nat) : Option UInt8 :=
  if InPayload address block then none else heap.contents address

def parts (block : Piece) (size : Nat) : List Piece :=
  if block.size - size > heapMinimumBlockSize then
    [⟨block.start, size⟩, ⟨block.start + size, block.size - size⟩]
  else [block]

def take (block : Piece) (size : Nat) : BlockHeap where
  blocks := divide heap.blocks block (parts block size)
  free := (parts block size).tail.foldr (List.orderedInsert Smaller) (heap.free.erase block)
  contents := heap.forget block

def malloc (xWantedSize : UInt32) : Nat × BlockHeap :=
  let size := (blockSizeFor xWantedSize).toNat
  if 0 < size ∧ size < configTotalHeapSize then
    match heap.free.find? fun block => size ≤ block.size with
    | some block => (block.start + heapStructSize, heap.take block size)
    | none => (0, heap)
  else (0, heap)

def release (pv : Nat) : BlockHeap :=
  match heap.blocks.find? fun block => block.start + heapStructSize = pv with
  | some block =>
      { heap with
        free := heap.free.orderedInsert Smaller block
        contents := heap.forget block }
  | none => heap

def step : HeapEvent → Nat × BlockHeap
  | .pvPortMalloc xWantedSize => heap.malloc xWantedSize
  | .vPortFree pv => (0, heap.release pv)
  | .store address value =>
      (0, { heap with contents := Function.update heap.contents address (some value) })

/-- What the callers may do: free a block that is theirs, or nothing, and store in a block that is
theirs, or in memory that has nothing to do with the heap. -/
def Allowed (layout : HeapLayout) : HeapEvent → Prop
  | .pvPortMalloc _ => True
  | .vPortFree pv => pv = 0 ∨ ∃ block ∈ heap.blocks,
      block ∉ heap.free ∧ block.start + heapStructSize = pv
  | .store address _ => Outside layout address ∨ ∃ block ∈ heap.blocks,
      block ∉ heap.free ∧ InPayload address block

def next (event : HeapEvent) : BlockHeap := (heap.step event).2

def pointers : BlockHeap → List HeapEvent → List Nat
  | _, [] => []
  | heap, event :: rest => (heap.step event).1 :: pointers (heap.next event) rest

end BlockHeap

end SmartMeter
