import SmartMeter.Library.LinkChain
import SmartMeter.Kernel.HeapCore

/-!
The links that `heap_2.c` keeps in front of its blocks: what the stores into them change, and that
the free blocks stay in a chain in the order of their sizes.
-/

namespace SmartMeter

open Tiles LinkChain BlockHeap

theorem wordAt_lt (bytes : Nat → UInt8) (offset : Nat) : wordAt bytes offset 4 < 2 ^ 32 := by
  rw [wordAt_four]
  have first := (bytes offset).toNat_lt
  have second := (bytes (offset + 1)).toNat_lt
  have third := (bytes (offset + 2)).toNat_lt
  have fourth := (bytes (offset + 3)).toNat_lt
  omega

namespace Heap

variable {heap after : Heap} {layout : HeapLayout} {blocks free front back : List Piece}
  {block : Piece} {address link other value : Nat}

theorem word_setWord (bound : value < 2 ^ 32) :
    wordAt (heap.setWord address value).memory address 4 = value := by
  have bytes (index : Nat) (inside : index < 4) :
      (heap.setWord address value).memory (address + index) = byteOf value index :=
    Buffer.copy_inside _ _ inside
  have first := bytes 0 (by omega)
  rw [Nat.add_zero] at first
  rw [wordAt_four, first, bytes 1 (by omega), bytes 2 (by omega), bytes 3 (by omega)]
  simp only [byteOf_toNat]
  omega

theorem word_setWord_apart (apart : address + 4 ≤ other ∨ other + 4 ≤ address) :
    wordAt (heap.setWord address value).memory other 4 = wordAt heap.memory other 4 :=
  wordAt_congr fun _ _ => Buffer.copy_outside _ _ (by omega)

def Apart (link other : Nat) : Prop := link + 8 ≤ other ∨ other + 8 ≤ link

theorem next_setNext (bound : value < 2 ^ 32) :
    (heap.setNextFreeBlock link value).pxNextFreeBlock link = value :=
  word_setWord bound

theorem next_setNext_apart (apart : Apart link other) :
    (heap.setNextFreeBlock link value).pxNextFreeBlock other = heap.pxNextFreeBlock other :=
  word_setWord_apart (by unfold Apart at apart; omega)

theorem size_setNext (apart : link = other ∨ Apart link other) :
    (heap.setNextFreeBlock link value).xBlockSize other = heap.xBlockSize other :=
  word_setWord_apart (by unfold Apart at apart; omega)

theorem size_setSize (bound : value < 2 ^ 32) :
    (heap.setBlockSize link value).xBlockSize link = value :=
  word_setWord bound

theorem size_setSize_apart (apart : Apart link other) :
    (heap.setBlockSize link value).xBlockSize other = heap.xBlockSize other :=
  word_setWord_apart (by unfold Apart at apart; omega)

theorem next_setSize (apart : link = other ∨ Apart link other) :
    (heap.setBlockSize link value).pxNextFreeBlock other = heap.pxNextFreeBlock other :=
  word_setWord_apart (by unfold Apart at apart; omega)

def links (layout : HeapLayout) (blocks : List Piece) : List Nat :=
  layout.xStart :: layout.xEnd :: blocks.map Piece.start

structure Cut (layout : HeapLayout) (blocks : List Piece) : Prop where
  covers : Covers layout.ucHeap blocks (layout.ucHeap + configTotalHeapSize)
  sizes : ∀ block ∈ blocks, 8 ≤ block.size ∧ block.size % 8 = 0

theorem Cut.bounds (cut : Cut layout blocks) (member : block ∈ blocks) :
    layout.ucHeap ≤ block.start ∧ block.start + 8 ≤ layout.ucHeap + configTotalHeapSize := by
  have inside := cut.covers.bounds member
  have large := (cut.sizes block member).1
  omega

theorem Cut.start_inj (cut : Cut layout blocks) {second : Piece} (member : block ∈ blocks)
    (member' : second ∈ blocks) (same : block.start = second.start) : block = second := by
  by_contra different
  have large := (cut.sizes block member).1
  have large' := (cut.sizes second member').1
  have apart := cut.covers.apart member member' different
  omega

theorem Cut.apart_blocks (cut : Cut layout blocks) {second : Piece} (member : block ∈ blocks)
    (member' : second ∈ blocks) (different : block ≠ second) :
    Apart block.start second.start := by
  have large := (cut.sizes block member).1
  have large' := (cut.sizes second member').1
  have apart := cut.covers.apart member member' different
  unfold Apart
  omega

theorem Cut.apart_start (cut : Cut layout blocks) (member : block ∈ blocks) :
    Apart layout.xStart block.start := by
  have inside := cut.bounds member
  have apart := layout.startApart
  unfold Apart
  omega

theorem Cut.apart_end (cut : Cut layout blocks) (member : block ∈ blocks) :
    Apart layout.xEnd block.start := by
  have inside := cut.bounds member
  have apart := layout.endApart
  unfold Apart
  omega

theorem Apart.symm (apart : Apart link other) : Apart other link := Or.symm apart

theorem Apart.ne (apart : Apart link other) : link ≠ other := by
  unfold Apart at apart
  omega

theorem Cut.apart (cut : Cut layout blocks) (member : link ∈ links layout blocks)
    (member' : other ∈ links layout blocks) : link = other ∨ Apart link other := by
  simp only [links, List.mem_cons, List.mem_map] at member member'
  rcases member with rfl | rfl | ⟨block, held, rfl⟩ <;>
    rcases member' with rfl | rfl | ⟨second, held', rfl⟩
  · exact .inl rfl
  · exact .inr layout.linksApart
  · exact .inr (cut.apart_start held')
  · exact .inr layout.linksApart.symm
  · exact .inl rfl
  · exact .inr (cut.apart_end held')
  · exact .inr (cut.apart_start held).symm
  · exact .inr (cut.apart_end held).symm
  · by_cases same : block = second
    · exact .inl (congrArg Piece.start same)
    · exact .inr (cut.apart_blocks held held' same)

theorem Cut.nodup_links (cut : Cut layout blocks) (inside : ∀ block ∈ free, block ∈ blocks)
    (distinct : free.Nodup) : (layout.xStart :: free.map Piece.start).Nodup := by
  refine List.nodup_cons.mpr ⟨fun member => ?_, ?_⟩
  · obtain ⟨block, held, same⟩ := List.mem_map.mp member
    exact (cut.apart_start (inside block held)).ne same.symm
  · exact distinct.map_on fun first held second held' =>
      cut.start_inj (inside first held) (inside second held')

theorem Cut.length_le (cut : Cut layout blocks) : blocks.length * 8 ≤ configTotalHeapSize := by
  have bound := cut.covers.length_mul_le fun block member => (cut.sizes block member).1
  omega

structure Relinked (layout : HeapLayout) (blocks : List Piece) (heap after : Heap) : Prop where
  memory : ∀ address, (∀ link ∈ links layout blocks, address < link ∨ link + 8 ≤ address) →
    after.memory address = heap.memory address
  initialised : after.xHeapHasBeenInitialised = heap.xHeapHasBeenInitialised
  remaining : after.xFreeBytesRemaining = heap.xFreeBytesRemaining

theorem relinked_refl : Relinked layout blocks heap heap := ⟨fun _ _ => rfl, rfl, rfl⟩

theorem Relinked.setWord (relinked : Relinked layout blocks heap after)
    (member : link ∈ links layout blocks) (low : link ≤ address) (high : address ≤ link + 4) :
    Relinked layout blocks heap (after.setWord address value) where
  memory place apart := by
    rw [← relinked.memory place apart]
    have outside := apart link member
    exact Buffer.copy_outside _ _ (by omega)
  initialised := relinked.initialised
  remaining := relinked.remaining

theorem Relinked.setNext (relinked : Relinked layout blocks heap after)
    (member : link ∈ links layout blocks) :
    Relinked layout blocks heap (after.setNextFreeBlock link value) :=
  relinked.setWord member (Nat.le_refl _) (Nat.le_add_right _ _)

theorem Relinked.setSize (relinked : Relinked layout blocks heap after)
    (member : link ∈ links layout blocks) :
    Relinked layout blocks heap (after.setBlockSize link value) :=
  relinked.setWord member (Nat.le_add_right _ _) (Nat.le_refl _)

theorem Relinked.trans {last : Heap} (first : Relinked layout blocks heap after)
    (second : Relinked layout blocks after last) : Relinked layout blocks heap last where
  memory address apart := (second.memory address apart).trans (first.memory address apart)
  initialised := second.initialised.trans first.initialised
  remaining := second.remaining.trans first.remaining

structure Linked (layout : HeapLayout) (heap : Heap) (blocks free : List Piece) : Prop where
  sizes : ∀ block ∈ blocks, heap.xBlockSize block.start = block.size
  endSize : heap.xBlockSize layout.xEnd = configTotalHeapSize
  endNext : heap.pxNextFreeBlock layout.xEnd = 0
  chain : Chain heap.pxNextFreeBlock layout.xStart (free.map Piece.start) layout.xEnd

theorem Linked.of_memory (linked : Linked layout heap blocks free)
    (same : after.memory = heap.memory) : Linked layout after blocks free := by
  have next : after.pxNextFreeBlock = heap.pxNextFreeBlock := by
    funext link
    rw [pxNextFreeBlock, same, pxNextFreeBlock]
  have size : after.xBlockSize = heap.xBlockSize := by
    funext link
    rw [xBlockSize, same, xBlockSize]
  refine ⟨?_, ?_, ?_, ?_⟩
  · rw [size]
    exact linked.sizes
  · rw [size]
    exact linked.endSize
  · rw [next]
    exact linked.endNext
  · rw [next]
    exact linked.chain

structure Listed (blocks free : List Piece) : Prop where
  inside : ∀ block ∈ free, block ∈ blocks
  distinct : free.Nodup

theorem mem_links_block (member : block ∈ blocks) : block.start ∈ links layout blocks := by
  simp only [links, List.mem_cons, List.mem_map]
  exact .inr (.inr ⟨block, member, rfl⟩)

theorem mem_links_start : layout.xStart ∈ links layout blocks := List.mem_cons_self

theorem mem_links_end : layout.xEnd ∈ links layout blocks := by simp [links]

theorem Listed.mem_links (listed : Listed blocks free)
    (member : link ∈ layout.xStart :: free.map Piece.start) : link ∈ links layout blocks := by
  rcases List.mem_cons.mp member with rfl | held
  · exact mem_links_start
  · obtain ⟨block, chained, rfl⟩ := List.mem_map.mp held
    exact mem_links_block (listed.inside block chained)

def lastLink (layout : HeapLayout) (front : List Piece) : Nat :=
  (front.map Piece.start).getLastD layout.xStart

theorem lastLink_mem (layout : HeapLayout) (front : List Piece) :
    lastLink layout front ∈ layout.xStart :: front.map Piece.start :=
  LinkRing.getLastD_mem _ _

theorem Listed.lastLink (listed : Listed blocks (front ++ back)) :
    lastLink layout front ∈ links layout blocks :=
  listed.mem_links (by
    rw [List.map_append, ← List.cons_append]
    exact List.mem_append_left _ (lastLink_mem layout front))

theorem Cut.lastLink_apart_end (cut : Cut layout blocks) (listed : Listed blocks (front ++ back)) :
    Apart (Heap.lastLink layout front) layout.xEnd := by
  rcases List.mem_cons.mp (lastLink_mem layout front) with here | held
  · rw [here]
    exact layout.linksApart
  · obtain ⟨block, held, same⟩ := List.mem_map.mp held
    rw [← same]
    exact (cut.apart_end (listed.inside block (List.mem_append_left _ held))).symm

/-- A new link leaves the sizes and the end of the chain alone. -/
theorem Linked.setNext (linked : Linked layout heap blocks free) (cut : Cut layout blocks)
    (member : link ∈ links layout blocks) (apart : Apart link layout.xEnd)
    {chained : List Piece}
    (chain : Chain (heap.setNextFreeBlock link value).pxNextFreeBlock layout.xStart
      (chained.map Piece.start) layout.xEnd) :
    Linked layout (heap.setNextFreeBlock link value) blocks chained where
  sizes block held := by
    rw [size_setNext (cut.apart member (mem_links_block held)), linked.sizes block held]
  endSize := by rw [size_setNext (cut.apart member mem_links_end), linked.endSize]
  endNext := by rw [next_setNext_apart apart, linked.endNext]
  chain := chain

theorem next_setNext_other (cut : Cut layout blocks) (member : link ∈ links layout blocks)
    (member' : other ∈ links layout blocks) (different : other ≠ link) :
    (heap.setNextFreeBlock link value).pxNextFreeBlock other = heap.pxNextFreeBlock other := by
  refine next_setNext_apart ((cut.apart member member').resolve_left fun same => ?_)
  exact different same.symm

theorem sublist_around (front back : List Piece) (block : Piece) :
    (front ++ back).Sublist (front ++ block :: back) :=
  List.Sublist.append_left (List.sublist_cons_self _ _) _

theorem Linked.unlink (linked : Linked layout heap blocks (front ++ block :: back))
    (cut : Cut layout blocks) (listed : Listed blocks (front ++ block :: back)) :
    Linked layout (heap.setNextFreeBlock (lastLink layout front)
      (heap.pxNextFreeBlock block.start)) blocks (front ++ back) := by
  have around := sublist_around front back block
  have rest : Listed blocks (front ++ back) :=
    ⟨fun other member => listed.inside other (around.subset member),
      listed.distinct.sublist around⟩
  have chain := linked.chain
  rw [List.map_append, List.map_cons] at chain
  refine linked.setNext cut listed.lastLink (cut.lastLink_apart_end listed) ?_
  rw [List.map_append]
  refine chain.remove (next_setNext (wordAt_lt _ _)) (fun entry member different => ?_) ?_
  · rw [← List.map_append] at member
    exact next_setNext_other cut listed.lastLink (rest.mem_links member) different
  · rw [← List.map_append]
    exact cut.nodup_links rest.inside rest.distinct

theorem iterate_chain {first stop size rounds : Nat}
    (chain : Chain heap.pxNextFreeBlock first (front.map Piece.start) stop)
    (small : ∀ block ∈ front, heap.xBlockSize block.start < size)
    (large : size ≤ heap.xBlockSize stop) (enough : front.length < rounds) :
    heap.iterate size rounds first = some ((front.map Piece.start).getLastD first) := by
  induction front generalizing first rounds with
  | nil =>
      obtain ⟨rounds, rfl⟩ := Nat.exists_eq_succ_of_ne_zero (Nat.ne_of_gt enough)
      rw [iterate, show heap.pxNextFreeBlock first = stop from chain, if_neg (Nat.not_lt.mpr large)]
      rfl
  | cons head rest ih =>
      obtain ⟨rounds, rfl⟩ :=
        Nat.exists_eq_succ_of_ne_zero (Nat.ne_of_gt (Nat.zero_lt_of_lt enough))
      obtain ⟨here, more⟩ := chain
      rw [iterate, here, if_pos (small head (by simp)), List.map_cons, List.getLastD_cons]
      exact ih more (fun block member => small block (List.mem_cons_of_mem _ member))
        (Nat.lt_of_succ_lt_succ enough)

theorem findBlock_chain {first stop size rounds : Nat}
    (chain : Chain heap.pxNextFreeBlock first (front.map Piece.start) stop)
    (small : ∀ block ∈ front, heap.xBlockSize block.start < size)
    (linked : ∀ block ∈ front, heap.pxNextFreeBlock block.start ≠ 0)
    (large : size ≤ heap.xBlockSize stop) (enough : front.length < rounds) :
    heap.findBlock size rounds first (heap.pxNextFreeBlock first) =
      some ((front.map Piece.start).getLastD first, stop) := by
  induction front generalizing first rounds with
  | nil =>
      obtain ⟨rounds, rfl⟩ := Nat.exists_eq_succ_of_ne_zero (Nat.ne_of_gt enough)
      rw [show heap.pxNextFreeBlock first = stop from chain, findBlock,
        if_neg fun both => Nat.not_lt.mpr large both.1]
      rfl
  | cons head rest ih =>
      obtain ⟨rounds, rfl⟩ :=
        Nat.exists_eq_succ_of_ne_zero (Nat.ne_of_gt (Nat.zero_lt_of_lt enough))
      obtain ⟨here, more⟩ := chain
      rw [here, findBlock, if_pos ⟨small head (by simp), linked head (by simp)⟩, List.map_cons,
        List.getLastD_cons]
      exact ih more (fun block member => small block (List.mem_cons_of_mem _ member))
        (fun block member => linked block (List.mem_cons_of_mem _ member))
        (Nat.lt_of_succ_lt_succ enough)

theorem Listed.insert (listed : Listed blocks free) (member : block ∈ blocks)
    (fresh : block ∉ free) : Listed blocks (free.orderedInsert Smaller block) where
  inside other held := by
    rcases (List.mem_orderedInsert Smaller).mp held with rfl | held
    · exact member
    · exact listed.inside other held
  distinct := (List.perm_orderedInsert Smaller block free).nodup_iff.mpr
    (List.nodup_cons.mpr ⟨fresh, listed.distinct⟩)

/-- Where a block goes in: behind the smaller ones. -/
theorem orderedInsert_split (block : Piece) (free : List Piece) :
    ∃ front back, free = front ++ back ∧ (∀ other ∈ front, other.size < block.size) ∧
      (∀ other ∈ back.head?, block.size ≤ other.size) ∧
        free.orderedInsert Smaller block = front ++ block :: back := by
  refine ⟨_, _, (List.takeWhile_append_dropWhile (p := fun other => ¬Smaller block other)
    (l := free)).symm, fun other held => ?_, fun other held => ?_,
    List.orderedInsert_eq_take_drop Smaller block free⟩
  · have smaller := List.all_takeWhile (p := fun other => ¬Smaller block other) (l := free)
    simpa [Smaller] using List.all_eq_true.mp smaller other held
  · have larger := List.head?_dropWhile_not (fun other => ¬Smaller block other) free
    rw [Option.mem_def.mp held] at larger
    simpa [Smaller] using larger

/-- The loop stops in front of the first free block that is not smaller. -/
theorem Linked.iterate (linked : Linked layout heap blocks (front ++ back))
    (cut : Cut layout blocks) (listed : Listed blocks (front ++ back)) (member : block ∈ blocks)
    (small : ∀ other ∈ front, other.size < block.size)
    (large : ∀ other ∈ back.head?, block.size ≤ other.size) {rounds : Nat}
    (enough : (front ++ back).length < rounds) :
    heap.iterate block.size rounds layout.xStart = some (lastLink layout front) := by
  have chain := linked.chain
  rw [List.map_append] at chain
  refine iterate_chain (chain_split.mp chain).1 (fun other held => ?_) ?_ ?_
  · rw [linked.sizes other (listed.inside other (List.mem_append_left _ held))]
    exact small other held
  · cases back with
    | nil =>
        have inside := cut.covers.bounds member
        rw [List.map_nil, List.headD_nil, linked.endSize]
        omega
    | cons head rest =>
        rw [List.map_cons, List.headD_cons, linked.sizes head (listed.inside head (by simp))]
        exact large head rfl
  · rw [List.length_append] at enough
    omega

theorem next_lt (link : Nat) : heap.pxNextFreeBlock link < 2 ^ 32 := wordAt_lt _ _

theorem Cut.not_mem_chain (cut : Cut layout blocks) (listed : Listed blocks free)
    (member : block ∈ blocks) (fresh : block ∉ free) :
    block.start ∉ layout.xStart :: free.map Piece.start := by
  intro chained
  rcases List.mem_cons.mp chained with same | chained
  · exact (cut.apart_start member).ne same.symm
  · obtain ⟨other, held, same⟩ := List.mem_map.mp chained
    exact fresh (cut.start_inj (listed.inside other held) member same ▸ held)

theorem Linked.join (linked : Linked layout heap blocks (front ++ back)) (cut : Cut layout blocks)
    (listed : Listed blocks (front ++ back)) (member : block ∈ blocks)
    (fresh : block ∉ front ++ back) :
    Linked layout ((heap.setNextFreeBlock block.start
      (heap.pxNextFreeBlock (lastLink layout front))).setNextFreeBlock (lastLink layout front)
        block.start) blocks (front ++ block :: back) := by
  have pred : lastLink layout front ∈ links layout blocks := listed.lastLink
  have held : block.start ∈ links layout blocks := mem_links_block member
  have outside := cut.not_mem_chain listed member fresh
  have apart : block.start ≠ lastLink layout front := by
    intro same
    apply outside
    rw [same, List.map_append, ← List.cons_append]
    exact List.mem_append_left _ (lastLink_mem layout front)
  have first : Linked layout (heap.setNextFreeBlock block.start
      (heap.pxNextFreeBlock (lastLink layout front))) blocks (front ++ back) := by
    refine linked.setNext cut held (cut.apart_end member).symm (linked.chain.congr ?_)
    intro link chained
    exact next_setNext_other cut held (listed.mem_links chained) fun same =>
      outside (same ▸ chained)
  have inside := cut.bounds member
  have fits := layout.fits
  have chain := first.chain
  rw [List.map_append] at chain
  refine first.setNext cut pred (cut.lastLink_apart_end listed) ?_
  rw [List.map_append, List.map_cons]
  refine chain.insert (next_setNext (by omega)) ?_ (fun entry chained different => ?_) ?_
  · rw [next_setNext_other cut pred held apart, next_setNext (next_lt _)]
    exact (next_setNext_other cut held pred apart.symm).symm
  · rw [← List.map_append] at chained
    exact next_setNext_other cut pred (listed.mem_links chained) different
  · rw [← List.map_append]
    exact cut.nodup_links listed.inside listed.distinct

theorem Linked.insert (linked : Linked layout heap blocks free) (cut : Cut layout blocks)
    (listed : Listed blocks free) (member : block ∈ blocks) (fresh : block ∉ free) {rounds : Nat}
    (enough : free.length < rounds) :
    ∃ after, heap.prvInsertBlockIntoFreeList layout rounds block.start = some after ∧
      Linked layout after blocks (free.orderedInsert Smaller block) ∧
        Relinked layout blocks heap after := by
  obtain ⟨front, back, rfl, small, large, sorted⟩ := orderedInsert_split block free
  have found := linked.iterate cut listed member small large enough
  rw [prvInsertBlockIntoFreeList, linked.sizes block member, found, Option.map_some, sorted]
  refine ⟨_, rfl, linked.join cut listed member fresh, ?_⟩
  exact (relinked_refl.setNext (mem_links_block member)).setNext listed.lastLink

theorem Cut.divide (cut : Cut layout blocks) (member : block ∈ blocks) {size : Nat}
    (some_ : 0 < size) (whole : size % 8 = 0) (rest : size + heapMinimumBlockSize < block.size) :
    Cut layout (divide blocks block [⟨block.start, size⟩, ⟨block.start + size, block.size - size⟩])
    where
  covers := by
    have whole_ : block.start + size + (block.size - size) = block.start + block.size := by omega
    exact cut.covers.divide (covers_pair.mpr ⟨rfl, rfl, whole_⟩)
  sizes part held := by
    have large := cut.sizes block member
    rw [heapMinimumBlockSize, heapStructSize] at rest
    rcases mem_divide.mp held with ⟨-, inside⟩ | ⟨inside, -⟩
    · simp only [List.mem_cons, List.not_mem_nil, or_false] at inside
      rcases inside with rfl | rfl <;> simp only <;> omega
    · exact cut.sizes part inside

theorem Linked.divide (linked : Linked layout heap blocks free) (cut : Cut layout blocks)
    (listed : Listed blocks free) (member : block ∈ blocks) (fresh : block ∉ free) {size : Nat}
    (some_ : 0 < size) (whole : size % 8 = 0) (rest : size + heapMinimumBlockSize < block.size) :
    Linked layout ((heap.setBlockSize (block.start + size) (block.size - size)).setBlockSize
      block.start size)
      (divide blocks block [⟨block.start, size⟩, ⟨block.start + size, block.size - size⟩])
      free := by
  have cut' := cut.divide member some_ whole rest
  have large := cut.sizes block member
  have bounds := cut.covers.bounds member
  have fits := layout.fits
  have first : ⟨block.start, size⟩ ∈ Tiles.divide blocks block
      [⟨block.start, size⟩, ⟨block.start + size, block.size - size⟩] :=
    mem_divide.mpr (.inl ⟨member, by simp⟩)
  have second : ⟨block.start + size, block.size - size⟩ ∈ Tiles.divide blocks block
      [⟨block.start, size⟩, ⟨block.start + size, block.size - size⟩] :=
    mem_divide.mpr (.inl ⟨member, by simp⟩)
  have rest' := rest
  rw [heapMinimumBlockSize, heapStructSize] at rest'
  refine ⟨fun part held => ?_, ?_, ?_, linked.chain.congr fun link chained => ?_⟩
  · rcases mem_divide.mp held with ⟨-, inside⟩ | ⟨inside, different⟩
    · simp only [List.mem_cons, List.not_mem_nil, or_false] at inside
      rcases inside with rfl | rfl
      · exact size_setSize (by omega)
      · rw [size_setSize_apart (cut'.apart_blocks first second (by simp; omega)),
          size_setSize (by omega)]
    · have apart := cut.covers.apart member inside (Ne.symm different)
      have large' := cut.sizes part inside
      rw [size_setSize_apart (by unfold Apart; omega), size_setSize_apart (by unfold Apart; omega),
        linked.sizes part inside]
  · rw [size_setSize_apart (cut'.apart_end first).symm,
      size_setSize_apart (cut'.apart_end second).symm, linked.endSize]
  · rw [next_setSize (.inr (cut'.apart_end first).symm),
      next_setSize (.inr (cut'.apart_end second).symm), linked.endNext]
  · have listed' : Listed (Tiles.divide blocks block
        [⟨block.start, size⟩, ⟨block.start + size, block.size - size⟩]) free :=
      ⟨fun other held => mem_divide.mpr
        (.inr ⟨listed.inside other held, fun same => fresh (same ▸ held)⟩), listed.distinct⟩
    have link_ := listed'.mem_links chained
    rw [next_setSize (cut'.apart (mem_links_block first) link_),
      next_setSize (cut'.apart (mem_links_block second) link_)]

end Heap

end SmartMeter
