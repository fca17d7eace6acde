import SmartMeter.Library.Runs
import SmartMeter.Kernel.HeapLinks

/-! Through its links `heap_2.c` treats every run of calls and stores as the heap of blocks does. -/

namespace SmartMeter

open Tiles LinkChain Runs

theorem blockSizeFor_toNat {xWantedSize : UInt32} (some_ : 0 < xWantedSize) :
    (blockSizeFor xWantedSize).toNat =
      ((xWantedSize.toNat + 16) % 2 ^ 32 + 7) / 8 * 8 % 2 ^ 32 := by
  have bound := xWantedSize.toNat_lt
  have sum : (xWantedSize + UInt32.ofNat heapStructSize).toNat =
      (xWantedSize.toNat + 16) % 2 ^ 32 := by
    rw [UInt32.toNat_add]
    rfl
  rw [blockSizeFor, if_pos some_]
  generalize xWantedSize + UInt32.ofNat heapStructSize = wanted at sum
  have wanted_bound := wanted.toNat_lt
  have low : (wanted &&& portByteAlignmentMask).toNat = wanted.toNat % 8 := by
    rw [UInt32.toNat_and]
    exact Nat.and_two_pow_sub_one_eq_mod wanted.toNat 3
  rw [← sum]
  dsimp only
  split
  next unaligned =>
    have part : wanted.toNat % 8 ≠ 0 := fun none_ =>
      unaligned (UInt32.toNat_inj.mp (low.trans none_))
    have le : wanted &&& portByteAlignmentMask ≤ portByteAlignment := by
      rw [UInt32.le_iff_toNat_le, low, show portByteAlignment.toNat = 8 from rfl]
      omega
    rw [UInt32.toNat_add, UInt32.toNat_sub_of_le _ _ le, low,
      show portByteAlignment.toNat = 8 from rfl]
    congr 1
    omega
  next aligned =>
    have none_ : wanted.toNat % 8 = 0 := by
      rw [← low, not_not.mp aligned]
      rfl
    omega

theorem blockSizeFor_mod (xWantedSize : UInt32) : (blockSizeFor xWantedSize).toNat % 8 = 0 := by
  by_cases some_ : 0 < xWantedSize
  · rw [blockSizeFor_toNat some_]
    omega
  · rw [blockSizeFor, if_neg some_, UInt32.le_zero_iff.mp (UInt32.not_lt.mp some_)]
    rfl

namespace BlockHeap

open Heap

variable {layout : HeapLayout} {heap : BlockHeap} {block other : Piece} {address size : Nat}

structure Sound (layout : HeapLayout) (heap : BlockHeap) : Prop where
  cut : Cut layout heap.blocks
  listed : Listed heap.blocks heap.free
  sorted : heap.free.Pairwise Smaller
  owned : ∀ address, heap.contents address ≠ none → Outside layout address ∨
    ∃ block, heap.Allocated block ∧ InPayload address block

theorem sound_boot (layout : HeapLayout) : Sound layout (boot layout) where
  cut := ⟨⟨rfl, rfl⟩, by simp [boot, configTotalHeapSize]⟩
  listed := ⟨fun _ member => member, List.nodup_singleton _⟩
  sorted := List.pairwise_singleton _ _
  owned _ held := absurd rfl held

instance : Std.Total Smaller := ⟨fun first second => Nat.le_total first.size second.size⟩

instance : IsTrans Piece Smaller := ⟨fun _ _ _ => Nat.le_trans⟩

theorem forget_eq_some {value : UInt8} : heap.forget block address = some value ↔
    ¬InPayload address block ∧ heap.contents address = some value := by
  rw [forget]
  split <;> simp [*]

theorem contents_forget : heap.forget block address ≠ none ↔
    ¬InPayload address block ∧ heap.contents address ≠ none := by
  rw [forget]
  split <;> simp [*]

theorem divide_self (blocks : List Piece) (block : Piece) :
    divide blocks block [block] = blocks := by
  induction blocks with
  | nil => rfl
  | cons head rest ih =>
      rw [divide, List.flatMap_cons]
      split
      next same => rw [same]; exact congrArg (block :: ·) ih
      next => exact congrArg (head :: ·) ih

/-- Nothing is stored where the heap keeps its links. -/
theorem Sound.apart_links (sound : Sound layout heap) (held : heap.contents address ≠ none)
    {link : Nat} (member : link ∈ links layout heap.blocks) :
    address < link ∨ link + 8 ≤ address := by
  have fits := layout.startApart
  have fits' := layout.endApart
  rcases sound.owned address held with ⟨outside, start, end_⟩ | ⟨block, ⟨inside, -⟩, low, high⟩
  · simp only [links, List.mem_cons, List.mem_map] at member
    rcases member with rfl | rfl | ⟨block, inside, rfl⟩
    · exact start
    · exact end_
    · have bounds := sound.cut.bounds inside
      omega
  · rw [heapStructSize] at low
    have bounds := sound.cut.covers.bounds inside
    simp only [links, List.mem_cons, List.mem_map] at member
    rcases member with rfl | rfl | ⟨other, inside', rfl⟩
    · omega
    · omega
    · by_cases same : other = block
      · subst same
        omega
      · have apart := sound.cut.covers.apart inside' inside same
        have large := (sound.cut.sizes other inside').1
        omega

end BlockHeap

namespace Heap

open BlockHeap

variable {layout : HeapLayout} {heap after : Heap} {view : BlockHeap} {rounds : Nat}
  {blocks free front back : List Piece} {block : Piece} {size : Nat}

structure Represents (layout : HeapLayout) (heap : Heap) (view : BlockHeap) : Prop where
  remaining : heap.xFreeBytesRemaining = UInt32.ofNat (view.free.map Piece.size).sum
  contents : ∀ address value, view.contents address = some value →
    heap.memory address = value
  linked : heap.xHeapHasBeenInitialised = true →
    Linked layout heap view.blocks view.free
  fresh : heap.xHeapHasBeenInitialised = false →
    view.blocks = (BlockHeap.boot layout).blocks ∧
      view.free = (BlockHeap.boot layout).free

theorem represents_boot (layout : HeapLayout) (memory : Nat → UInt8) :
    Represents layout (boot memory) (BlockHeap.boot layout) where
  remaining := rfl
  contents _ _ held := absurd held (by simp [BlockHeap.boot])
  linked started := absurd started (by simp [boot])
  fresh _ := ⟨rfl, rfl⟩

/-- The stores of an operation spare what tasks have stored. -/
theorem Relinked.contents (relinked : Relinked layout blocks heap after)
    (sound : view.Sound layout) (same : blocks = view.blocks) {address : Nat}
    {value : UInt8} (held : view.contents address = some value) :
    after.memory address = heap.memory address := by
  subst same
  exact relinked.memory address fun link member =>
    sound.apart_links (by simp [held]) member

theorem relinked_prvHeapInit (layout : HeapLayout) (heap : Heap) :
    Relinked layout (BlockHeap.boot layout).blocks heap (heap.prvHeapInit layout) := by
  have block : layout.ucHeap ∈ links layout (BlockHeap.boot layout).blocks := by
    simp [links, BlockHeap.boot]
  exact (((((relinked_refl.setNext mem_links_start).setSize mem_links_start).setSize
    mem_links_end).setNext mem_links_end).setSize block).setNext block

theorem linked_prvHeapInit (layout : HeapLayout) (heap : Heap) :
    Linked layout (heap.prvHeapInit layout) (BlockHeap.boot layout).blocks
      (BlockHeap.boot layout).free := by
  have cut := (BlockHeap.sound_boot layout).cut
  have held : ⟨layout.ucHeap, configTotalHeapSize⟩ ∈ (BlockHeap.boot layout).blocks :=
    List.mem_singleton_self _
  have start : Apart layout.xStart layout.ucHeap := cut.apart_start held
  have end_ : Apart layout.xEnd layout.ucHeap := cut.apart_end held
  have links : Apart layout.xStart layout.xEnd := layout.linksApart
  have fits := layout.fits
  have total : configTotalHeapSize < 2 ^ 32 := by simp [configTotalHeapSize]
  refine ⟨fun block member => ?_, ?_, ?_, ?_, ?_⟩
  · rw [List.mem_singleton.mp member, prvHeapInit, size_setNext (.inl rfl), size_setSize total]
  · rw [prvHeapInit, size_setNext (.inr end_.symm), size_setSize_apart end_.symm,
      size_setNext (.inl rfl), size_setSize total]
  · rw [prvHeapInit, next_setNext_apart end_.symm, next_setSize (.inr end_.symm),
      next_setNext (by simp)]
  · rw [prvHeapInit, next_setNext_apart start.symm, next_setSize (.inr start.symm),
      next_setNext_apart links.symm, next_setSize (.inr links.symm), next_setSize (.inl rfl),
      next_setNext (by simp only [configTotalHeapSize] at fits; omega)]
  · rw [prvHeapInit]
    exact next_setNext layout.endFits

/-- The first call finds the heap as one free block. -/
theorem Represents.initialised (represents : Represents layout heap view)
    (sound : view.Sound layout) : Represents layout (heap.initialised layout) view ∧
      (heap.initialised layout).xHeapHasBeenInitialised = true := by
  rw [Heap.initialised]
  split
  next started => exact ⟨represents, started⟩
  next stopped =>
    obtain ⟨blocks, free⟩ := represents.fresh (Bool.eq_false_iff.mpr stopped)
    have relinked := relinked_prvHeapInit layout heap
    refine ⟨⟨relinked.remaining.trans represents.remaining, fun address value held => ?_,
      fun _ => ?_, fun no => absurd no (by simp)⟩, rfl⟩
    · exact (relinked.contents sound blocks.symm held).trans
        (represents.contents address value held)
    · rw [blocks, free]
      exact (linked_prvHeapInit layout heap).of_memory rfl

theorem Listed.length_le (listed : Listed blocks free) : free.length ≤ blocks.length :=
  (List.subperm_of_subset listed.distinct listed.inside).length_le

theorem Cut.enough (cut : Cut layout blocks) (listed : Listed blocks free)
    (many : configTotalHeapSize / 8 < rounds) : free.length < rounds := by
  have bound := cut.length_le
  have shorter := listed.length_le
  rw [configTotalHeapSize] at bound many
  omega

theorem Linked.next_ne_zero (linked : Linked layout heap blocks (front ++ back))
    (cut : Cut layout blocks) (listed : Listed blocks (front ++ back)) (member : block ∈ front) :
    heap.pxNextFreeBlock block.start ≠ 0 := by
  obtain ⟨before, behind, rfl⟩ := List.append_of_mem member
  have chain := linked.chain
  rw [List.append_assoc, List.cons_append, List.map_append, List.map_cons] at chain
  rw [(chain_append.mp chain).2.next_first]
  cases rest : behind ++ back with
  | nil => exact Nat.ne_of_gt layout.endPlaced
  | cons head more =>
      have held : head ∈ blocks := listed.inside head (by
        rw [List.append_assoc, List.cons_append, rest]
        simp)
      have bounds := (cut.bounds held).1
      have placed := layout.placed
      rw [List.map_cons, List.headD_cons]
      omega

/-- The search finds the first free block that is large enough, or the end. -/
theorem Linked.findBlock (linked : Linked layout heap blocks (front ++ back))
    (cut : Cut layout blocks) (listed : Listed blocks (front ++ back))
    (bound : size ≤ configTotalHeapSize) (small : ∀ other ∈ front, other.size < size)
    (large : ∀ other ∈ back.head?, size ≤ other.size)
    (enough : (front ++ back).length < rounds) :
    heap.findBlock size rounds layout.xStart (heap.pxNextFreeBlock layout.xStart) =
      some (lastLink layout front, (back.map Piece.start).headD layout.xEnd) := by
  have chain := linked.chain
  rw [List.map_append] at chain
  refine findBlock_chain (chain_split.mp chain).1 (fun other held => ?_)
    (fun other held => linked.next_ne_zero cut listed held) ?_ ?_
  · rw [linked.sizes other (listed.inside other (List.mem_append_left _ held))]
    exact small other held
  · cases back with
    | nil => exact bound.trans_eq linked.endSize.symm
    | cons head rest =>
        rw [List.map_cons, List.headD_cons, linked.sizes head (listed.inside head (by simp))]
        exact large head rfl
  · rw [List.length_append] at enough
    omega

theorem Listed.divide (listed : Listed blocks free) (fresh : block ∉ free) (parts : List Piece) :
    Listed (divide blocks block parts) free :=
  ⟨fun _ held => mem_divide.mpr
    (.inr ⟨listed.inside _ held, fun same => fresh (same ▸ held)⟩), listed.distinct⟩

theorem Cut.rest_not_mem (cut : Cut layout blocks) (member : block ∈ blocks) (some_ : 0 < size)
    (fits : size < block.size) (rest : Nat) : ⟨block.start + size, rest⟩ ∉ blocks := by
  intro inside
  have large := (cut.sizes _ inside).1
  have apart := cut.covers.apart member inside fun same => by
    have start := congrArg Piece.start same
    simp only at start
    omega
  simp only at apart large
  omega

/-- The block that is taken is cut if it is much larger than it has to be. -/
theorem Linked.splitBlock (linked : Linked layout heap blocks free) (cut : Cut layout blocks)
    (listed : Listed blocks free) (member : block ∈ blocks) (fresh : block ∉ free)
    (some_ : 0 < size) (whole : size % 8 = 0) (many : configTotalHeapSize / 8 < rounds) :
    ∃ after, heap.splitBlock layout rounds block.start size = some after ∧
      Linked layout after (Tiles.divide blocks block (parts block size))
        ((parts block size).tail.foldr (List.orderedInsert Smaller) free) ∧
      Relinked layout (Tiles.divide blocks block (parts block size)) heap after ∧
        after.xBlockSize block.start + ((parts block size).tail.map Piece.size).sum =
          block.size := by
  rw [Heap.splitBlock, linked.sizes block member, parts]
  by_cases larger : block.size - size > heapMinimumBlockSize
  · rw [if_pos larger, if_pos larger]
    have rest : size + heapMinimumBlockSize < block.size := by omega
    have cut' := cut.divide member some_ whole rest
    have first : ⟨block.start, size⟩ ∈ Tiles.divide blocks block
        [⟨block.start, size⟩, ⟨block.start + size, block.size - size⟩] :=
      mem_divide.mpr (.inl ⟨member, by simp⟩)
    have second : ⟨block.start + size, block.size - size⟩ ∈ Tiles.divide blocks block
        [⟨block.start, size⟩, ⟨block.start + size, block.size - size⟩] :=
      mem_divide.mpr (.inl ⟨member, by simp⟩)
    have listed' := listed.divide fresh
      [⟨block.start, size⟩, ⟨block.start + size, block.size - size⟩]
    obtain ⟨after, inserted, linked', relinked⟩ :=
      (linked.divide cut listed member fresh some_ whole rest).insert cut' listed' second
        (fun held => cut.rest_not_mem member some_ (by omega) _ (listed.inside _ held))
        (cut'.enough listed' many)
    refine ⟨after, inserted, linked', Relinked.trans ?_ relinked, ?_⟩
    · have link : (⟨block.start, size⟩ : Piece).start ∈ links layout (Tiles.divide blocks block
          [⟨block.start, size⟩, ⟨block.start + size, block.size - size⟩]) := mem_links_block first
      exact (relinked_refl.setSize (mem_links_block second)).setSize link
    · have first_ := linked'.sizes _ first
      simp only at first_
      rw [first_]
      simp only [List.tail_cons, List.map_cons, List.map_nil, List.sum_cons, List.sum_nil]
      omega
  · rw [if_neg larger, if_neg larger, BlockHeap.divide_self]
    exact ⟨heap, rfl, linked, relinked_refl, by simpa using linked.sizes block member⟩

theorem Relinked.widen (relinked : Relinked layout blocks heap after) (member : block ∈ blocks)
    {size : Nat} : Relinked layout (divide blocks block (parts block size)) heap after where
  memory address apart := relinked.memory address fun link held => apart link (by
    simp only [links, List.mem_cons, List.mem_map] at held ⊢
    refine held.imp id (Or.imp id ?_)
    rintro ⟨other, inside, rfl⟩
    by_cases same : other = block
    · subst same
      refine ⟨(parts other size).headD other, mem_divide.mpr (.inl ⟨inside, ?_⟩), ?_⟩ <;>
        rw [parts] <;> split <;> simp
    · exact ⟨other, mem_divide.mpr (.inr ⟨inside, same⟩), rfl⟩)
  initialised := relinked.initialised
  remaining := relinked.remaining

theorem sum_foldr_orderedInsert (added free : List Piece) :
    ((added.foldr (List.orderedInsert Smaller) free).map Piece.size).sum =
      (added.map Piece.size).sum + (free.map Piece.size).sum := by
  induction added with
  | nil => simp
  | cons head rest ih =>
      rw [List.foldr_cons, ((List.perm_orderedInsert Smaller head _).map Piece.size).sum_eq]
      simp only [List.map_cons, List.sum_cons, ih]
      omega

theorem Listed.erase (listed : Listed blocks (front ++ block :: back)) :
    (front ++ block :: back).erase block = front ++ back ∧ Listed blocks (front ++ back) ∧
      block ∈ blocks ∧ block ∉ front ++ back := by
  have distinct := List.nodup_middle.mp listed.distinct
  obtain ⟨fresh, rest⟩ := List.nodup_cons.mp distinct
  refine ⟨?_, ⟨fun other held => ?_, rest⟩, listed.inside block (by simp), fresh⟩
  · rw [List.erase_append_right _ fun held => fresh (List.mem_append_left _ held),
      List.erase_cons_head]
  · exact listed.inside other ((sublist_around front back block).subset held)

/-- What is taken is the block or its front, whose rest is free. -/
theorem take_cases (listed : Listed view.blocks view.free)
    (split : view.free = front ++ block :: back) (size : Nat) :
    (view.take block size).blocks = view.blocks ∧ (view.take block size).free = front ++ back ∧
        block.size ≤ size + heapMinimumBlockSize ∨
      size + heapMinimumBlockSize < block.size ∧
        (view.take block size).blocks = divide view.blocks block
          [⟨block.start, size⟩, ⟨block.start + size, block.size - size⟩] ∧
        (view.take block size).free = (front ++ back).orderedInsert Smaller
          ⟨block.start + size, block.size - size⟩ := by
  rw [split] at listed
  obtain ⟨erased, -⟩ := listed.erase
  rw [BlockHeap.take, parts, split]
  dsimp only
  rw [erased]
  split
  next larger => exact .inr ⟨by omega, rfl, rfl⟩
  next close => exact .inl ⟨BlockHeap.divide_self _ _, rfl, by omega⟩

/-- Another block is neither taken nor freed by that. -/
theorem allocated_take_iff (sound : view.Sound layout)
    (split : view.free = front ++ block :: back) (some_ : 0 < size) {other : Piece}
    (inside : other ∈ view.blocks) (different : other ≠ block) :
    (view.take block size).Allocated other ↔ view.Allocated other := by
  have listed := sound.listed
  have around := sublist_around front back block
  have member : block ∈ view.blocks := listed.inside block (split ▸ by simp)
  have free_iff : other ∈ view.free ↔ other ∈ front ++ back := by
    rw [split]
    simp [different]
  rcases take_cases listed split size with ⟨blocks, free, -⟩ | ⟨larger, blocks, free⟩
  · rw [Allocated, Allocated, blocks, free, free_iff]
  · have new : other ≠ ⟨block.start + size, block.size - size⟩ := fun same =>
      sound.cut.rest_not_mem member some_ (Nat.lt_of_le_of_lt (Nat.le_add_right _ _) larger) _
        (same ▸ inside)
    rw [Allocated, Allocated, blocks, free, free_iff, List.mem_orderedInsert, mem_divide]
    simp only [inside, different, new, ne_eq, not_false_eq_true, and_self, or_true, true_and,
      false_or]

/-- A block that was free is taken: the heap stays whole. -/
theorem sound_take (sound : view.Sound layout) (split : view.free = front ++ block :: back)
    (some_ : 0 < size) (whole : size % 8 = 0) : (view.take block size).Sound layout := by
  have listed := sound.listed
  have sorted := sound.sorted
  have free : block ∈ view.free := split ▸ by simp
  rw [split] at listed sorted
  obtain ⟨-, rest, member, fresh⟩ := listed.erase
  have sorted' := sorted.sublist (sublist_around front back block)
  have owned (address : Nat) (held : (view.take block size).contents address ≠ none) :
      Outside layout address ∨
        ∃ other, (view.take block size).Allocated other ∧ InPayload address other := by
    refine (sound.owned address (contents_forget.mp held).2).imp id ?_
    rintro ⟨other, allocated, within⟩
    have different : other ≠ block := fun same => allocated.2 (same ▸ free)
    exact ⟨other, (allocated_take_iff sound split some_ allocated.1 different).mpr allocated,
      within⟩
  rcases take_cases sound.listed split size with ⟨blocks, free', -⟩ | ⟨larger, blocks, free'⟩
  · exact ⟨blocks ▸ sound.cut, blocks ▸ free' ▸ rest, free' ▸ sorted', owned⟩
  · have second : ⟨block.start + size, block.size - size⟩ ∈ Tiles.divide view.blocks block
        [⟨block.start, size⟩, ⟨block.start + size, block.size - size⟩] :=
      mem_divide.mpr (.inl ⟨member, by simp⟩)
    have new := sound.cut.rest_not_mem member some_
      (Nat.lt_of_le_of_lt (Nat.le_add_right _ _) larger) (block.size - size)
    exact ⟨blocks ▸ sound.cut.divide member some_ whole larger,
      blocks ▸ free' ▸ (rest.divide fresh _).insert second fun held => new (rest.inside _ held),
      free' ▸ sorted'.orderedInsert _ _, owned⟩

theorem chain_next_last {next : Nat → Nat} {first last : Nat} {nodes : List Nat}
    (chain : Chain next first nodes last) : next (nodes.getLastD first) = last := by
  rw [← List.append_nil nodes] at chain
  exact (chain_split.mp chain).2

theorem ofNat_add_sub (first second : Nat) :
    UInt32.ofNat (first + second) - UInt32.ofNat first = UInt32.ofNat second := by
  rw [UInt32.ofNat_add, UInt32.add_comm, UInt32.add_sub_cancel]

theorem Represents.take (represents : Represents layout heap view)
    (sound : view.Sound layout) (started : heap.xHeapHasBeenInitialised = true)
    (split : view.free = front ++ block :: back) (some_ : 0 < size) (whole : size % 8 = 0)
    (many : configTotalHeapSize / 8 < rounds) :
    ∃ after, heap.takeBlock layout rounds size (lastLink layout front) block.start =
        some (block.start + heapStructSize, after) ∧
      Represents layout after (view.take block size) := by
  have linked := represents.linked started
  have listed := sound.listed
  have sound' := sound_take sound split some_ whole
  rw [split] at linked listed
  obtain ⟨erased, rest, member, fresh⟩ := listed.erase
  have free : (view.take block size).free =
      (parts block size).tail.foldr (List.orderedInsert Smaller) (front ++ back) := by
    rw [BlockHeap.take, split, erased]
  have chain := linked.chain
  rw [List.map_append, List.map_cons] at chain
  obtain ⟨after, taken, linked', relinked, size_⟩ :=
    (linked.unlink sound.cut listed).splitBlock sound.cut rest member fresh some_ whole many
  have relinked' := (Relinked.widen (relinked_refl.setNext listed.lastLink) member).trans relinked
  rw [takeBlock, show heap.pxNextFreeBlock (lastLink layout front) = block.start from
    chain_next_last (chain_append.mp chain).1, taken, Option.map_some]
  refine ⟨_, rfl, ?_, fun address value held => ?_, fun _ => ?_, fun stopped => ?_⟩
  · have total : (view.free.map Piece.size).sum =
        after.xBlockSize block.start + ((view.take block size).free.map Piece.size).sum := by
      rw [free, sum_foldr_orderedInsert, split]
      simp only [List.map_append, List.map_cons, List.sum_append, List.sum_cons]
      omega
    dsimp only
    rw [relinked'.remaining, represents.remaining, total, ofNat_add_sub]
  · exact (relinked'.contents sound' rfl held).trans
      (represents.contents address value (forget_eq_some.mp held).2)
  · rw [free]
    exact linked'.of_memory rfl
  · exact absurd (stopped.symm.trans (relinked'.initialised.trans started)) (by simp)

/-- A request gets the first free block that is large enough, if it is one that can be met. -/
theorem malloc_cases (view : BlockHeap) (xWantedSize : UInt32) :
    view.malloc xWantedSize = (0, view) ∧
        ((blockSizeFor xWantedSize).toNat = 0 ∨
          configTotalHeapSize ≤ (blockSizeFor xWantedSize).toNat ∨
            ∀ block ∈ view.free, block.size < (blockSizeFor xWantedSize).toNat) ∨
      ∃ front block back, 0 < (blockSizeFor xWantedSize).toNat ∧
        (blockSizeFor xWantedSize).toNat < configTotalHeapSize ∧
        view.free = front ++ block :: back ∧
        (blockSizeFor xWantedSize).toNat ≤ block.size ∧
        (∀ other ∈ front, other.size < (blockSizeFor xWantedSize).toNat) ∧
        view.malloc xWantedSize = (block.start + heapStructSize,
          view.take block (blockSizeFor xWantedSize).toNat) := by
  rw [BlockHeap.malloc]
  generalize (blockSizeFor xWantedSize).toNat = size
  by_cases fits : 0 < size ∧ size < configTotalHeapSize
  · rw [if_pos fits]
    cases found : view.free.find? fun block => size ≤ block.size with
    | none =>
        refine .inl ⟨rfl, .inr (.inr fun block held => ?_)⟩
        have small := List.find?_eq_none.mp found block held
        simpa using small
    | some block =>
        obtain ⟨large, front, back, split, before⟩ := List.find?_eq_some_iff_append.mp found
        refine .inr ⟨front, block, back, fits.1, fits.2, split, by simpa using large, ?_, rfl⟩
        intro other held
        have small := before other held
        simpa using small
  · rw [if_neg fits]
    exact .inl ⟨rfl, by omega⟩

/-- The search fails where no free block is large enough. -/
theorem Linked.findBlock_end (linked : Linked layout heap blocks free) (cut : Cut layout blocks)
    (listed : Listed blocks free) (bound : size ≤ configTotalHeapSize)
    (small : ∀ other ∈ free, other.size < size) (enough : free.length < rounds) :
    heap.findBlock size rounds layout.xStart (heap.pxNextFreeBlock layout.xStart) =
      some (lastLink layout free, layout.xEnd) := by
  have whole : free ++ [] = free := List.append_nil _
  rw [← whole] at linked listed enough
  exact linked.findBlock cut listed bound small (by simp) enough

/-- `pvPortMalloc` answers as the heap of blocks does. -/
theorem Represents.malloc (represents : Represents layout heap view)
    (sound : view.Sound layout) (many : configTotalHeapSize / 8 < rounds)
    (xWantedSize : UInt32) :
    ∃ after, heap.pvPortMalloc layout rounds xWantedSize =
        some ((view.malloc xWantedSize).1, after) ∧
      Represents layout after (view.malloc xWantedSize).2 ∧
        (view.malloc xWantedSize).2.Sound layout := by
  obtain ⟨represents', started⟩ := represents.initialised sound
  have linked := represents'.linked started
  have enough := sound.cut.enough sound.listed many
  have whole := blockSizeFor_mod xWantedSize
  rw [pvPortMalloc]
  generalize heap.initialised layout = heap at represents' started linked
  rcases malloc_cases view xWantedSize with
    ⟨none_, unfit⟩ | ⟨front, block, back, some_, bound, split, large, small, given⟩
  · rw [none_]
    refine ⟨heap, ?_, represents', sound⟩
    dsimp only
    split
    next fits =>
      rw [linked.findBlock_end sound.cut sound.listed (Nat.le_of_lt fits.2)
        ((unfit.resolve_left (Nat.ne_of_gt fits.1)).resolve_left (Nat.not_le.mpr fits.2)) enough]
      simp
    next => rfl
  · have search := Linked.findBlock (split ▸ linked) sound.cut (split ▸ sound.listed)
      (Nat.le_of_lt bound) small (by simpa using large) (split ▸ enough)
    have free : block ∈ view.free := split ▸ by simp
    have apart := (sound.cut.apart_end (sound.listed.inside block free)).ne
    obtain ⟨after, taken, represents''⟩ := represents'.take sound started split some_ whole many
    rw [given, if_pos ⟨some_, bound⟩, search]
    refine ⟨after, ?_, represents'', sound_take sound split some_ whole⟩
    dsimp only
    rw [List.map_cons, List.headD_cons, if_pos (Ne.symm apart), taken]

theorem sound_release (sound : view.Sound layout) (member : block ∈ view.blocks)
    (fresh : block ∉ view.free) :
    BlockHeap.Sound layout { view with
      free := view.free.orderedInsert Smaller block
      contents := view.forget block } where
  cut := sound.cut
  listed := sound.listed.insert member fresh
  sorted := sound.sorted.orderedInsert _ _
  owned address held := by
    obtain ⟨outside, held⟩ := contents_forget.mp held
    refine (sound.owned address held).imp id ?_
    rintro ⟨other, ⟨inside, taken⟩, within⟩
    refine ⟨other, ⟨inside, fun listed => ?_⟩, within⟩
    rcases (List.mem_orderedInsert Smaller).mp listed with rfl | listed
    · exact outside within
    · exact taken listed

theorem release_zero : view.release 0 = view := by
  have none_ : (view.blocks.find? fun block => block.start + heapStructSize = 0) = none :=
    List.find?_eq_none.mpr fun block _ => by simp [heapStructSize]
  rw [BlockHeap.release, none_]

theorem release_block (sound : view.Sound layout) (member : block ∈ view.blocks) :
    view.release (block.start + heapStructSize) = { view with
      free := view.free.orderedInsert Smaller block
      contents := view.forget block } := by
  cases found : view.blocks.find? fun other =>
      other.start + heapStructSize = block.start + heapStructSize with
  | none => exact absurd (List.find?_eq_none.mp found block member) (by simp)
  | some other =>
      have start : other.start = block.start := by
        have same := List.find?_some found
        simpa using same
      have same := sound.cut.start_inj (List.mem_of_find?_eq_some found) member start
      rw [BlockHeap.release, found, same]

/-- `vPortFree` gives back what is allocated. -/
theorem Represents.vPortFree (represents : Represents layout heap view)
    (sound : view.Sound layout) (many : configTotalHeapSize / 8 < rounds) {pv : Nat}
    (allowed : view.Allowed layout (.vPortFree pv)) :
    ∃ after, heap.vPortFree layout rounds pv = some after ∧
      Represents layout after (view.release pv) ∧ (view.release pv).Sound layout := by
  rcases allowed with rfl | ⟨block, member, fresh, rfl⟩
  · rw [release_zero]
    exact ⟨heap, rfl, represents, sound⟩
  · have started : heap.xHeapHasBeenInitialised = true := by
      by_contra stopped
      obtain ⟨blocks, free⟩ := represents.fresh (Bool.eq_false_iff.mpr stopped)
      rw [blocks] at member
      rw [free] at fresh
      exact fresh member
    have sound' := sound_release sound member fresh
    obtain ⟨after, inserted, linked, relinked⟩ := (represents.linked started).insert sound.cut
      sound.listed member fresh (sound.cut.enough sound.listed many)
    rw [release_block sound member, Heap.vPortFree, if_pos (by simp [heapStructSize]),
      Nat.add_sub_cancel]
    dsimp only
    rw [inserted, Option.map_some]
    refine ⟨_, rfl, ⟨?_, fun address value held => ?_, fun _ => ?_, fun stopped => ?_⟩, sound'⟩
    · dsimp only
      rw [relinked.remaining, represents.remaining, linked.sizes block member,
        ((List.perm_orderedInsert Smaller block _).map Piece.size).sum_eq, List.map_cons,
        List.sum_cons, Nat.add_comm, UInt32.ofNat_add]
    · exact (relinked.contents sound' rfl held).trans
        (represents.contents address value (forget_eq_some.mp held).2)
    · exact linked.of_memory rfl
    · exact absurd (stopped.symm.trans (relinked.initialised.trans started)) (by simp)

/-- A byte away from the links changes none of them. -/
theorem Linked.store (linked : Linked layout heap blocks free) (listed : Listed blocks free)
    {address : Nat} (apart : ∀ link ∈ links layout blocks, address < link ∨ link + 8 ≤ address)
    (value : UInt8) :
    Linked layout { heap with memory := Function.update heap.memory address value }
      blocks free := by
  have word (link offset : Nat) (member : link ∈ links layout blocks) (inside : offset ≤ 4) :
      wordAt (Function.update heap.memory address value) (link + offset) 4 =
        wordAt heap.memory (link + offset) 4 := by
    refine wordAt_congr fun index bound => Function.update_of_ne ?_ _ _
    have outside := apart link member
    omega
  refine ⟨fun block member => ?_, ?_, ?_, linked.chain.congr fun link member => ?_⟩
  · exact (word _ 4 (mem_links_block member) (by omega)).trans (linked.sizes block member)
  · exact (word _ 4 mem_links_end (by omega)).trans linked.endSize
  · exact (word _ 0 mem_links_end (by omega)).trans linked.endNext
  · exact word link 0 (listed.mem_links member) (by omega)

theorem sound_store (sound : view.Sound layout) {address : Nat} {value : UInt8}
    (allowed : view.Allowed layout (.store address value)) :
    (view.next (.store address value)).Sound layout where
  cut := sound.cut
  listed := sound.listed
  sorted := sound.sorted
  owned place held := by
    by_cases here : place = address
    · subst here
      refine allowed.imp id ?_
      rintro ⟨block, member, fresh, within⟩
      exact ⟨block, ⟨member, fresh⟩, within⟩
    · refine sound.owned place fun none_ => held ?_
      exact (Function.update_of_ne here _ _).trans none_

theorem Represents.store (represents : Represents layout heap view)
    (sound : view.Sound layout) {address : Nat} {value : UInt8}
    (allowed : view.Allowed layout (.store address value)) :
    Represents layout { heap with memory := Function.update heap.memory address value }
      (view.next (.store address value)) where
  remaining := represents.remaining
  contents place stored held := by
    by_cases here : place = address
    · subst here
      have same : Function.update view.contents place (some value) place = some stored := held
      rw [Function.update_self] at same
      rw [← Option.some.inj same]
      exact Function.update_self ..
    · have before : view.contents place = some stored :=
        (Function.update_of_ne here _ _).symm.trans held
      exact (Function.update_of_ne here _ _).trans (represents.contents place stored before)
  linked started := (represents.linked started).store sound.listed
    (fun _ member => (sound_store sound allowed).apart_links
      (by simp [BlockHeap.next, BlockHeap.step]) member) value
  fresh := represents.fresh

/-- Each call and each store does to the memory what it does to the blocks. -/
theorem Represents.step (represents : Represents layout heap view)
    (sound : view.Sound layout) (many : configTotalHeapSize / 8 < rounds) {event : HeapEvent}
    (allowed : view.Allowed layout event) :
    ∃ after, heap.step layout rounds event = some ((view.step event).1, after) ∧
      Represents layout after (view.next event) ∧ (view.next event).Sound layout := by
  cases event with
  | pvPortMalloc xWantedSize => exact represents.malloc sound many xWantedSize
  | vPortFree pv =>
      obtain ⟨after, freed, represents', sound'⟩ := represents.vPortFree sound many allowed
      exact ⟨after, by rw [Heap.step, freed]; rfl, represents', sound'⟩
  | store address value =>
      exact ⟨_, rfl, represents.store sound allowed, sound_store sound allowed⟩

theorem Represents.run (represents : Represents layout heap view)
    (sound : view.Sound layout) (many : configTotalHeapSize / 8 < rounds)
    {events : List HeapEvent}
    (allowed : Along BlockHeap.next (BlockHeap.Allowed · layout) view events) :
    ∃ after, heap.run layout rounds events = some (view.pointers events, after) ∧
      Represents layout after (events.foldl BlockHeap.next view) ∧
        (events.foldl BlockHeap.next view).Sound layout := by
  induction events generalizing heap view with
  | nil => exact ⟨heap, rfl, represents, sound⟩
  | cons event rest ih =>
      obtain ⟨now, later⟩ := allowed
      obtain ⟨next, stepped, represents', sound'⟩ := represents.step sound many now
      obtain ⟨after, ran, represents'', sound''⟩ := ih represents' sound' later
      refine ⟨after, ?_, represents'', sound''⟩
      rw [Heap.run, stepped]
      simp only [Option.bind_eq_bind, Option.bind_some, ran]
      rfl

end Heap

end SmartMeter
