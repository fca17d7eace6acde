import SmartMeter.Kernel.HeapRefines

/-!
What the users of the kernel's heap may rely on in every state that is reached: what a request gets,
how long stored bytes stay, and that blocks once cut are never joined.
-/

namespace SmartMeter

open Tiles Runs Heap

namespace BlockHeap

variable {layout : HeapLayout} {heap : BlockHeap} {block other : Piece} {address size : Nat}
  {events : List HeapEvent}

def allocated (heap : BlockHeap) : List Piece := heap.blocks.filter (· ∉ heap.free)

theorem Sound.nodup_blocks (sound : Sound layout heap) : heap.blocks.Nodup :=
  sound.cut.covers.nodup fun block member => by
    have large := (sound.cut.sizes block member).1
    omega

/-- What is free and what is allocated is the heap. -/
theorem Sound.total (sound : Sound layout heap) :
    (heap.free.map Piece.size).sum + (heap.allocated.map Piece.size).sum =
      configTotalHeapSize := by
  have listed : (heap.blocks.filter (· ∈ heap.free)).Perm heap.free :=
    (List.perm_ext_iff_of_nodup (sound.nodup_blocks.filter _) sound.listed.distinct).mpr
      fun block => by simpa using sound.listed.inside block
  have parted := List.filter_append_perm (· ∈ heap.free) heap.blocks
  have sum := sound.cut.covers.sum
  rw [← (parted.map Piece.size).sum_eq, List.map_append, List.sum_append,
    (listed.map Piece.size).sum_eq] at sum
  simp only [allocated, decide_not]
  omega

theorem Sound.start_mod (sound : Sound layout heap) (member : block ∈ heap.blocks) :
    block.start % 8 = 0 :=
  Nat.mod_eq_zero_of_dvd (sound.cut.covers.dvd_start (Nat.dvd_of_mod_eq_zero layout.aligned)
    (fun piece held => Nat.dvd_of_mod_eq_zero (sound.cut.sizes piece held).2) member)

/-- The first block that is large enough is a smallest one. -/
theorem Sound.smallest {front back : List Piece} (sound : Sound layout heap)
    (split : heap.free = front ++ block :: back)
    (small : ∀ other ∈ front, other.size < size) (listed : other ∈ heap.free)
    (wide : size ≤ other.size) : block.size ≤ other.size := by
  have sorted := sound.sorted
  rw [split] at sorted listed
  rcases List.mem_append.mp listed with held | held
  · exact absurd wide (Nat.not_le.mpr (small other held))
  · rcases List.mem_cons.mp held with rfl | held
    · exact Nat.le_refl _
    · exact (List.pairwise_cons.mp (List.pairwise_append.mp sorted).2.1).1 other held

theorem Sound.allocated_take {front back : List Piece} (sound : Sound layout heap)
    (split : heap.free = front ++ block :: back) (some_ : 0 < size) (fits : size ≤ block.size) :
    ∃ taken, (heap.take block size).Allocated taken ∧ taken.start = block.start ∧
      size ≤ taken.size ∧ taken.size ≤ block.size ∧ taken.size ≤ size + heapMinimumBlockSize := by
  have listed := sound.listed
  rw [split] at listed
  obtain ⟨-, rest, member, fresh⟩ := listed.erase
  rcases take_cases sound.listed split size with ⟨blocks, free, close⟩ | ⟨larger, blocks, free⟩
  · refine ⟨block, ⟨?_, ?_⟩, rfl, fits, Nat.le_refl _, close⟩
    · rw [blocks]
      exact member
    · rw [free]
      exact fresh
  · refine ⟨⟨block.start, size⟩, ⟨?_, ?_⟩, rfl, Nat.le_refl _, fits, Nat.le_add_right _ _⟩
    · rw [blocks]
      exact mem_divide.mpr (.inl ⟨member, by simp⟩)
    · rw [free]
      intro held
      rcases (List.mem_orderedInsert Smaller).mp held with same | held
      · have start := congrArg Piece.start same
        simp only at start
        omega
      · have same := sound.cut.start_inj (rest.inside _ held) member rfl
        have sizes := congrArg Piece.size same
        simp only at sizes
        omega

theorem within_take {front back : List Piece} (listed : Listed heap.blocks heap.free)
    (split : heap.free = front ++ block :: back) (size : Nat) :
    Within (heap.take block size).blocks heap.blocks := by
  rcases take_cases listed split size with ⟨blocks, -⟩ | ⟨larger, blocks, -⟩
  · rw [blocks]
    exact within_refl _
  · have whole : block.start + size + (block.size - size) = block.start + block.size := by omega
    rw [blocks]
    exact within_divide (covers_pair.mpr ⟨rfl, rfl, whole⟩)

/-- Nothing is ever joined: a block lies in one of the blocks there were before. -/
theorem within_next (sound : Sound layout heap) (event : HeapEvent) :
    Within (heap.next event).blocks heap.blocks := by
  cases event with
  | store => exact within_refl _
  | vPortFree pv =>
      rw [next, step, release]
      split <;> exact within_refl _
  | pvPortMalloc xWantedSize =>
      rw [next, step]
      rcases malloc_cases heap xWantedSize with
        ⟨none_, -⟩ | ⟨front, block, back, -, -, split, -, -, given⟩
      · rw [none_]
        exact within_refl _
      · rw [given]
        exact within_take sound.listed split _

def Holds (heap : BlockHeap) (block : Piece) (address : Nat) (value : UInt8) : Prop :=
  heap.Allocated block ∧ heap.contents address = some value

def Spares (block : Piece) (address : Nat) : HeapEvent → Prop
  | .pvPortMalloc _ => True
  | .vPortFree pv => pv ≠ block.start + heapStructSize
  | .store place _ => place ≠ address

theorem Holds.take {front back : List Piece} {value : UInt8}
    (holds : heap.Holds block address value) (sound : Sound layout heap)
    (within : InPayload address block) (split : heap.free = front ++ other :: back)
    (some_ : 0 < size) : (heap.take other size).Holds block address value := by
  have free : other ∈ heap.free := split ▸ by simp
  have different : block ≠ other := fun same => holds.1.2 (same ▸ free)
  have apart := sound.cut.covers.apart holds.1.1 (sound.listed.inside other free) different
  have outside : ¬InPayload address other := by
    rintro ⟨low, high⟩
    obtain ⟨low', high'⟩ := within
    omega
  exact ⟨(allocated_take_iff sound split some_ holds.1.1 different).mpr holds.1,
    forget_eq_some.mpr ⟨outside, holds.2⟩⟩

theorem Holds.next {value : UInt8} (holds : heap.Holds block address value)
    (sound : Sound layout heap) (within : InPayload address block) {event : HeapEvent}
    (allowed : heap.Allowed layout event) (spares : Spares block address event) :
    (heap.next event).Holds block address value := by
  cases event with
  | store place stored =>
      exact ⟨holds.1, (Function.update_of_ne (Ne.symm spares) _ _).trans holds.2⟩
  | vPortFree pv =>
      rcases allowed with rfl | ⟨other, member, fresh, rfl⟩
      · rw [BlockHeap.next, step, release_zero]
        exact holds
      · have different : block ≠ other := fun same => spares (by rw [same])
        have apart := sound.cut.covers.apart holds.1.1 member different
        rw [BlockHeap.next, step, release_block sound member]
        refine ⟨⟨holds.1.1, fun listed => ?_⟩, forget_eq_some.mpr ⟨?_, holds.2⟩⟩
        · rcases (List.mem_orderedInsert Smaller).mp listed with same | listed
          · exact different same
          · exact holds.1.2 listed
        · rintro ⟨low, high⟩
          obtain ⟨low', high'⟩ := within
          omega
  | pvPortMalloc xWantedSize =>
      rw [BlockHeap.next, step]
      rcases malloc_cases heap xWantedSize with
        ⟨none_, -⟩ | ⟨front, other, back, some_, -, split, -, -, given⟩
      · rw [none_]
        exact holds
      · rw [given]
        exact holds.take sound within split some_

theorem Sound.next (sound : Sound layout heap) {event : HeapEvent}
    (allowed : heap.Allowed layout event) : Sound layout (heap.next event) := by
  cases event with
  | store => exact sound_store sound allowed
  | vPortFree pv =>
      rcases allowed with rfl | ⟨block, member, fresh, rfl⟩
      · rw [BlockHeap.next, step, release_zero]
        exact sound
      · rw [BlockHeap.next, step, release_block sound member]
        exact sound_release sound member fresh
  | pvPortMalloc xWantedSize =>
      rw [BlockHeap.next, step]
      rcases malloc_cases heap xWantedSize with
        ⟨none_, -⟩ | ⟨front, block, back, some_, -, split, -, -, given⟩
      · rw [none_]
        exact sound
      · rw [given]
        exact sound_take sound split some_ (blockSizeFor_mod _)

theorem within_run (sound : Sound layout heap)
    (allowed : Along BlockHeap.next (Allowed · layout) heap events) :
    Within (events.foldl BlockHeap.next heap).blocks heap.blocks := by
  induction events generalizing heap with
  | nil => exact within_refl _
  | cons event rest ih =>
      exact (ih (sound.next allowed.1) allowed.2).trans (within_next sound event)

theorem Holds.run {value : UInt8} (holds : heap.Holds block address value)
    (sound : Sound layout heap) (within : InPayload address block)
    (allowed : Along BlockHeap.next (Allowed · layout) heap events)
    (spares : ∀ event ∈ events, Spares block address event) :
    (events.foldl BlockHeap.next heap).Holds block address value := by
  induction events generalizing heap with
  | nil => exact holds
  | cons event rest ih =>
      exact ih (holds.next sound within allowed.1 (spares event (by simp)))
        (sound.next allowed.1) allowed.2
        fun later member => spares later (List.mem_cons_of_mem _ member)

end BlockHeap

namespace Heap

open BlockHeap

variable {layout : HeapLayout} {heap : Heap} {view : BlockHeap} {rounds : Nat}
  {block : Piece} {events : List HeapEvent}

def Reached (layout : HeapLayout) (rounds : Nat) (heap : Heap) (view : BlockHeap) : Prop :=
  ∃ memory events,
    Along BlockHeap.next (BlockHeap.Allowed · layout) (BlockHeap.boot layout) events ∧
    (boot memory).run layout rounds events =
      some ((BlockHeap.boot layout).pointers events, heap) ∧
        view = events.foldl BlockHeap.next (BlockHeap.boot layout)

/-- From any memory on, the scans end, the callers get the pointers that the heap of blocks gives
them, the blocks tile the heap with the free ones listed in order of size, and the bytes that are
counted as free are those that are not allocated. -/
theorem heap_from_boot (layout : HeapLayout) (memory : Nat → UInt8)
    (many : configTotalHeapSize / 8 < rounds)
    (allowed : Along BlockHeap.next (BlockHeap.Allowed · layout) (BlockHeap.boot layout) events) :
    ∃ heap, (boot memory).run layout rounds events =
        some ((BlockHeap.boot layout).pointers events, heap) ∧
      Represents layout heap (events.foldl BlockHeap.next (BlockHeap.boot layout)) ∧
        (events.foldl BlockHeap.next (BlockHeap.boot layout)).Sound layout ∧
        heap.xFreeBytesRemaining.toNat +
          (((events.foldl BlockHeap.next (BlockHeap.boot layout)).allocated).map Piece.size).sum =
            configTotalHeapSize := by
  obtain ⟨heap, ran, represents, sound⟩ :=
    (represents_boot layout memory).run (sound_boot layout) many allowed
  have total := sound.total
  refine ⟨heap, ran, represents, sound, ?_⟩
  rw [represents.remaining, UInt32.toNat_ofNat_of_lt' ?_]
  · exact total
  · rw [configTotalHeapSize] at total
    rw [UInt32.size]
    omega

def sampleLayout : HeapLayout where
  ucHeap := 0x20000000
  xStart := 0x100
  xEnd := 0x200
  aligned := by decide
  placed := by decide
  fits := by decide
  endPlaced := by decide
  endFits := by decide
  startApart := by decide
  endApart := by decide
  linksApart := by decide

def sampleEvents : List HeapEvent :=
  [.pvPortMalloc 100, .pvPortMalloc 20, .store 0x20000010 7, .vPortFree 0x20000088]

theorem sampleEvents_allowed : Along BlockHeap.next (BlockHeap.Allowed · sampleLayout)
    (BlockHeap.boot sampleLayout) sampleEvents :=
  ⟨trivial, trivial, .inr ⟨⟨0x20000000, 120⟩, by decide +kernel, by decide +kernel, by decide⟩,
    .inr ⟨⟨0x20000078, 40⟩, by decide +kernel, by decide +kernel, rfl⟩, trivial⟩

theorem heap_from_boot_sampleEvents :
    ∃ heap, (boot fun _ => 0).run sampleLayout 2000 sampleEvents =
        some ((BlockHeap.boot sampleLayout).pointers sampleEvents, heap) ∧
      Represents sampleLayout heap
        (sampleEvents.foldl BlockHeap.next (BlockHeap.boot sampleLayout)) ∧
        (sampleEvents.foldl BlockHeap.next (BlockHeap.boot sampleLayout)).Sound sampleLayout ∧
        heap.xFreeBytesRemaining.toNat +
          (((sampleEvents.foldl BlockHeap.next
            (BlockHeap.boot sampleLayout)).allocated).map Piece.size).sum = configTotalHeapSize :=
  heap_from_boot sampleLayout (fun _ => 0) (by decide) sampleEvents_allowed

example : (BlockHeap.boot sampleLayout).pointers sampleEvents =
    [0x20000010, 0x20000088, 0, 0] := by decide +kernel

theorem reached_run (memory : Nat → UInt8) (many : configTotalHeapSize / 8 < rounds)
    (allowed : Along BlockHeap.next (BlockHeap.Allowed · layout) (BlockHeap.boot layout) events) :
    ∃ heap, Reached layout rounds heap (events.foldl BlockHeap.next (BlockHeap.boot layout)) := by
  obtain ⟨heap, ran, -⟩ :=
    (represents_boot layout memory).run (sound_boot layout) many allowed
  exact ⟨heap, memory, events, allowed, ran, rfl⟩

def sampleBlocks : BlockHeap := sampleEvents.foldl BlockHeap.next (BlockHeap.boot sampleLayout)

theorem reached_sampleBlocks : ∃ heap, Reached sampleLayout 2000 heap sampleBlocks :=
  reached_run (fun _ => 0) (by decide) sampleEvents_allowed

theorem Reached.represents (reached : Reached layout rounds heap view)
    (many : configTotalHeapSize / 8 < rounds) :
    Represents layout heap view ∧ view.Sound layout := by
  obtain ⟨memory, events, allowed, ran, rfl⟩ := reached
  obtain ⟨last, ran', represents, sound⟩ :=
    (represents_boot layout memory).run (sound_boot layout) many allowed
  rw [ran] at ran'
  cases ran'
  exact ⟨represents, sound⟩

/-- For a request that does not wrap, what is looked for is what the request needs. -/
theorem blockSizeFor_le_iff {xWantedSize : UInt32} (some_ : 0 < xWantedSize)
    (fair : xWantedSize.toNat ≤ 2 ^ 32 - 16)
    (positive : 0 < (blockSizeFor xWantedSize).toNat) {size : Nat} (whole : size % 8 = 0) :
    (blockSizeFor xWantedSize).toNat ≤ size ↔ xWantedSize.toNat + 16 ≤ size := by
  rw [blockSizeFor_toNat some_] at positive ⊢
  have bound := xWantedSize.toNat_lt
  generalize xWantedSize.toNat = wanted at fair positive bound ⊢
  omega

theorem blockSizeFor_fits_iff {xWantedSize : UInt32} (some_ : 0 < xWantedSize)
    (fair : xWantedSize.toNat ≤ 2 ^ 32 - 16) :
    0 < (blockSizeFor xWantedSize).toNat ∧ (blockSizeFor xWantedSize).toNat < configTotalHeapSize ↔
      xWantedSize.toNat + 24 ≤ configTotalHeapSize := by
  rw [blockSizeFor_toNat some_, configTotalHeapSize]
  have positive : 0 < xWantedSize.toNat := UInt32.lt_iff_toNat_lt.mp some_
  generalize xWantedSize.toNat = wanted at fair positive
  omega

/-- A request that does not wrap gets the smallest free block with room for it, or as much of that
block as it needs; it gets nothing if there is none, or if it asks for all of the heap. -/
theorem malloc_grants (reached : Reached layout rounds heap view)
    (many : configTotalHeapSize / 8 < rounds) {xWantedSize : UInt32} (some_ : 0 < xWantedSize)
    (fair : xWantedSize.toNat ≤ 2 ^ 32 - 16) :
    ∃ pv after, heap.pvPortMalloc layout rounds xWantedSize = some (pv, after) ∧
      Represents layout after (view.malloc xWantedSize).2 ∧
      (pv = 0 ↔ configTotalHeapSize < xWantedSize.toNat + 24 ∨
        ∀ block ∈ view.free, block.size < xWantedSize.toNat + 16) ∧
      (pv ≠ 0 → pv % 8 = 0 ∧ ∃ block ∈ view.free, ∃ taken,
        (view.malloc xWantedSize).2.Allocated taken ∧ pv = taken.start + 16 ∧
          xWantedSize.toNat + 16 ≤ taken.size ∧ taken.start = block.start ∧
            taken.size ≤ block.size ∧ ∀ other ∈ view.free,
              xWantedSize.toNat + 16 ≤ other.size → block.size ≤ other.size) := by
  obtain ⟨represents, sound⟩ := reached.represents many
  obtain ⟨after, answered, represents', -⟩ := represents.malloc sound many xWantedSize
  refine ⟨_, after, answered, represents', ?_⟩
  have fits := blockSizeFor_fits_iff some_ fair
  have room (proper : 0 < (blockSizeFor xWantedSize).toNat) {block : Piece}
      (member : block ∈ view.blocks) :
      (blockSizeFor xWantedSize).toNat ≤ block.size ↔ xWantedSize.toNat + 16 ≤ block.size :=
    blockSizeFor_le_iff some_ fair proper (sound.cut.sizes block member).2
  rcases malloc_cases view xWantedSize with
    ⟨none_, unfit⟩ | ⟨front, block, back, positive, bound, split, large, small, given⟩
  · rw [none_]
    refine ⟨⟨fun _ => ?_, fun _ => rfl⟩, fun given => absurd rfl given⟩
    by_cases proper : 0 < (blockSizeFor xWantedSize).toNat ∧
        (blockSizeFor xWantedSize).toNat < configTotalHeapSize
    · refine .inr fun block free => ?_
      have small := ((unfit.resolve_left (Nat.ne_of_gt proper.1)).resolve_left
        (Nat.not_le.mpr proper.2)) block free
      exact Nat.not_le.mp fun wide =>
        Nat.not_le.mpr small ((room proper.1 (sound.listed.inside block free)).mpr wide)
    · exact .inl (Nat.not_le.mp (mt fits.mpr proper))
  · have free : block ∈ view.free := split ▸ by simp
    have member := sound.listed.inside block free
    have sound' := sound_take sound split positive (blockSizeFor_mod _)
    obtain ⟨taken, allocated, start, enough, most, -⟩ := sound.allocated_take split positive large
    have aligned : (block.start + 16) % 8 = 0 := by
      have held := sound'.start_mod allocated.1
      rw [← start]
      omega
    have wide : xWantedSize.toNat + 16 ≤ taken.size :=
      (blockSizeFor_le_iff some_ fair positive (sound'.cut.sizes taken allocated.1).2).mp enough
    rw [given]
    refine ⟨⟨fun none_ => absurd none_ (by simp [heapStructSize]), ?_⟩, fun _ => ⟨aligned, block,
      free, taken, allocated, congrArg (· + heapStructSize) start.symm, wide, start, most,
        fun other listed wide => ?_⟩⟩
    · rintro (wide | small)
      · exact absurd (fits.mp ⟨positive, bound⟩) (Nat.not_le.mpr wide)
      · exact absurd ((room positive member).mp large) (Nat.not_le.mpr (small block free))
    · exact sound.smallest split small listed
        ((room positive (sound.listed.inside other listed)).mpr wide)

/-- The block that was freed is given again. -/
theorem malloc_grants_sampleBlocks : ∃ (heap after : Heap),
    heap.pvPortMalloc sampleLayout 2000 20 = some (0x20000088, after) ∧
      Represents sampleLayout after (sampleBlocks.malloc 20).2 := by
  obtain ⟨heap, reached⟩ := reached_sampleBlocks
  have free : sampleBlocks.free = [⟨0x20000078, 40⟩, ⟨0x200000A0, 12128⟩] := by decide +kernel
  obtain ⟨pv, after, answered, represents, refused, granted⟩ :=
    malloc_grants reached (by decide : configTotalHeapSize / 8 < 2000)
      (by decide : (0 : UInt32) < 20) (by decide)
  rw [free] at refused granted
  have some_ : pv ≠ 0 := by
    intro none_
    rcases refused.mp none_ with long | small
    · exact absurd long (by decide)
    · exact absurd (small ⟨0x20000078, 40⟩ List.mem_cons_self) (by decide)
  obtain ⟨-, block, member, taken, -, place, -, start, -, smallest⟩ := granted some_
  have least := smallest ⟨0x20000078, 40⟩ List.mem_cons_self (by decide)
  have first : block.start = 0x20000078 := by
    rcases List.mem_pair.mp member with same | same
    · rw [same]
    · rw [same] at least
      exact absurd least (by decide)
  have given : pv = 0x20000088 := by rw [place, start, first]
  exact ⟨heap, after, given ▸ answered, represents⟩

/-- A request of more than `2 ^ 32 - 16` bytes wraps: it is given a block without room for it. -/
theorem malloc_overlong (reached : Reached layout rounds heap view)
    (many : configTotalHeapSize / 8 < rounds) {xWantedSize : UInt32}
    (overlong : 2 ^ 32 - 16 < xWantedSize.toNat) (free : block ∈ view.free)
    (large : 16 ≤ block.size) :
    ∃ after taken, heap.pvPortMalloc layout rounds xWantedSize =
        some (taken.start + 16, after) ∧
      (view.malloc xWantedSize).2.Allocated taken ∧ taken.size ≤ 48 := by
  obtain ⟨represents, sound⟩ := reached.represents many
  obtain ⟨after, answered, -⟩ := represents.malloc sound many xWantedSize
  have bound := xWantedSize.toNat_lt
  have size : 0 < (blockSizeFor xWantedSize).toNat ∧ (blockSizeFor xWantedSize).toNat ≤ 16 := by
    have some_ : 0 < xWantedSize :=
      UInt32.lt_iff_toNat_lt.mpr (Nat.lt_of_le_of_lt (Nat.zero_le _) overlong)
    rw [blockSizeFor_toNat some_]
    generalize xWantedSize.toNat = wanted at overlong bound
    omega
  rcases malloc_cases view xWantedSize with
    ⟨-, unfit⟩ | ⟨front, given, back, positive, -, split, wide, -, answer⟩
  · have small := ((unfit.resolve_left (Nat.ne_of_gt size.1)).resolve_left (by
      rw [configTotalHeapSize]
      omega)) block free
    omega
  · obtain ⟨taken, allocated, start, -, -, most⟩ := sound.allocated_take split positive wide
    rw [heapMinimumBlockSize, heapStructSize] at most
    rw [answer] at answered ⊢
    refine ⟨after, taken, ?_, allocated, by omega⟩
    rw [answered, start]
    rfl

theorem malloc_overlong_sampleBlocks : ∃ (heap after : Heap) (taken : Piece),
    heap.pvPortMalloc sampleLayout 2000 0xFFFFFFF8 = some (taken.start + 16, after) ∧
      (sampleBlocks.malloc 0xFFFFFFF8).2.Allocated taken ∧ taken.size ≤ 48 := by
  obtain ⟨heap, reached⟩ := reached_sampleBlocks
  have free : ⟨0x20000078, 40⟩ ∈ sampleBlocks.free := by decide +kernel
  exact ⟨heap, malloc_overlong reached (by decide) (by decide) free (by decide)⟩

/-- Blocks are never joined: once no block, free or not, has room for a request, the request fails
for ever. -/
theorem never_joined (reached : Reached layout rounds heap view)
    (many : configTotalHeapSize / 8 < rounds) {xWantedSize : UInt32} (some_ : 0 < xWantedSize)
    (fair : xWantedSize.toNat ≤ 2 ^ 32 - 16)
    (small : ∀ block ∈ view.blocks, block.size < xWantedSize.toNat + 16)
    (allowed : Along BlockHeap.next (BlockHeap.Allowed · layout) view events) :
    ∃ later after, heap.run layout rounds events = some (view.pointers events, later) ∧
      later.pvPortMalloc layout rounds xWantedSize = some (0, after) := by
  obtain ⟨represents, sound⟩ := reached.represents many
  obtain ⟨later, ran, represents', sound'⟩ := represents.run sound many allowed
  obtain ⟨after, answered, -⟩ := represents'.malloc sound' many xWantedSize
  refine ⟨later, after, ran, ?_⟩
  rw [answered]
  rcases malloc_cases (events.foldl BlockHeap.next view) xWantedSize with
    ⟨none_, -⟩ | ⟨front, block, back, positive, -, split, large, -, -⟩
  · rw [none_]
  · have member := sound'.listed.inside block (split ▸ by simp)
    rw [blockSizeFor_le_iff some_ fair positive (sound'.cut.sizes block member).2] at large
    obtain ⟨whole, held, low, high⟩ := within_run sound allowed block member
    have bound := small whole held
    omega

theorem never_joined_sampleBlocks : ∃ heap later after : Heap,
    heap.run sampleLayout 2000 [.pvPortMalloc 50] =
        some (sampleBlocks.pointers [.pvPortMalloc 50], later) ∧
      later.pvPortMalloc sampleLayout 2000 12260 = some (0, after) := by
  obtain ⟨heap, reached⟩ := reached_sampleBlocks
  exact ⟨heap, never_joined reached (by decide) (by decide) (by decide) (by decide +kernel)
    ⟨trivial, trivial⟩⟩

/-- A byte that a task stores in its block stays until the task frees the block or stores there
again, whatever the heap does in between. -/
theorem stored_stays (reached : Reached layout rounds heap view)
    (many : configTotalHeapSize / 8 < rounds) (owned : view.Allocated block) {address : Nat}
    (within : InPayload address block) (value : UInt8)
    (allowed : Along BlockHeap.next (BlockHeap.Allowed · layout)
      (view.next (.store address value)) events)
    (spares : ∀ event ∈ events, Spares block address event) :
    ∃ pointers later, heap.run layout rounds (.store address value :: events) =
        some (pointers, later) ∧ later.memory address = value := by
  obtain ⟨represents, sound⟩ := reached.represents many
  have stores : view.Allowed layout (.store address value) :=
    .inr ⟨block, owned.1, owned.2, within⟩
  have holds : (view.next (.store address value)).Holds block address value :=
    ⟨owned, Function.update_self ..⟩
  have all : Along BlockHeap.next (BlockHeap.Allowed · layout) view
      (.store address value :: events) := ⟨stores, allowed⟩
  obtain ⟨later, ran, represents', -⟩ := represents.run sound many all
  have held := holds.run (sound.next stores) within allowed spares
  exact ⟨_, later, ran, represents'.contents address value held.2⟩

/-- While a block is taken behind it and freed again. -/
theorem stored_stays_sampleBlocks : ∃ (heap : Heap) (pointers : List Nat) (later : Heap),
    heap.run sampleLayout 2000
        [.store 0x20000013 9, .pvPortMalloc 50, .store 0x200000B0 5, .vPortFree 0x200000B0] =
        some (pointers, later) ∧ later.memory 0x20000013 = 9 := by
  obtain ⟨heap, reached⟩ := reached_sampleBlocks
  have owned : sampleBlocks.Allocated ⟨0x20000000, 120⟩ :=
    ⟨by decide +kernel, by decide +kernel⟩
  exact ⟨heap, stored_stays reached (by decide) owned (by decide) 9
    ⟨trivial, .inr ⟨⟨0x200000A0, 72⟩, by decide +kernel, by decide +kernel, by decide⟩,
      .inr ⟨⟨0x200000A0, 72⟩, by decide +kernel, by decide +kernel, rfl⟩, trivial⟩
    (by simp [Spares, heapStructSize])⟩

end Heap

end SmartMeter
