import SmartMeter.Library.Runs
import SmartMeter.Platform.FastWrite

/-!
Sessions of the cached write against plain writes of the same bytes: when the flash is the same
after each of them.
-/

namespace SmartMeter

namespace FlashDriver

/-- What a flush makes of one byte: without the erase, bits are only cleared. -/
def flushByte (driver : FlashDriver) (sector : Nat) (old new : UInt8) : UInt8 :=
  if driver.density / 4096 + 32768 ≤ sector then old &&& new else new

@[simp] theorem flushByte_self (driver : FlashDriver) (sector : Nat) (old : UInt8) :
    driver.flushByte sector old old = old := by
  rw [flushByte]
  split
  · exact UInt8.and_self
  · rfl

theorem flushSector_cells {driver : FlashDriver} {cache : Nat → UInt8}
    (installed : driver.gsflscache = some cache) (index : Nat) :
    driver.flushSector.cells index =
      if index / 4096 = driver.gsSector % 256 then
        driver.flushByte driver.gsSector (driver.cells index) (cache (index % 4096))
      else driver.cells index := by
  rw [flushSector, installed]
  dsimp only
  rw [tlsFlsErase, flushByte]
  by_cases far : driver.density / 4096 + 32768 ≤ driver.gsSector
  · rw [if_pos far, if_pos far]
    by_cases inside : index / 4096 = driver.gsSector % 256
    · rw [if_pos inside]
      exact programSector_inside cache driver.cells inside
    · rw [if_neg inside]
      exact programSector_outside cache driver.cells inside
  · rw [if_neg far, if_neg far]
    exact programSector_eraseSector driver.gsSector cache driver.cells index

@[simp] theorem flushSector_gsflscache (driver : FlashDriver) :
    driver.flushSector.gsflscache = driver.gsflscache := by
  rw [flushSector]
  split
  · rfl
  · rw [tlsFlsErase]
    split
    · rfl
    · rfl

theorem putByte_gsflscache (addr : Nat) (value : UInt8) (driver : FlashDriver) :
    (driver.putByte addr value).gsflscache =
      driver.gsflscache.map fun cache => Function.update cache (addr % 4096) value := by
  rw [putByte]
  split
  · exact flushSector_gsflscache _
  · rfl

/-- The cache after `count` bytes of an image from `addr` on: the byte written last at each
offset, and behind that what the memory held. -/
def cacheAfter (addr : Nat) (image memory : Nat → UInt8) (count offset : Nat) : UInt8 :=
  let place := (addr + count) / 4096 * 4096 + offset
  if offset < (addr + count) % 4096 then
    if addr ≤ place then image (place - addr) else memory offset
  else if addr + 4096 ≤ place then image (place - 4096 - addr) else memory offset

theorem cacheAfter_zero (addr : Nat) (image memory : Nat → UInt8) {offset : Nat}
    (inside : offset < 4096) : cacheAfter addr image memory 0 offset = memory offset := by
  simp only [cacheAfter, Nat.add_zero]
  split
  · rw [if_neg (by omega)]
  · rw [if_neg (by omega)]

theorem cacheAfter_succ (addr : Nat) (image memory : Nat → UInt8) (count : Nat) {offset : Nat}
    (inside : offset < 4096) :
    cacheAfter addr image memory (count + 1) offset =
      if offset = (addr + count) % 4096 then image count
      else cacheAfter addr image memory count offset := by
  simp only [cacheAfter]
  by_cases here : offset = (addr + count) % 4096
  · rw [if_pos here]
    by_cases full : (addr + count) % 4096 = 4095
    · have place : (addr + (count + 1)) / 4096 * 4096 + offset - 4096 - addr = count := by omega
      rw [if_neg (by omega), if_pos (by omega), place]
    · have place : (addr + (count + 1)) / 4096 * 4096 + offset - addr = count := by omega
      rw [if_pos (by omega), if_pos (by omega), place]
  · rw [if_neg here]
    by_cases full : (addr + count) % 4096 = 4095
    · have place : (addr + (count + 1)) / 4096 * 4096 + offset - 4096 =
          (addr + count) / 4096 * 4096 + offset := by omega
      have none : ¬offset < (addr + (count + 1)) % 4096 := by omega
      have all : offset < (addr + count) % 4096 := by omega
      rw [if_neg none, if_pos all, place]
      by_cases written : addr ≤ (addr + count) / 4096 * 4096 + offset
      · rw [if_pos (by omega), if_pos written]
      · rw [if_neg (by omega), if_neg written]
    · have sector : (addr + (count + 1)) / 4096 = (addr + count) / 4096 := by omega
      have same : offset < (addr + (count + 1)) % 4096 ↔ offset < (addr + count) % 4096 := by omega
      simp only [sector, same]

structure Placed (driver : FlashDriver) (addr start total : Nat) : Prop where
  base : addr = start ∨ addr = start + 134217728
  fits : start + total ≤ driver.density

theorem density_mod (driver : FlashDriver) : driver.density % 4096 = 0 := by
  rw [density, getFlashDensity]
  split
  · rename_i known
    rcases known with code | code
    · rw [code]
      decide
    · rw [code]
      decide
  · rfl

theorem Placed.erasable {driver : FlashDriver} {addr start total count : Nat}
    (placed : Placed driver addr start total) (inside : count < total) :
    ¬driver.density / 4096 + 32768 ≤ (addr + count) / 4096 := by
  have whole := driver.density_mod
  have fits := placed.fits
  rcases placed.base with base | base
  · omega
  · omega

/-- The flash `target` holds the image, and in front of it what the memory of the cache holds. -/
structure Aims (addr start total : Nat) (image memory target : Nat → UInt8) : Prop where
  covered : ∀ index < total, target (start + index) = image index
  front : ∀ offset < addr % 4096, memory offset = target (start / 4096 * 4096 + offset)

structure Progress (addr start total : Nat) (image memory target : Nat → UInt8) (code : UInt8)
    (count : Nat) (driver : FlashDriver) : Prop where
  sector : driver.gsSector = (addr + count) / 4096
  code : driver.densityCode = code
  cache : ∃ cache, driver.gsflscache = some cache ∧
    ∀ offset < 4096, cache offset = cacheAfter addr image memory count offset
  cells : ∀ index, index < start + ((addr + count) / 4096 * 4096 - addr) ∨ start + total ≤ index →
    driver.cells index = target index

section Progress

variable {addr start total count : Nat} {image memory target : Nat → UInt8} {code : UInt8}
  {driver : FlashDriver}

theorem cacheAfter_full (placed : Placed driver addr start total)
    (aims : Aims addr start total image memory target) (inside : count < total)
    (full : (addr + count) % 4096 = 4095) {index : Nat}
    (here : index / 4096 = (addr + count) / 4096 % 256) :
    cacheAfter addr image memory (count + 1) (index % 4096) = target index := by
  have bound := driver.density_le
  have fits := placed.fits
  have next : (addr + (count + 1)) % 4096 = 0 := by omega
  simp only [cacheAfter]
  rw [if_neg (by omega)]
  by_cases written : addr + 4096 ≤ (addr + (count + 1)) / 4096 * 4096 + index % 4096
  · rw [if_pos written, ← aims.covered _ (by omega)]
    congr 1
    rcases placed.base with base | base
    · omega
    · omega
  · rw [if_neg written, aims.front _ (by omega)]
    congr 1
    rcases placed.base with base | base
    · omega
    · omega

theorem Placed.distance (placed : Placed driver addr start total) (count : Nat) :
    (addr + count) / 4096 * 4096 - addr = (start + count) / 4096 * 4096 - start := by
  rcases placed.base with base | base
  · rw [base]
  · omega

theorem Placed.sector (placed : Placed driver addr start total) (inside : count < total) :
    (addr + count) / 4096 % 256 = (start + count) / 4096 := by
  have bound := driver.density_le
  have fits := placed.fits
  rcases placed.base with base | base
  · omega
  · omega

/-- What a filled sector leaves out was reached before. -/
theorem Placed.reached_before (placed : Placed driver addr start total) (inside : count < total)
    (full : (addr + count) % 4096 = 4095) {index : Nat}
    (other : index / 4096 ≠ (addr + count) / 4096 % 256)
    (reached : index < start + ((addr + (count + 1)) / 4096 * 4096 - addr) ∨
      start + total ≤ index) :
    index < start + ((addr + count) / 4096 * 4096 - addr) ∨ start + total ≤ index := by
  have next : (start + (count + 1)) / 4096 = (start + count) / 4096 + 1 := by
    rcases placed.base with base | base
    · omega
    · omega
  rw [placed.sector inside] at other
  rw [placed.distance, next] at reached
  rw [placed.distance]
  clear full next inside placed
  generalize (start + count) / 4096 = filled at *
  rcases reached with low | high
  · left
    have below : index < (filled + 1) * 4096 ∨ index < start := by omega
    clear low
    rcases below with below | below
    · have atMost : index / 4096 < filled + 1 := (Nat.div_lt_iff_lt_mul (by decide)).mpr below
      have less : index / 4096 < filled := by omega
      have front : index < filled * 4096 := (Nat.div_lt_iff_lt_mul (by decide)).mp less
      omega
    · omega
  · exact .inr high

theorem Progress.putByte (progress : Progress addr start total image memory target code count driver)
    (placed : Placed driver addr start total) (aims : Aims addr start total image memory target)
    (inside : count < total) :
    Progress addr start total image memory target code (count + 1)
      (driver.putByte (addr + count) (image count)) := by
  obtain ⟨cache, installed, held⟩ := progress.cache
  have cached : (driver.putByte (addr + count) (image count)).gsflscache =
      some (Function.update cache ((addr + count) % 4096) (image count)) := by
    rw [putByte_gsflscache, installed]
    rfl
  have held' : ∀ offset < 4096, Function.update cache ((addr + count) % 4096) (image count) offset =
      cacheAfter addr image memory (count + 1) offset := by
    intro offset small
    rw [Function.update_apply, cacheAfter_succ _ _ _ _ small, held offset small]
  refine ⟨putByte_gsSector _ progress.sector, ?_, ⟨_, cached, held'⟩, ?_⟩
  · rw [putByte_densityCode, progress.code]
  · intro index reached
    have bound := driver.density_le
    have fits := placed.fits
    rw [FlashDriver.putByte]
    split
    · rename_i full
      have copied : (driver.copyCache ((addr + count) % 4096) (fun _ => image count) 1).gsflscache =
          some (Function.update cache ((addr + count) % 4096) (image count)) := by
        rw [copyCache, installed]
        rfl
      show (flushSector _).cells index = _
      rw [flushSector_cells copied, copyCache_gsSector, progress.sector]
      by_cases here : index / 4096 = (addr + count) / 4096 % 256
      · have value := (held' (index % 4096) (Nat.mod_lt _ (by decide))).trans
          (cacheAfter_full placed aims inside full here)
        rw [if_pos here, value]
        exact if_neg (placed.erasable inside)
      · rw [if_neg here]
        exact progress.cells index (placed.reached_before inside full here reached)
    · rename_i part
      apply progress.cells
      have same : (addr + (count + 1)) / 4096 = (addr + count) / 4096 := by omega
      rwa [same] at reached

theorem Placed.congr {other : FlashDriver} (placed : Placed driver addr start total)
    (same : other.densityCode = driver.densityCode) : Placed other addr start total := by
  refine ⟨placed.base, ?_⟩
  rw [density, same]
  exact placed.fits

theorem Progress.putBytes (progress : Progress addr start total image memory target code 0 driver)
    (placed : Placed driver addr start total) (aims : Aims addr start total image memory target)
    (most : count ≤ total) :
    Progress addr start total image memory target code count
      (driver.putBytes addr image count) := by
  induction count with
  | zero => exact progress
  | succ count ih =>
      have before := ih (by omega)
      exact before.putByte (placed.congr (by rw [before.code, progress.code])) aims (by omega)

/-- The flush at the end of a session leaves what lies behind its last byte. -/
def KeepsTail (driver : FlashDriver) (addr total : Nat) (image memory target : Nat → UInt8) : Prop :=
  ∀ offset < 4096, (addr + total) % 4096 ≤ offset →
    driver.flushByte ((addr + total) / 4096) (target ((addr + total) / 4096 % 256 * 4096 + offset))
      (cacheAfter addr image memory total offset) =
        target ((addr + total) / 4096 % 256 * 4096 + offset)

theorem flushByte_congr {other : FlashDriver} (same : other.densityCode = driver.densityCode)
    (sector : Nat) (old new : UInt8) :
    other.flushByte sector old new = driver.flushByte sector old new := by
  rw [flushByte, density, same]
  rfl

theorem cacheAfter_last (placed : Placed driver addr start total)
    (aims : Aims addr start total image memory target) {index : Nat}
    (here : index / 4096 = (addr + total) / 4096 % 256)
    (written : index % 4096 < (addr + total) % 4096) :
    cacheAfter addr image memory total (index % 4096) = target index := by
  have bound := driver.density_le
  have fits := placed.fits
  simp only [cacheAfter]
  rw [if_pos written]
  by_cases later : addr ≤ (addr + total) / 4096 * 4096 + index % 4096
  · rw [if_pos later, ← aims.covered _ (by omega)]
    congr 1
    rcases placed.base with base | base
    · omega
    · omega
  · rw [if_neg later, aims.front _ (by omega)]
    congr 1
    rcases placed.base with base | base
    · omega
    · omega

theorem Placed.reached_last (placed : Placed driver addr start total) {index : Nat}
    (place : index / 4096 ≠ (addr + total) / 4096 % 256 ∨ (addr + total) % 4096 ≤ index % 4096) :
    index < start + ((addr + total) / 4096 * 4096 - addr) ∨ start + total ≤ index := by
  have bound := driver.density_le
  have fits := placed.fits
  have offset : (addr + total) % 4096 = (start + total) % 4096 := by
    rcases placed.base with base | base
    · omega
    · omega
  rw [placed.distance]
  by_cases inside : index < start + total
  · left
    -- The bytes of the last, partial sector are the only ones below the end not reached.
    have sector : (start + total) % 4096 ≠ 0 →
        (addr + total) / 4096 % 256 = (start + total) / 4096 := by
      intro part
      rcases placed.base with base | base
      · omega
      · omega
    by_cases part : (start + total) % 4096 = 0
    · omega
    · rw [sector part, offset] at place
      omega
  · right
    omega

theorem fastWriteDestroy_cells (driver : FlashDriver) :
    driver.fastWriteDestroy.cells = driver.flushSector.cells := rfl

theorem Progress.destroy
    (progress : Progress addr start total image memory target code total driver)
    (placed : Placed driver addr start total) (aims : Aims addr start total image memory target)
    (tail : driver.KeepsTail addr total image memory target) (index : Nat) :
    driver.fastWriteDestroy.cells index = target index := by
  obtain ⟨cache, installed, held⟩ := progress.cache
  rw [fastWriteDestroy_cells, flushSector_cells installed, progress.sector]
  by_cases here : index / 4096 = (addr + total) / 4096 % 256
  · rw [if_pos here, held _ (Nat.mod_lt _ (by decide))]
    by_cases written : index % 4096 < (addr + total) % 4096
    · have erased : ¬driver.density / 4096 + 32768 ≤ (addr + total) / 4096 := by
        have whole := driver.density_mod
        have fits := placed.fits
        rcases placed.base with base | base
        · omega
        · omega
      rw [flushByte, if_neg erased, cacheAfter_last placed aims here written]
    · have place : (addr + total) / 4096 % 256 * 4096 + index % 4096 = index := by omega
      have kept := tail (index % 4096) (Nat.mod_lt _ (by decide)) (by omega)
      rw [place] at kept
      rw [progress.cells index (placed.reached_last (.inr (by omega)))]
      exact kept
  · rw [if_neg here]
    exact progress.cells index (placed.reached_last (.inl here))

end Progress

def bytesAt (bytes : List UInt8) (index : Nat) : UInt8 := bytes.getD index 0

def fastWrites (addr : UInt32) : List (List UInt8) → FlashDriver → FlashDriver
  | [], driver => driver
  | chunk :: rest, driver =>
      fastWrites (addr + UInt32.ofNat chunk.length) rest
        ((driver.tlsFlsFastWrite addr (bytesAt chunk) chunk.length).getD driver)

def plainWrites (memory : Nat → UInt8) (addr : UInt32) : List (List UInt8) → FlashDriver → FlashDriver
  | [], driver => driver
  | chunk :: rest, driver =>
      plainWrites memory (addr + UInt32.ofNat chunk.length) rest
        ((driver.tlsFlsWrite (some memory) addr (bytesAt chunk) chunk.length).getD driver)

theorem overlay_congr {start count : Nat} {first second : Nat → UInt8}
    (agree : ∀ index < count, first index = second index) (cells : Nat → UInt8) :
    overlay start first count cells = overlay start second count cells := by
  funext index
  rw [overlay, overlay]
  split
  · exact agree _ (by omega)
  · rfl

@[simp] theorem flsWriteLoop_densityCode (memory : Nat → UInt8) (sector : Nat)
    (secoff : Fin 4096) (buf : Nat → UInt8) (len : Nat) (driver : FlashDriver) :
    (driver.flsWriteLoop memory sector secoff buf len).densityCode = driver.densityCode := by
  induction len using Nat.strongRecOn generalizing sector secoff buf driver with
  | ind len ih =>
      rw [flsWriteLoop]
      split
      · rfl
      · rename_i more
        have part := sectorPart_pos secoff more
        rw [ih _ (by omega)]
        rfl

theorem bytesAt_append_left {first second : List UInt8} {index : Nat}
    (inside : index < first.length) : bytesAt (first ++ second) index = bytesAt first index := by
  simp [bytesAt, List.getElem?_append_left inside]

theorem bytesAt_append_right (first second : List UInt8) (index : Nat) :
    bytesAt (first ++ second) (first.length + index) = bytesAt second index := by
  simp [bytesAt, List.getElem?_append_right]

section Writes

variable {code : UInt8} {base : UInt32}

theorem address_add {count : Nat} (based : base.toNat < 268435456) (few : count ≤ 1048576) :
    (base + UInt32.ofNat count).toNat = base.toNat + count := by
  rw [UInt32.toNat_add, UInt32.toNat_ofNat']
  omega

theorem fastWrites_eq (based : base.toNat < 268435456) {whole : List UInt8}
    {chunks : List (List UInt8)} (filled : ∀ chunk ∈ chunks, chunk ≠ []) {count : Nat}
    {driver : FlashDriver} (fits : base.toNat % 134217728 + whole.length ≤ driver.density)
    (start : count ≤ whole.length) (follows : chunks.flatten = whole.drop count) :
    fastWrites (base + UInt32.ofNat count) chunks
        (driver.imageWritten base (bytesAt whole) count) =
      driver.imageWritten base (bytesAt whole) whole.length := by
  have bound := driver.density_le
  induction chunks generalizing count with
  | nil =>
      have ended : whole.length - count = 0 := by
        rw [← List.length_drop, ← follows]
        rfl
      have all : count = whole.length := by omega
      rw [fastWrites, all]
  | cons chunk rest ih =>
      have some_bytes := List.length_pos_iff.mpr (filled chunk (List.mem_cons_self ..))
      have size := congrArg List.length follows
      simp only [List.flatten_cons, List.length_append, List.length_drop] at size
      have agree : ∀ index, index < chunk.length →
          bytesAt chunk index = bytesAt whole (count + index) := by
        intro index inside
        have there := congrArg (fun bytes : List UInt8 => bytes[index]?) follows
        simp only [List.flatten_cons, List.getElem?_drop] at there
        rw [List.getElem?_append_left inside] at there
        simp [bytesAt, there]
      have inside : driver.inChip (base + UInt32.ofNat count) = true := by
        rw [inChip, decide_eq_true_eq, address_add based (by omega)]
        omega
      have written := tlsFlsFastWrite_imageWritten (by omega) (by omega) inside agree
      have next : base + UInt32.ofNat count + UInt32.ofNat chunk.length =
          base + UInt32.ofNat (count + chunk.length) := by
        rw [UInt32.add_assoc, UInt32.ofNat_add]
      have tail := congrArg (List.drop chunk.length) follows
      rw [List.flatten_cons, List.drop_left, List.drop_drop] at tail
      rw [fastWrites, written, Option.getD_some, next]
      exact ih (fun other member => filled other (List.mem_cons_of_mem _ member)) (by omega) tail

theorem plainWrites_cells (memory : Nat → UInt8) (based : base.toNat < 268435456)
    {chunks : List (List UInt8)} (filled : ∀ chunk ∈ chunks, chunk ≠ []) {count : Nat}
    {driver : FlashDriver}
    (fits : base.toNat % 134217728 + count + chunks.flatten.length ≤ driver.density) :
    (plainWrites memory (base + UInt32.ofNat count) chunks driver).cells =
        overlay (base.toNat % 134217728 + count) (bytesAt chunks.flatten) chunks.flatten.length
          driver.cells ∧
      (plainWrites memory (base + UInt32.ofNat count) chunks driver).densityCode =
        driver.densityCode := by
  induction chunks generalizing count driver with
  | nil => exact ⟨(overlay_zero _ _ _).symm, rfl⟩
  | cons chunk rest ih =>
      have bound := driver.density_le
      have some_bytes := List.length_pos_iff.mpr (filled chunk (List.mem_cons_self ..))
      simp only [List.flatten_cons, List.length_append] at fits
      have address := address_add based (show count ≤ 1048576 by omega)
      have place : (base.toNat + count) % 134217728 = base.toNat % 134217728 + count := by omega
      have range : driver.InRange (base + UInt32.ofNat count) chunk.length := by
        rw [InRange, address, place]
        omega
      have next : base + UInt32.ofNat count + UInt32.ofNat chunk.length =
          base + UInt32.ofNat (count + chunk.length) := by
        rw [UInt32.add_assoc, UInt32.ofNat_add]
      have accepted : ¬(driver.inChip (base + UInt32.ofNat count) = false ∨ chunk.length = 0) := by
        rw [range.inChip (by omega)]
        rintro (out | none)
        · cases out
        · omega
      obtain ⟨written, done⟩ : ∃ written, driver.tlsFlsWrite (some memory)
          (base + UInt32.ofNat count) (bytesAt chunk) chunk.length = some written := by
        rw [tlsFlsWrite, if_neg accepted]
        exact ⟨_, rfl⟩
      have cells := tlsFlsWrite_cells range done
      have density : written.densityCode = driver.densityCode := by
        rw [tlsFlsWrite, if_neg accepted] at done
        cases done
        exact flsWriteLoop_densityCode ..
      have fits' : base.toNat % 134217728 + (count + chunk.length) + rest.flatten.length ≤
          written.density := by
        rw [FlashDriver.density, density]
        show _ ≤ driver.density
        omega
      obtain ⟨later, kept⟩ := ih (fun other member => filled other (List.mem_cons_of_mem _ member))
        fits'
      rw [plainWrites, done, Option.getD_some, next]
      refine ⟨?_, kept.trans density⟩
      rw [later, cells, address, place, ← Nat.add_assoc, List.flatten_cons, List.length_append,
        ← overlay_add]
      congr 1
      · exact (funext fun index => bytesAt_append_right chunk rest.flatten index).symm
      · exact overlay_congr (fun index inside => (bytesAt_append_left inside).symm) _

end Writes

end FlashDriver

open FlashDriver

/-- The writes of a session on a chip. The address is an offset in the chip, with the base address
or without; `memory` is what the memory for the cache holds, `sectorMemory` that for the sectors
of the plain writes. -/
structure FastSession (code : UInt8) where
  addr : UInt32
  chunks : List (List UInt8)
  memory : Nat → UInt8
  sectorMemory : Nat → UInt8
  filled : ∀ chunk ∈ chunks, chunk ≠ []
  based : addr.toNat < 268435456
  fits : addr.toNat % 134217728 + chunks.flatten.length ≤ getFlashDensity code

namespace FastSession

variable {code : UInt8}

def fast (driver : FlashDriver) (session : FastSession code) : FlashDriver :=
  (fastWrites session.addr session.chunks (driver.fastWriteInit session.memory)).fastWriteDestroy

def plain (driver : FlashDriver) (session : FastSession code) : FlashDriver :=
  plainWrites session.sectorMemory session.addr session.chunks driver

def total (session : FastSession code) : Nat := session.chunks.flatten.length

def image (session : FastSession code) : Nat → UInt8 := bytesAt session.chunks.flatten

def start (session : FastSession code) : Nat := session.addr.toNat % 134217728

def target (driver : FlashDriver) (session : FastSession code) : Nat → UInt8 :=
  overlay session.start session.image session.total driver.cells

/-- No flush of the session changes a byte that the session does not write: not in front of the
first byte, not behind the last one, and not in the sector that an earlier session left behind. -/
def Harmless (driver : FlashDriver) (session : FastSession code) : Prop :=
  if session.chunks = [] then
    ∀ index, index / 4096 = driver.gsSector % 256 →
      driver.flushByte driver.gsSector (driver.cells index) (session.memory (index % 4096)) =
        driver.cells index
  else
    (∀ offset < session.addr.toNat % 4096,
      session.memory offset = driver.cells (session.start / 4096 * 4096 + offset)) ∧
    (driver.gsSector ≠ session.addr.toNat / 4096 → driver.gsSector ≠ 0 →
      ∀ index, index / 4096 = driver.gsSector % 256 →
        index < session.start ∨ session.start + session.total ≤ index →
          driver.flushByte driver.gsSector (driver.cells index) (session.memory (index % 4096)) =
            driver.cells index) ∧
    driver.KeepsTail session.addr.toNat session.total session.image session.memory
      (session.target driver)

theorem placed (session : FastSession code) {driver : FlashDriver}
    (same : driver.densityCode = code) :
    Placed driver session.addr.toNat session.start session.total := by
  have based := session.based
  refine ⟨?_, ?_⟩
  · rw [start]
    omega
  · rw [density, same]
    exact session.fits

theorem total_pos {session : FastSession code} (some_chunk : session.chunks ≠ []) :
    0 < session.total := by
  obtain ⟨chunk, member⟩ := List.exists_mem_of_ne_nil _ some_chunk
  have some_bytes := List.length_pos_iff.mpr (session.filled chunk member)
  have part := (List.sublist_flatten_of_mem member).length_le
  exact Nat.lt_of_lt_of_le some_bytes part

theorem fastWriteInit_off {driver : FlashDriver} (off : driver.gsflscache = none)
    (memory : Nat → UInt8) :
    driver.fastWriteInit memory = { driver with gsflscache := some memory } := by
  rw [fastWriteInit, off]

theorem fastWrites_session {session : FastSession code} (some_chunk : session.chunks ≠ [])
    {driver : FlashDriver} (same : driver.densityCode = code) :
    fastWrites session.addr session.chunks driver =
      (driver.enterSector (session.addr.toNat / 4096)).putBytes session.addr.toNat session.image
        session.total := by
  have fits : session.addr.toNat % 134217728 + session.chunks.flatten.length ≤ driver.density := by
    rw [density, same]
    exact session.fits
  have all := @fastWrites_eq session.addr session.based _ _ session.filled 0 driver fits
    (Nat.zero_le _) rfl
  obtain ⟨rest, size⟩ : ∃ rest, session.chunks.flatten.length = rest + 1 :=
    ⟨_, (Nat.succ_pred_eq_of_pos (total_pos some_chunk)).symm⟩
  have zero : session.addr + UInt32.ofNat 0 = session.addr := UInt32.add_zero _
  rw [zero, size] at all
  rw [total, size]
  exact all

theorem aims {session : FastSession code} {driver : FlashDriver}
    (front : ∀ offset < session.addr.toNat % 4096,
      session.memory offset = driver.cells (session.start / 4096 * 4096 + offset)) :
    Aims session.addr.toNat session.start session.total session.image session.memory
      (session.target driver) := by
  refine ⟨?_, ?_⟩
  · intro index inside
    rw [target, overlay, if_pos (by omega), Nat.add_sub_cancel_left]
  · intro offset before
    have below : session.start / 4096 * 4096 + offset < session.start := by
      rw [start]
      omega
    rw [front offset before, target, overlay, if_neg (by omega)]

theorem progress_zero {session : FastSession code} {driver : FlashDriver}
    (same : driver.densityCode = code)
    (old : driver.gsSector ≠ session.addr.toNat / 4096 → driver.gsSector ≠ 0 →
      ∀ index, index / 4096 = driver.gsSector % 256 →
        index < session.start ∨ session.start + session.total ≤ index →
          driver.flushByte driver.gsSector (driver.cells index) (session.memory (index % 4096)) =
            driver.cells index) :
    Progress session.addr.toNat session.start session.total session.image session.memory
      (session.target driver) code 0
      (enterSector (session.addr.toNat / 4096)
        { driver with gsflscache := some session.memory }) := by
  refine ⟨rfl, ?_, ⟨session.memory, ?_, ?_⟩, ?_⟩
  · rw [enterSector_densityCode]
    exact same
  · rw [enterSector]
    dsimp only
    split
    · exact flushSector_gsflscache _
    · rfl
  · intro offset inside
    rw [cacheAfter_zero _ _ _ inside]
  · intro index place
    have uncovered : index < session.start ∨ session.start + session.total ≤ index := by omega
    rw [target, overlay, if_neg (by omega), enterSector]
    dsimp only
    split
    · rename_i left
      have cells := @flushSector_cells { driver with gsflscache := some session.memory }
        session.memory rfl index
      rw [cells]
      split
      · rename_i here
        exact old (Ne.symm left.1) left.2 index here uncovered
      · rfl
    · rfl

theorem fast_cells {session : FastSession code} {driver : FlashDriver}
    (same : driver.densityCode = code) (off : driver.gsflscache = none)
    (harmless : session.Harmless driver) :
    (session.fast driver).cells = session.target driver := by
  rw [Harmless] at harmless
  rw [fast, fastWriteInit_off off]
  split at harmless
  · rename_i none
    have nothing : session.total = 0 := by
      rw [total, none]
      rfl
    funext index
    rw [target, nothing, overlay_zero, none, fastWrites]
    have cells := @flushSector_cells { driver with gsflscache := some session.memory }
      session.memory rfl index
    refine Eq.trans cells ?_
    split
    · rename_i here
      exact harmless index here
    · rfl
  · rename_i some_chunk
    obtain ⟨front, old, tail⟩ := harmless
    funext index
    have begun := progress_zero same old
    have placed := session.placed begun.code
    have written := begun.putBytes placed (aims front) (Nat.le_refl session.total)
    have started : FlashDriver.densityCode { driver with gsflscache := some session.memory } = code :=
      same
    rw [fastWrites_session some_chunk started]
    refine written.destroy (session.placed written.code) (aims front) ?_ index
    intro offset inside behind
    rw [flushByte_congr (written.code.trans same.symm)]
    exact tail offset inside behind

theorem fast_kept {session : FastSession code} {driver : FlashDriver}
    (same : driver.densityCode = code) (off : driver.gsflscache = none) :
    (session.fast driver).gsflscache = none ∧ (session.fast driver).densityCode = code := by
  refine ⟨rfl, ?_⟩
  rw [fast, fastWriteInit_off off]
  show (flushSector _).densityCode = code
  rw [flushSector_densityCode]
  by_cases none : session.chunks = []
  · rw [none]
    exact same
  · have started : FlashDriver.densityCode { driver with gsflscache := some session.memory } = code :=
      same
    rw [fastWrites_session none started, putBytes_densityCode, enterSector_densityCode]
    exact same

theorem fast_gsSector {session : FastSession code} (some_chunk : session.chunks ≠ [])
    {driver : FlashDriver} (same : driver.densityCode = code) (off : driver.gsflscache = none) :
    (session.fast driver).gsSector = (session.addr.toNat + session.total) / 4096 := by
  have started : FlashDriver.densityCode { driver with gsflscache := some session.memory } = code :=
    same
  rw [fast, fastWriteInit_off off, fastWrites_session some_chunk started]
  exact (flushSector_gsSector _).trans (putBytes_gsSector _ _ (enterSector_gsSector _ _))

/-- A session in one sector is harmless where the memory of its cache holds what the chip does,
around its range and in the sector that was left behind. -/
theorem harmless_of_agrees {session : FastSession code} (some_chunk : session.chunks ≠ [])
    {driver : FlashDriver} (same : driver.densityCode = code)
    (short : session.addr.toNat % 4096 + session.total < 4096)
    (agrees : ∀ offset < 4096, offset < session.addr.toNat % 4096 ∨
      session.addr.toNat % 4096 + session.total ≤ offset →
        session.memory offset = driver.cells (session.start / 4096 * 4096 + offset))
    (old : driver.gsSector ≠ session.addr.toNat / 4096 → driver.gsSector ≠ 0 →
      ∀ index, index / 4096 = driver.gsSector % 256 →
        session.memory (index % 4096) = driver.cells index) : session.Harmless driver := by
  rw [Harmless, if_neg some_chunk]
  refine ⟨fun offset before => agrees offset (by omega) (.inl before), ?_, ?_⟩
  · intro moved used index inside _
    rw [old moved used index inside, flushByte_self]
  · intro offset inside behind
    have range := Nat.le_trans (session.placed same).fits driver.density_le
    have some_byte := total_pos some_chunk
    have sector : (session.addr.toNat + session.total) / 4096 % 256 * 4096 + offset =
        session.start / 4096 * 4096 + offset := by
      rw [start] at range ⊢
      omega
    have kept : cacheAfter session.addr.toNat session.image session.memory session.total offset =
        session.memory offset := by
      rw [cacheAfter, if_neg (by omega), if_neg (by omega)]
    have outside : ¬(session.start ≤ session.start / 4096 * 4096 + offset ∧
        session.start / 4096 * 4096 + offset < session.start + session.total) := by
      rw [start]
      omega
    rw [sector, kept, target, overlay, if_neg outside,
      agrees offset inside (.inr (by omega)), flushByte_self]

theorem plain_cells (session : FastSession code) {driver : FlashDriver}
    (same : driver.densityCode = code) :
    (session.plain driver).cells = session.target driver ∧
      (session.plain driver).densityCode = code := by
  have fits : session.addr.toNat % 134217728 + 0 + session.chunks.flatten.length ≤
      driver.density := by
    rw [density, same]
    exact session.fits
  have zero : session.addr + UInt32.ofNat 0 = session.addr := UInt32.add_zero _
  have written := plainWrites_cells session.sectorMemory session.based session.filled fits
  rw [zero] at written
  exact ⟨written.1, written.2.trans same⟩

theorem fast_plain_agree (sessions : List (FastSession code)) :
    ∀ {driver other : FlashDriver}, driver.cells = other.cells → driver.densityCode = code →
      other.densityCode = code → driver.gsflscache = none →
      Runs.Along fast (fun driver session => session.Harmless driver) driver sessions →
        (sessions.foldl fast driver).cells = (sessions.foldl plain other).cells := by
  induction sessions with
  | nil =>
      intro driver other cells same other_same off harmless
      exact cells
  | cons session rest ih =>
      intro driver other cells same other_same off harmless
      obtain ⟨first, later⟩ := harmless
      obtain ⟨closed, kept⟩ := @fast_kept code session driver same off
      obtain ⟨written, other_kept⟩ := session.plain_cells other_same
      refine ih ?_ kept other_kept closed later
      rw [fast_cells same off first, written, target, target, cells]

end FastSession

/-- In every sequence of sessions whose flushes are harmless, the cached writes leave what plain
writes leave. -/
theorem fast_sessions_refine_plain {code : UInt8} {driver : FlashDriver}
    (same : driver.densityCode = code) (off : driver.gsflscache = none)
    (sessions : List (FastSession code))
    (harmless : Runs.Along FastSession.fast (fun driver session => session.Harmless driver) driver
      sessions) :
    (sessions.foldl FastSession.fast driver).cells =
      (sessions.foldl FastSession.plain driver).cells :=
  FastSession.fast_plain_agree sessions rfl same same off harmless

/-- Two chunks into the second sector, over memory that holds what the chip does. -/
def FastSession.first : FastSession 0x14 where
  addr := 0x08001000
  chunks := [[0x5A, 0x5B], [0x5C]]
  memory := UInt8.ofNat
  sectorMemory := fun _ => 0
  filled := by simp
  based := by decide
  fits := by decide

/-- Then two into the third one, over the memory of the first session. -/
def FastSession.second : FastSession 0x14 where
  addr := 0x2000
  chunks := [[1], [2, 3, 4]]
  memory := overlay 0 (bytesAt [0x5A, 0x5B, 0x5C]) 3 UInt8.ofNat
  sectorMemory := fun _ => 0
  filled := by simp
  based := by decide
  fits := by decide

theorem ofNat_mod_sector (index : Nat) : UInt8.ofNat (index % 4096) = UInt8.ofNat index := by
  apply UInt8.toNat_inj.mp
  rw [UInt8.toNat_ofNat', UInt8.toNat_ofNat']
  omega

theorem FastSession.first_harmless : first.Harmless numbered := by
  have addr : first.addr.toNat % 4096 = 0 := rfl
  have total : first.total = 3 := rfl
  have start : first.start / 4096 = 1 := rfl
  refine harmless_of_agrees (List.cons_ne_nil _ _) rfl ?_ ?_ ?_
  · rw [addr, total]
    decide
  · intro offset inside _
    show UInt8.ofNat offset = UInt8.ofNat (first.start / 4096 * 4096 + offset)
    rw [start, ← ofNat_mod_sector (1 * 4096 + offset)]
    congr 1
    omega
  · intro _ used
    exact absurd rfl used

theorem FastSession.second_harmless : second.Harmless (first.fast numbered) := by
  have addr : second.addr.toNat % 4096 = 0 := rfl
  have total : second.total = 4 := rfl
  have start : second.start / 4096 = 2 := rfl
  have written : (first.fast numbered).cells =
      overlay 0x1000 (bytesAt [0x5A, 0x5B, 0x5C]) 3 UInt8.ofNat :=
    fast_cells rfl rfl first_harmless
  have sector : (first.fast numbered).gsSector % 256 = 1 := by
    have reached : (first.fast numbered).gsSector = (first.addr.toNat + first.total) / 4096 :=
      fast_gsSector (List.cons_ne_nil _ _) rfl rfl
    rw [reached]
    rfl
  refine harmless_of_agrees (List.cons_ne_nil _ _) (fast_kept rfl rfl).2 ?_ ?_ ?_
  · rw [addr, total]
    decide
  · intro offset inside outside
    rw [addr, total] at outside
    show overlay 0 (bytesAt [0x5A, 0x5B, 0x5C]) 3 UInt8.ofNat offset = _
    rw [start, written, overlay, if_neg (by omega), overlay, if_neg (by omega),
      ← ofNat_mod_sector (2 * 4096 + offset)]
    congr 1
    omega
  · intro _ _ index inside
    rw [sector] at inside
    show overlay 0 (bytesAt [0x5A, 0x5B, 0x5C]) 3 UInt8.ofNat (index % 4096) = _
    rw [written, overlay, overlay]
    by_cases front : index % 4096 < 3
    · have place : index % 4096 - 0 = index - 0x1000 := by omega
      rw [if_pos (by omega), if_pos (by omega), place]
    · rw [if_neg (by omega), if_neg (by omega), ofNat_mod_sector]

theorem fast_two_sessions_refine_plain :
    ([FastSession.first, .second].foldl FastSession.fast numbered).cells =
      ([FastSession.first, .second].foldl FastSession.plain numbered).cells :=
  @fast_sessions_refine_plain 0x14 numbered rfl rfl [.first, .second]
    ⟨FastSession.first_harmless, FastSession.second_harmless, trivial⟩

def FastSession.oneByte (memory : Nat → UInt8) : FastSession 0x14 where
  addr := 0
  chunks := [[0x5A]]
  memory := memory
  sectorMemory := fun _ => 0
  filled := by simp
  based := by decide
  fits := by decide

theorem FastSession.oneByte_clears :
    ((FastSession.oneByte fun _ => 0).fast FlashDriver.blank).cells 1 = 0 := by
  have some_chunk : (oneByte fun _ => 0).chunks ≠ [] := List.cons_ne_nil _ _
  have begun := @progress_zero 0x14 (oneByte fun _ => 0) blank rfl
    fun _ used => absurd rfl used
  have front := @aims 0x14 (oneByte fun _ => 0) blank
    fun _ before => absurd before (Nat.not_lt_zero _)
  have written := begun.putBytes ((oneByte fun _ => 0).placed begun.code) front (Nat.le_refl _)
  obtain ⟨cache, installed, held⟩ := written.cache
  rw [fast, fastWriteInit_off rfl, fastWrites_session some_chunk rfl]
  have addr : (oneByte fun _ => 0).addr.toNat = 0 := rfl
  have total : (oneByte fun _ => 0).total = 0 + 1 := rfl
  rw [fastWriteDestroy_cells, flushSector_cells installed, written.sector, addr, total,
    if_pos (by decide), flushByte, if_neg (by omega), held _ (by decide),
    addr, total, cacheAfter_succ _ _ _ _ (by decide), cacheAfter_zero _ _ _ (by decide), if_neg (by decide)]
  rfl

theorem fast_byte_clears_sector :
    ¬([FastSession.oneByte fun _ => 0].foldl FastSession.fast FlashDriver.blank).cells =
      ([FastSession.oneByte fun _ => 0].foldl FastSession.plain FlashDriver.blank).cells := by
  intro equal
  have second := congrFun equal 1
  have kept := congrFun
    ((FastSession.oneByte fun _ => 0).plain_cells (@rfl _ FlashDriver.blank.densityCode)).1 1
  have lost := (FastSession.oneByte_clears.symm.trans second).trans kept
  exact absurd lost (by decide)

end SmartMeter
