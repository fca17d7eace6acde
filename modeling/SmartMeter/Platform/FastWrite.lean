import SmartMeter.Platform.FlashWrite

/-!
The cached write of images, byte for byte: what it does does not depend on where a run of bytes
is cut, and it touches no sector but the cached one and those it passes.
-/

namespace SmartMeter

namespace FlashDriver

theorem tlsFlsErase_outside {sector index : Nat} (driver : FlashDriver)
    (outside : index / 4096 ≠ sector % 256) :
    ((driver.tlsFlsErase sector).getD driver).cells index = driver.cells index := by
  rw [tlsFlsErase]
  split
  · rfl
  · exact if_neg (by omega)

@[simp] theorem tlsFlsErase_gsSector (sector : Nat) (driver : FlashDriver) :
    ((driver.tlsFlsErase sector).getD driver).gsSector = driver.gsSector := by
  rw [tlsFlsErase]
  split
  · rfl
  · rfl

@[simp] theorem tlsFlsErase_densityCode (sector : Nat) (driver : FlashDriver) :
    ((driver.tlsFlsErase sector).getD driver).densityCode = driver.densityCode := by
  rw [tlsFlsErase]
  split
  · rfl
  · rfl

@[simp] theorem flushSector_gsSector (driver : FlashDriver) :
    driver.flushSector.gsSector = driver.gsSector := by
  rw [flushSector]
  split
  · rfl
  · exact tlsFlsErase_gsSector _ driver

@[simp] theorem flushSector_densityCode (driver : FlashDriver) :
    driver.flushSector.densityCode = driver.densityCode := by
  rw [flushSector]
  split
  · rfl
  · exact tlsFlsErase_densityCode _ driver

theorem flushSector_outside {index : Nat} (driver : FlashDriver)
    (outside : index / 4096 ≠ driver.gsSector % 256) :
    driver.flushSector.cells index = driver.cells index := by
  rw [flushSector]
  split
  · rfl
  · dsimp only
    rw [programSector_outside _ _ (by simpa using outside)]
    exact driver.tlsFlsErase_outside outside

@[simp] theorem nextSector_gsSector (driver : FlashDriver) :
    driver.nextSector.gsSector = driver.gsSector + 1 := by
  simp [nextSector]

@[simp] theorem nextSector_densityCode (driver : FlashDriver) :
    driver.nextSector.densityCode = driver.densityCode :=
  driver.flushSector_densityCode

@[simp] theorem copyCache_gsSector (offset : Nat) (buf : Nat → UInt8) (len : Nat)
    (driver : FlashDriver) : (driver.copyCache offset buf len).gsSector = driver.gsSector := rfl

@[simp] theorem copyCache_densityCode (offset : Nat) (buf : Nat → UInt8) (len : Nat)
    (driver : FlashDriver) : (driver.copyCache offset buf len).densityCode = driver.densityCode := rfl

theorem copyCache_zero (offset : Nat) (buf : Nat → UInt8) (driver : FlashDriver) :
    driver.copyCache offset buf 0 = driver := by
  have same : (fun cache : Nat → UInt8 => Buffer.copy cache offset buf 0) = id := rfl
  rw [copyCache, same, Option.map_id_fun, id]

theorem copyCache_succ (offset : Nat) (buf : Nat → UInt8) (len : Nat) (driver : FlashDriver) :
    (driver.copyCache offset buf len).copyCache (offset + len) (fun _ => buf len) 1 =
      driver.copyCache offset buf (len + 1) := by
  simp only [copyCache, Option.map_map]
  rfl

def putByte (addr : Nat) (value : UInt8) (driver : FlashDriver) : FlashDriver :=
  let driver := driver.copyCache (addr % 4096) (fun _ => value) 1
  if addr % 4096 = 4095 then driver.nextSector else driver

def putBytes (addr : Nat) (buf : Nat → UInt8) : Nat → FlashDriver → FlashDriver
  | 0, driver => driver
  | count + 1, driver => putByte (addr + count) (buf count) (putBytes addr buf count driver)

theorem putBytes_add (addr : Nat) (buf : Nat → UInt8) (first second : Nat)
    (driver : FlashDriver) :
    driver.putBytes addr buf (first + second) =
      (driver.putBytes addr buf first).putBytes (addr + first)
        (fun index => buf (first + index)) second := by
  induction second with
  | zero => rfl
  | succ second ih =>
      rw [← Nat.add_assoc, putBytes, ih, putBytes, Nat.add_assoc]

theorem putBytes_congr (addr : Nat) {first second : Nat → UInt8} {count : Nat}
    (agree : ∀ index, index < count → first index = second index) (driver : FlashDriver) :
    driver.putBytes addr first count = driver.putBytes addr second count := by
  induction count with
  | zero => rfl
  | succ count ih =>
      rw [putBytes, putBytes, ih fun index inside => agree index (by omega),
        agree count (by omega)]

theorem putByte_gsSector {addr : Nat} (value : UInt8) {driver : FlashDriver}
    (at_addr : driver.gsSector = addr / 4096) :
    (driver.putByte addr value).gsSector = (addr + 1) / 4096 := by
  rw [putByte]
  split
  · rw [nextSector_gsSector, copyCache_gsSector, at_addr]
    omega
  · rw [copyCache_gsSector, at_addr]
    omega

theorem putBytes_gsSector {addr : Nat} (buf : Nat → UInt8) (count : Nat) {driver : FlashDriver}
    (at_addr : driver.gsSector = addr / 4096) :
    (driver.putBytes addr buf count).gsSector = (addr + count) / 4096 := by
  induction count with
  | zero => exact at_addr
  | succ count ih => exact putByte_gsSector (buf count) ih

@[simp] theorem putByte_densityCode (addr : Nat) (value : UInt8) (driver : FlashDriver) :
    (driver.putByte addr value).densityCode = driver.densityCode := by
  rw [putByte]
  split
  · rw [nextSector_densityCode, copyCache_densityCode]
  · rfl

@[simp] theorem putBytes_densityCode (addr : Nat) (buf : Nat → UInt8) (count : Nat)
    (driver : FlashDriver) : (driver.putBytes addr buf count).densityCode = driver.densityCode := by
  induction count with
  | zero => rfl
  | succ count ih => rw [putBytes, putByte_densityCode, ih]

theorem putByte_outside {addr index : Nat} (value : UInt8) {driver : FlashDriver}
    (outside : addr % 4096 = 4095 → index / 4096 ≠ driver.gsSector % 256) :
    (driver.putByte addr value).cells index = driver.cells index := by
  rw [putByte]
  split
  · rename_i full
    exact flushSector_outside _ (outside full)
  · rfl

theorem putBytes_outside {addr index : Nat} (buf : Nat → UInt8) (count : Nat)
    {driver : FlashDriver} (at_addr : driver.gsSector = addr / 4096)
    (outside : ∀ sector, addr / 4096 ≤ sector → sector < (addr + count) / 4096 →
      index / 4096 ≠ sector % 256) :
    (driver.putBytes addr buf count).cells index = driver.cells index := by
  induction count with
  | zero => rfl
  | succ count ih =>
      have there := putBytes_gsSector buf count at_addr
      rw [putBytes, putByte_outside]
      · exact ih fun sector low high => outside sector low (by omega)
      · intro full
        rw [there]
        exact outside _ (by omega) (by omega)

theorem putBytes_in_sector {addr : Nat} (buf : Nat → UInt8) {count : Nat} (driver : FlashDriver)
    (inside : addr % 4096 + count < 4096) :
    driver.putBytes addr buf count = driver.copyCache (addr % 4096) buf count := by
  induction count with
  | zero => exact (copyCache_zero _ _ _).symm
  | succ count ih =>
      have offset : (addr + count) % 4096 = addr % 4096 + count := by omega
      rw [putBytes, ih (by omega), putByte, offset, if_neg (by omega), copyCache_succ]

theorem putBytes_to_end {addr : Nat} (buf : Nat → UInt8) {count : Nat} (driver : FlashDriver)
    (reaches : addr % 4096 + count = 4096) :
    driver.putBytes addr buf count = (driver.copyCache (addr % 4096) buf count).nextSector := by
  obtain ⟨rest, rfl⟩ : ∃ rest, count = rest + 1 := ⟨count - 1, by omega⟩
  have offset : (addr + rest) % 4096 = addr % 4096 + rest := by omega
  rw [putBytes, putBytes_in_sector buf driver (by omega), putByte, offset, if_pos (by omega),
    copyCache_succ]

theorem putBytes_sectorPart {addr : Nat} {offset : Fin 4096} (buf : Nat → UInt8) (length : Nat)
    (driver : FlashDriver) (at_offset : addr % 4096 = offset) :
    driver.putBytes addr buf (sectorPart offset length) =
      if 4096 ≤ offset + sectorPart offset length then
        (driver.copyCache offset buf (sectorPart offset length)).nextSector
      else driver.copyCache offset buf (sectorPart offset length) := by
  have bound := offset.isLt
  have fits := sectorPart_fits offset length
  by_cases full : 4096 ≤ offset + sectorPart offset length
  · rw [if_pos full, putBytes_to_end buf driver (by omega), at_offset]
  · rw [if_neg full, putBytes_in_sector buf driver (by omega), at_offset]

theorem fastWriteLoop_eq (addr : Nat) (offset : Fin 4096) (buf : Nat → UInt8) (length : Nat)
    (driver : FlashDriver) (at_offset : addr % 4096 = offset) :
    fastWriteLoop offset buf length driver = driver.putBytes addr buf length := by
  induction length using Nat.strongRecOn generalizing addr offset buf driver with
  | ind length ih =>
      rw [fastWriteLoop]
      by_cases done : length = 0
      · simp only [done, if_pos, putBytes]
      · have part := sectorPart_pos offset done
        have most := sectorPart_le offset length
        simp only [done, if_false]
        rw [← putBytes_sectorPart buf length driver at_offset]
        by_cases last : sectorPart offset length = length
        · rw [last, Nat.sub_self, fastWriteLoop, if_pos rfl]
        · have full := sectorPart_full last
          rw [ih _ (by omega) (addr + sectorPart offset length) 0 _ _ (by
            show _ = 0
            omega), ← putBytes_add]
          congr 1
          omega

theorem enterSector_same {sector : Nat} {driver : FlashDriver} (there : driver.gsSector = sector) :
    driver.enterSector sector = driver := by
  subst there
  rw [enterSector]
  simp

@[simp] theorem enterSector_gsSector (sector : Nat) (driver : FlashDriver) :
    (driver.enterSector sector).gsSector = sector := rfl

@[simp] theorem enterSector_densityCode (sector : Nat) (driver : FlashDriver) :
    (driver.enterSector sector).densityCode = driver.densityCode := by
  rw [enterSector]
  dsimp only
  split
  · exact driver.flushSector_densityCode
  · rfl

theorem enterSector_outside {sector index : Nat} {driver : FlashDriver}
    (outside : sector ≠ driver.gsSector → driver.gsSector ≠ 0 →
      index / 4096 ≠ driver.gsSector % 256) :
    (driver.enterSector sector).cells index = driver.cells index := by
  rw [enterSector]
  dsimp only
  split
  · rename_i left
    exact driver.flushSector_outside (outside left.1 left.2)
  · rfl

theorem tlsFlsFastWrite_eq (addr : UInt32) (buf : Nat → UInt8) (length : Nat)
    (driver : FlashDriver) :
    driver.tlsFlsFastWrite addr buf length =
      if driver.inChip addr = false ∨ length = 0 then none
      else some ((driver.enterSector (addr.toNat / 4096)).putBytes addr.toNat buf length) := by
  rw [tlsFlsFastWrite, fastWriteLoop_eq addr.toNat]
  rfl

theorem inChip_congr {first second : FlashDriver} (same : first.densityCode = second.densityCode)
    (addr : UInt32) : first.inChip addr = second.inChip addr := by
  rw [inChip, density, same]
  rfl

def imageWritten (base : UInt32) (image : Nat → UInt8) (driver : FlashDriver) : Nat → FlashDriver
  | 0 => driver
  | count + 1 => (driver.enterSector (base.toNat / 4096)).putBytes base.toNat image (count + 1)

@[simp] theorem imageWritten_densityCode (base : UInt32) (image : Nat → UInt8)
    (driver : FlashDriver) (count : Nat) :
    (driver.imageWritten base image count).densityCode = driver.densityCode := by
  cases count with
  | zero => rfl
  | succ count => rw [imageWritten, putBytes_densityCode, enterSector_densityCode]

/-- The next bytes of an image continue it. -/
theorem tlsFlsFastWrite_imageWritten {base : UInt32} {image buf : Nat → UInt8} {count len : Nat}
    {driver : FlashDriver} (filled : len ≠ 0) (wraps : base.toNat + count < 4294967296)
    (inside : driver.inChip (base + UInt32.ofNat count) = true)
    (agree : ∀ index, index < len → buf index = image (count + index)) :
    (driver.imageWritten base image count).tlsFlsFastWrite (base + UInt32.ofNat count) buf len =
      some (driver.imageWritten base image (count + len)) := by
  have addr : (base + UInt32.ofNat count).toNat = base.toNat + count := by
    rw [UInt32.toNat_add, UInt32.toNat_ofNat']
    omega
  have chip := (inChip_congr (imageWritten_densityCode base image driver count) _).trans inside
  rw [tlsFlsFastWrite_eq, if_neg (by simp [chip, filled]), addr]
  obtain ⟨rest, rfl⟩ : ∃ rest, len = rest + 1 := ⟨len - 1, by omega⟩
  have shown := putBytes_congr (base.toNat + count) agree
  cases count with
  | zero =>
      rw [shown, imageWritten, Nat.zero_add]
      simp only [Nat.zero_add, Nat.add_zero]
      rfl
  | succ count =>
      have there : ((driver.enterSector (base.toNat / 4096)).putBytes base.toNat image
          (count + 1)).gsSector = (base.toNat + (count + 1)) / 4096 :=
        putBytes_gsSector image (count + 1) rfl
      rw [imageWritten, enterSector_same there, shown, ← putBytes_add]
      rfl

/-- The write of an image part does not flush the sector: not the cached one that it leaves,
and none that it fills. -/
def Spares (sector : Nat) (addr : UInt32) (length : Nat) (driver : FlashDriver) : Prop :=
  (addr.toNat / 4096 ≠ driver.gsSector → driver.gsSector ≠ 0 →
    driver.gsSector % 256 ≠ sector) ∧
  ∀ passed, addr.toNat / 4096 ≤ passed → passed < (addr.toNat + length) / 4096 →
    passed % 256 ≠ sector

theorem tlsFlsFastWrite_spares {addr : UInt32} {buf : Nat → UInt8} {length index : Nat}
    {driver written : FlashDriver} (done : driver.tlsFlsFastWrite addr buf length = some written)
    (spared : driver.Spares (index / 4096) addr length) :
    written.cells index = driver.cells index := by
  rw [tlsFlsFastWrite_eq] at done
  split at done
  · cases done
  · cases done
    rw [putBytes_outside buf length (enterSector_gsSector _ _)]
    · apply enterSector_outside
      intro other cached
      exact (spared.1 other cached).symm
    · intro sector low high
      exact (spared.2 sector low high).symm

end FlashDriver

end SmartMeter
