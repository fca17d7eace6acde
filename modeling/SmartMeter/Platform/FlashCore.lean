import SmartMeter.Library.Buffer

/-!
`wm_internal_fls.c`: the internal flash with its sectors of 4096 and pages of 256 bytes, the
write of single records and the cached write of images. The chip decodes 20 address bits.
-/

namespace SmartMeter

/-- `dataRegs` is what a read leaves in the data registers behind its last byte. -/
structure FlashDriver where
  densityCode : UInt8
  dataRegs : Nat → UInt8
  cells : Nat → UInt8
  gsflscache : Option (Nat → UInt8)
  gsSector : Nat

def eraseSector (addr : Nat) (cells : Nat → UInt8) : Nat → UInt8 :=
  fun index => if index / 4096 = addr % 1048576 / 4096 then 0xFF else cells index

/-- Programming only clears bits. -/
def programPage (addr : Nat) (buf cells : Nat → UInt8) : Nat → UInt8 :=
  fun index => if index / 256 = addr % 1048576 / 256 then cells index &&& buf (index % 256)
    else cells index

def programSector (sector : Nat) (cache cells : Nat → UInt8) : Nat → UInt8 :=
  (List.range 16).foldl (fun cells page =>
    programPage (sector * 4096 + page * 256) (fun index => cache (page * 256 + index)) cells) cells

def getFlashDensity (code : UInt8) : Nat :=
  if code = 0x14 ∨ code = 0x13 then 1 <<< code.toNat else 0

def clearBack (last : Nat) : Nat → (Nat → UInt8) → Nat → UInt8
  | 0, memory => memory
  | count + 1, memory => clearBack (last - 1) count (Function.update memory last 0)

namespace FlashDriver

def density (driver : FlashDriver) : Nat :=
  getFlashDensity driver.densityCode

/-- `buf` is an offset in `memory`. -/
def readByCMD (addr buf sz : Nat) (driver : FlashDriver) (memory : Nat → UInt8) : Nat → UInt8 :=
  let regs := fun index =>
    if index < sz then driver.cells ((addr + index) % 1048576) else driver.dataRegs index
  let word := sz / 4
  let byte := sz % 4
  let memory := Buffer.copy memory buf regs (4 * word)
  if byte > 0 then
    let memory := Buffer.copy memory (buf + 4 * word) (fun index => regs (4 * word + index)) 4
    clearBack (buf + 4 * word + 3) byte memory
  else memory

/-- `memory` is the memory from the buffer on. -/
def flashRead (addr sz : Nat) (driver : FlashDriver) (memory : Nat → UInt8) : Nat → UInt8 :=
  let memory := (List.range (sz / 256)).foldl (fun memory i =>
    driver.readByCMD (addr + 256 * i) (256 * i) 256 memory) memory
  if sz % 256 > 0 then
    driver.readByCMD (addr + 256 * (sz / 256)) (256 * (sz / 256)) (sz % 256) memory
  else memory

/-- `addr & (INSIDE_FLS_BASE_ADDR - 1)` lies in the chip. -/
def inChip (driver : FlashDriver) (addr : UInt32) : Bool :=
  addr.toNat % 134217728 < driver.density

def tlsFlsRead (addr : UInt32) (len : Nat) (driver : FlashDriver) (memory : Nat → UInt8) :
    Option (Nat → UInt8) :=
  if driver.inChip addr = false ∨ len = 0 then none
  else some (driver.flashRead addr.toNat len memory)

/-- One sector of `tls_fls_write`: read, erased, changed in the cache and written back. -/
def rewriteSector (memory : Nat → UInt8) (sector secoff : Nat) (buf : Nat → UInt8)
    (secremain : Nat) (driver : FlashDriver) : FlashDriver :=
  let cache := Buffer.copy (driver.flashRead (sector * 4096) 4096 memory) secoff buf secremain
  { driver with cells := programSector sector cache (eraseSector (sector * 4096) driver.cells) }

def sectorPart (offset : Fin 4096) (len : Nat) : Nat :=
  if len ≤ 4096 - offset.val then len else 4096 - offset.val

theorem sectorPart_pos (offset : Fin 4096) {len : Nat} (more : len ≠ 0) :
    0 < sectorPart offset len := by
  have bound := offset.isLt
  rw [sectorPart]
  split
  · omega
  · omega

def flsWriteLoop (memory : Nat → UInt8) (sector : Nat) (secoff : Fin 4096) (buf : Nat → UInt8)
    (len : Nat) (driver : FlashDriver) : FlashDriver :=
  let secremain := sectorPart secoff len
  if len = 0 then driver
  else flsWriteLoop memory (sector + 1) 0 (fun index => buf (secremain + index)) (len - secremain)
    (driver.rewriteSector memory sector secoff buf secremain)
termination_by len
decreasing_by
  have more := sectorPart_pos secoff (by assumption)
  omega

/-- `memory` is what the memory for the sector cache holds, `none` if there is none. The result
is `none` for an error. -/
def tlsFlsWrite (memory : Option (Nat → UInt8)) (addr : UInt32) (buf : Nat → UInt8) (len : Nat)
    (driver : FlashDriver) : Option FlashDriver :=
  if driver.inChip addr = false ∨ len = 0 then none
  else memory.map fun memory =>
    let offaddr := addr.toNat % 134217728
    driver.flsWriteLoop memory (offaddr / 4096) ⟨offaddr % 4096, Nat.mod_lt _ (by omega)⟩ buf len

/-- `none` for `TLS_FLS_STATUS_EINVAL`. -/
def tlsFlsErase (sector : Nat) (driver : FlashDriver) : Option FlashDriver :=
  if driver.density / 4096 + 32768 ≤ sector then none
  else some { driver with cells := eraseSector (sector * 4096) driver.cells }

/-- The pages are programmed whether the sector was erased or not. -/
def flushSector (driver : FlashDriver) : FlashDriver :=
  match driver.gsflscache with
  | none => driver
  | some cache =>
      let driver := (driver.tlsFlsErase driver.gsSector).getD driver
      { driver with cells := programSector driver.gsSector cache driver.cells }

/-- `cache` is what the allocated memory holds. -/
def fastWriteInit (cache : Nat → UInt8) (driver : FlashDriver) : FlashDriver :=
  match driver.gsflscache with
  | none => { driver with gsflscache := some cache }
  | some _ => driver

def fastWriteDestroy (driver : FlashDriver) : FlashDriver :=
  { driver.flushSector with gsflscache := none }

def copyCache (offset : Nat) (buf : Nat → UInt8) (len : Nat) (driver : FlashDriver) : FlashDriver :=
  { driver with
    gsflscache := driver.gsflscache.map fun cache => Buffer.copy cache offset buf len }

def nextSector (driver : FlashDriver) : FlashDriver :=
  let driver := driver.flushSector
  { driver with gsSector := driver.gsSector + 1 }

def fastWriteLoop (offset : Fin 4096) (buf : Nat → UInt8) (length : Nat) (driver : FlashDriver) :
    FlashDriver :=
  let len := sectorPart offset length
  if length = 0 then driver
  else
    let driver := driver.copyCache offset buf len
    let driver := if 4096 ≤ offset + len then driver.nextSector else driver
    fastWriteLoop 0 (fun index => buf (len + index)) (length - len) driver
termination_by length
decreasing_by
  have more := sectorPart_pos offset (by assumption)
  omega

def enterSector (sector : Nat) (driver : FlashDriver) : FlashDriver :=
  let driver :=
    if sector ≠ driver.gsSector ∧ driver.gsSector ≠ 0 then driver.flushSector else driver
  { driver with gsSector := sector }

/-- `none` for `TLS_FLS_STATUS_EINVAL`. -/
def tlsFlsFastWrite (addr : UInt32) (buf : Nat → UInt8) (length : Nat) (driver : FlashDriver) :
    Option FlashDriver :=
  if driver.inChip addr = false ∨ length = 0 then none
  else some (fastWriteLoop ⟨addr.toNat % 4096, Nat.mod_lt _ (by omega)⟩ buf length
    (driver.enterSector (addr.toNat / 4096)))

end FlashDriver

end SmartMeter
