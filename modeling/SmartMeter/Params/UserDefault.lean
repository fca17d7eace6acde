import SmartMeter.Params.ParamStore
import SmartMeter.Platform.FlashWrite

/-!
`tls_param_save_user_default` and `tls_param_load_user`: the parameter set that the user can go
back to, between its magic number and its checksum in the flash.
-/

namespace SmartMeter

open FlashDriver

def tlsFlashParamDefault : UInt32 := 0x80EF000

def tlsUserMagic : UInt32 := 0x574D3031

def sizeofSysParam : Nat := 704

def SysParam.bytes (param : SysParam) (index : Nat) : UInt8 :=
  if inside : index < 704 then param ⟨index, inside⟩ else 0

theorem SysParam.bytes_apply (param : SysParam) (index : Fin 704) :
    SysParam.bytes param index = param index :=
  dif_pos index.isLt

namespace FlashDriver

def writeUnchecked (memory : Option (Nat → UInt8)) (addr : UInt32) (buf : Nat → UInt8) (len : Nat)
    (driver : FlashDriver) : FlashDriver :=
  (driver.tlsFlsWrite memory addr buf len).getD driver

/-- A read whose status is dropped: without success the memory stays as it is. -/
def readUnchecked (addr : UInt32) (len : Nat) (driver : FlashDriver) (memory : Nat → UInt8) :
    Nat → UInt8 :=
  (driver.tlsFlsRead addr len memory).getD memory

/-- `caches` is the memory that each of the three writes gets for its sector. -/
def tlsParamSaveUserDefault (caches : Nat → Option (Nat → UInt8)) (userDefaultParam : SysParam)
    (driver : FlashDriver) : ParamStatus × FlashDriver :=
  let offset := tlsFlashParamDefault
  let driver := driver.writeUnchecked (caches 0) offset (byteOf tlsUserMagic.toNat) 4
  let offset := offset + 4
  let driver := driver.writeUnchecked (caches 1) offset (SysParam.bytes userDefaultParam)
    sizeofSysParam
  let offset := offset + UInt32.ofNat sizeofSysParam
  let crc32 := getCrc32 (SysParam.bytes userDefaultParam) sizeofSysParam
  let driver := driver.writeUnchecked (caches 2) offset (byteOf crc32.toNat) 4
  (.ok, driver)

end FlashDriver

structure LoadBuffers where
  magic : Nat → UInt8
  param : Nat → UInt8
  crc32 : Nat → UInt8

namespace FlashDriver

def tlsParamLoadUser (buffers : LoadBuffers) (driver : FlashDriver) :
    ParamStatus × (Nat → UInt8) :=
  let offset := tlsFlashParamDefault
  let magic := driver.readUnchecked offset 4 buffers.magic
  if tlsUserMagic ≠ UInt32.ofNat (wordAt magic 0 4) then (.einvalid, buffers.param)
  else
    let offset := offset + 4
    let param := Buffer.fill buffers.param 0 sizeofSysParam
    let param := driver.readUnchecked offset sizeofSysParam param
    let offset := offset + UInt32.ofNat sizeofSysParam
    let crc32 := driver.readUnchecked offset 4 buffers.crc32
    if UInt32.ofNat (wordAt crc32 0 4) ≠ getCrc32 param sizeofSysParam then (.einvalid, param)
    else (.ok, param)

/-- Where the record lies in the chip: the magic number, the parameters and their checksum. -/
@[irreducible] def recordStart : Nat := 0xEF000

def recordMagic (driver : FlashDriver) : UInt32 :=
  UInt32.ofNat (wordAt driver.cells recordStart 4)

def recordParam (driver : FlashDriver) (index : Nat) : UInt8 :=
  driver.cells (recordStart + 4 + index)

def recordCrc32 (driver : FlashDriver) : UInt32 :=
  UInt32.ofNat (wordAt driver.cells (recordStart + 708) 4)

def HasRecord (driver : FlashDriver) : Prop := driver.InRange tlsFlashParamDefault 712

def ValidRecord (driver : FlashDriver) : Prop :=
  driver.HasRecord ∧ driver.recordMagic = tlsUserMagic ∧
    driver.recordCrc32 = getCrc32 driver.recordParam sizeofSysParam

/-- What is saved is loaded, the rest of the flash stays, and nothing but a valid record is ever
loaded. -/
def UserDefaultKept (caches : Nat → Option (Nat → UInt8)) (buffers : LoadBuffers)
    (param : SysParam) (driver : FlashDriver) : Prop :=
  let saved := (driver.tlsParamSaveUserDefault caches param).2
  let loaded := saved.tlsParamLoadUser buffers
  (loaded.1 = .ok ∧ (∀ index : Fin 704, loaded.2 index = param index) ∧
    ∀ index, index < recordStart ∨ recordStart + 712 ≤ index →
      saved.cells index = driver.cells index) ∧
  ((driver.tlsParamLoadUser buffers).1 = .ok → driver.ValidRecord)

/-- The chip has room for the record, and a write that gets no memory for its sector is one that
would change nothing. -/
def SaveSucceeds (caches : Nat → Option (Nat → UInt8)) (param : SysParam)
    (driver : FlashDriver) : Prop :=
  driver.HasRecord ∧ (caches 0 = none → driver.recordMagic = tlsUserMagic) ∧
    (caches 1 = none → ∀ index : Fin 704, driver.recordParam index = param index) ∧
    (caches 2 = none → driver.recordCrc32 = getCrc32 (SysParam.bytes param) sizeofSysParam)

theorem flsWriteLoop_frame (memory : Nat → UInt8) (sector : Nat) (secoff : Fin 4096)
    (buf : Nat → UInt8) (len : Nat) (driver : FlashDriver) :
    ∃ cells, driver.flsWriteLoop memory sector secoff buf len = { driver with cells := cells } := by
  induction len using Nat.strongRecOn generalizing sector secoff buf driver with
  | ind len ih =>
      rw [flsWriteLoop]
      by_cases done : len = 0
      · exact ⟨driver.cells, if_pos done⟩
      · have part := sectorPart_pos secoff done
        simp only [done, if_false]
        obtain ⟨cells, rest⟩ := ih (len - sectorPart secoff len) (by omega) (sector + 1) 0
          (fun index => buf (sectorPart secoff len + index))
          (driver.rewriteSector memory sector secoff buf (sectorPart secoff len))
        exact ⟨cells, rest⟩

def overlayIf (memory : Option (Nat → UInt8)) (start : Nat) (buf : Nat → UInt8) (count : Nat)
    (cells : Nat → UInt8) : Nat → UInt8 :=
  if memory.isSome then overlay start buf count cells else cells

theorem overlayIf_inside (memory : Option (Nat → UInt8)) {start count index : Nat}
    (inside : index < count) (buf cells : Nat → UInt8) :
    overlayIf memory start buf count cells (start + index) =
      if memory.isSome then buf index else cells (start + index) := by
  rw [overlayIf]
  split
  · rw [overlay, if_pos (by omega), Nat.add_sub_cancel_left]
  · rfl

theorem overlayIf_outside (memory : Option (Nat → UInt8)) {start count index : Nat}
    (outside : index < start ∨ start + count ≤ index) (buf cells : Nat → UInt8) :
    overlayIf memory start buf count cells index = cells index := by
  rw [overlayIf]
  split
  · rw [overlay, if_neg (by omega)]
  · rfl

theorem writeUnchecked_eq {memory : Option (Nat → UInt8)} {addr : UInt32} {len : Nat}
    {driver : FlashDriver} (range : driver.InRange addr len) (some_len : len ≠ 0)
    (buf : Nat → UInt8) :
    driver.writeUnchecked memory addr buf len =
      { driver with cells := overlayIf memory (addr.toNat % 134217728) buf len driver.cells } := by
  have accepted : ¬(driver.inChip addr = false ∨ len = 0) := by
    rintro (out | nothing)
    · exact absurd (range.inChip some_len) (by rw [out]; decide)
    · exact some_len nothing
  cases memory with
  | none =>
      rw [writeUnchecked, tlsFlsWrite, if_neg accepted]
      rfl
  | some memory =>
      obtain ⟨cells, frame⟩ := flsWriteLoop_frame memory (addr.toNat % 134217728 / 4096)
        ⟨addr.toNat % 134217728 % 4096, Nat.mod_lt _ (by omega)⟩ buf len driver
      have done : driver.tlsFlsWrite (some memory) addr buf len =
          some { driver with cells := cells } := by
        rw [tlsFlsWrite, if_neg accepted, Option.map_some, frame]
      have laid := tlsFlsWrite_cells range done
      rw [writeUnchecked, done, Option.getD_some]
      exact congrArg (fun cells => { driver with cells := cells }) laid

theorem writeUnchecked_outside {memory : Option (Nat → UInt8)} {addr : UInt32}
    {driver : FlashDriver} (outside : driver.inChip addr = false) (buf : Nat → UInt8) (len : Nat) :
    driver.writeUnchecked memory addr buf len = driver := by
  rw [writeUnchecked, tlsFlsWrite, if_pos (.inl outside)]
  rfl

theorem readUnchecked_spec {addr : UInt32} {len : Nat} {driver : FlashDriver}
    (range : driver.InRange addr len) (some_len : len ≠ 0) (words : len % 4 = 0)
    (memory : Nat → UInt8) {index : Nat} (inside : index < len) :
    driver.readUnchecked addr len memory index =
      driver.cells (addr.toNat % 134217728 + index) := by
  obtain ⟨read, done, same, -⟩ := (readsExactly_iff some_len range).mpr (.inl words)
  rw [readUnchecked, done]
  exact same index inside

section Record

variable {driver : FlashDriver}

theorem magic_address : tlsFlashParamDefault.toNat % 134217728 = recordStart := by
  unfold recordStart
  decide

theorem param_address : (tlsFlashParamDefault + 4).toNat % 134217728 = recordStart + 4 := by
  unfold recordStart
  decide

theorem crc32_address : (tlsFlashParamDefault + 4 + UInt32.ofNat sizeofSysParam).toNat % 134217728 =
    recordStart + 708 := by
  unfold recordStart
  decide

theorem hasRecord_iff : driver.HasRecord ↔ recordStart + 712 ≤ driver.density := by
  rw [HasRecord, InRange, magic_address]

theorem HasRecord.magic (has : driver.HasRecord) : driver.InRange tlsFlashParamDefault 4 := by
  rw [InRange, magic_address]
  exact Nat.le_trans (by omega) (hasRecord_iff.mp has)

theorem HasRecord.param (has : driver.HasRecord) :
    driver.InRange (tlsFlashParamDefault + 4) sizeofSysParam := by
  rw [InRange, param_address, sizeofSysParam]
  exact Nat.le_trans (by omega) (hasRecord_iff.mp has)

theorem HasRecord.crc32 (has : driver.HasRecord) :
    driver.InRange (tlsFlashParamDefault + 4 + UInt32.ofNat sizeofSysParam) 4 := by
  rw [InRange, crc32_address]
  exact Nat.le_trans (by omega) (hasRecord_iff.mp has)

theorem read_recordMagic (has : driver.HasRecord) (memory : Nat → UInt8) :
    UInt32.ofNat (wordAt (driver.readUnchecked tlsFlashParamDefault 4 memory) 0 4) =
      driver.recordMagic := by
  refine congrArg UInt32.ofNat (wordAt_congr ?_)
  intro index inside
  rw [Nat.zero_add, readUnchecked_spec has.magic (by decide) rfl memory inside, magic_address]

theorem read_recordParam (has : driver.HasRecord) (memory : Nat → UInt8) {index : Nat}
    (inside : index < sizeofSysParam) :
    driver.readUnchecked (tlsFlashParamDefault + 4) sizeofSysParam memory index =
      driver.recordParam index := by
  rw [readUnchecked_spec has.param (by decide) rfl memory inside, param_address, recordParam]

theorem read_recordCrc32 (has : driver.HasRecord) (memory : Nat → UInt8) :
    UInt32.ofNat (wordAt (driver.readUnchecked
      (tlsFlashParamDefault + 4 + UInt32.ofNat sizeofSysParam) 4 memory) 0 4) =
      driver.recordCrc32 := by
  refine congrArg UInt32.ofNat (wordAt_congr ?_)
  intro index inside
  rw [Nat.zero_add, readUnchecked_spec has.crc32 (by decide) rfl memory inside, crc32_address]

theorem tlsParamLoadUser_ok (has : driver.HasRecord) (buffers : LoadBuffers) :
    (driver.tlsParamLoadUser buffers).1 = .ok ↔ driver.ValidRecord := by
  have sum := getCrc32_congr fun index inside =>
    read_recordParam has (Buffer.fill buffers.param 0 sizeofSysParam) inside
  rw [tlsParamLoadUser]
  simp only [read_recordMagic has, read_recordCrc32 has, sum]
  constructor
  · intro ok
    split at ok
    · cases ok
    · rename_i magic
      split at ok
      · cases ok
      · rename_i crc32
        exact ⟨has, (not_not.mp magic).symm, not_not.mp crc32⟩
  · rintro ⟨-, magic, crc32⟩
    rw [if_neg (not_not_intro magic.symm), if_neg (not_not_intro crc32)]

theorem tlsParamLoadUser_param {buffers : LoadBuffers} (valid : driver.ValidRecord) {index : Nat}
    (inside : index < sizeofSysParam) :
    (driver.tlsParamLoadUser buffers).2 index = driver.recordParam index := by
  obtain ⟨has, magic, crc32⟩ := valid
  have sum := getCrc32_congr fun index inside =>
    read_recordParam has (Buffer.fill buffers.param 0 sizeofSysParam) inside
  rw [tlsParamLoadUser]
  simp only [read_recordMagic has, read_recordCrc32 has, sum]
  rw [if_neg (not_not_intro magic.symm), if_neg (not_not_intro crc32)]
  exact read_recordParam has _ inside

variable (caches : Nat → Option (Nat → UInt8)) (param : SysParam)

def savedCells (driver : FlashDriver) : Nat → UInt8 :=
  overlayIf (caches 2) (recordStart + 708)
    (byteOf (getCrc32 (SysParam.bytes param) sizeofSysParam).toNat) 4
    (overlayIf (caches 1) (recordStart + 4) (SysParam.bytes param) sizeofSysParam
      (overlayIf (caches 0) recordStart (byteOf tlsUserMagic.toNat) 4 driver.cells))

def saved (driver : FlashDriver) : FlashDriver :=
  { driver with cells := driver.savedCells caches param }

theorem tlsParamSaveUserDefault_eq (has : driver.HasRecord) :
    driver.tlsParamSaveUserDefault caches param =
      (.ok, driver.saved caches param) := by
  have first := @writeUnchecked_eq (caches 0) _ _ driver has.magic (by decide)
    (byteOf tlsUserMagic.toNat)
  have second (cells : Nat → UInt8) := @writeUnchecked_eq (caches 1) _ _
    { driver with cells := cells } has.param (by decide) (SysParam.bytes param)
  have third (cells : Nat → UInt8) := @writeUnchecked_eq (caches 2) _ _
    { driver with cells := cells } has.crc32 (by decide)
    (byteOf (getCrc32 (SysParam.bytes param) sizeofSysParam).toNat)
  rw [magic_address] at first
  simp only [param_address] at second
  simp only [crc32_address] at third
  simp only [tlsParamSaveUserDefault, first, second, third]
  rfl

theorem density_cases (driver : FlashDriver) :
    driver.density = 1048576 ∨ driver.density ≤ 524288 := by
  rw [density, getFlashDensity]
  split
  · rename_i known
    rcases known with same | same
    · exact .inl (by rw [same]; decide)
    · exact .inr (by rw [same]; decide)
  · exact .inr (by decide)

/-- A chip that has no room for the record is left alone. -/
theorem tlsParamSaveUserDefault_outside (outside : ¬driver.HasRecord) :
    (driver.tlsParamSaveUserDefault caches param).2 = driver := by
  have small : driver.density ≤ recordStart := by
    rcases density_cases driver with large | large
    · exact absurd (hasRecord_iff.mpr (by rw [large, recordStart]; decide)) outside
    · exact Nat.le_trans large (by rw [recordStart]; decide)
  have refused {addr : UInt32} {distance : Nat}
      (address : addr.toNat % 134217728 = recordStart + distance) : driver.inChip addr = false := by
    rw [inChip, address, decide_eq_false_iff_not]
    exact Nat.not_lt.mpr (Nat.le_add_right_of_le small)
  have first := @refused tlsFlashParamDefault 0 magic_address
  simp only [tlsParamSaveUserDefault, writeUnchecked_outside first,
    writeUnchecked_outside (refused param_address),
    writeUnchecked_outside (refused crc32_address)]

theorem savedCells_outside {index : Nat}
    (outside : index < recordStart ∨ recordStart + 712 ≤ index) :
    driver.savedCells caches param index = driver.cells index := by
  rw [savedCells, sizeofSysParam]
  generalize recordStart = start at outside ⊢
  rw [overlayIf_outside _ (by omega), overlayIf_outside _ (by omega),
    overlayIf_outside _ (by omega)]

theorem saved_recordMagic :
    (driver.saved caches param).recordMagic =
      if (caches 0).isSome then tlsUserMagic else driver.recordMagic := by
  have laid {index : Nat} (inside : index < 4) :
      driver.savedCells caches param (recordStart + index) =
        if (caches 0).isSome then byteOf tlsUserMagic.toNat index
        else driver.cells (recordStart + index) := by
    rw [savedCells, overlayIf_outside _ (by omega), overlayIf_outside _ (by omega),
      overlayIf_inside _ inside]
  split
  · rename_i given
    exact wordAt_byteOf _ fun index inside => (laid inside).trans (if_pos given)
  · rename_i given
    exact congrArg UInt32.ofNat (wordAt_congr fun index inside =>
      (laid inside).trans (if_neg given))

theorem saved_recordParam {index : Nat} (inside : index < sizeofSysParam) :
    (driver.saved caches param).recordParam index =
      if (caches 1).isSome then SysParam.bytes param index else driver.recordParam index := by
  have size : sizeofSysParam = 704 := rfl
  show driver.savedCells caches param (recordStart + 4 + index) = _
  rw [savedCells, overlayIf_outside _ (by omega), overlayIf_inside _ inside]
  split
  · rfl
  · rw [overlayIf_outside _ (by omega)]
    rfl

theorem saved_recordCrc32 :
    (driver.saved caches param).recordCrc32 =
      if (caches 2).isSome then getCrc32 (SysParam.bytes param) sizeofSysParam
      else driver.recordCrc32 := by
  have size : sizeofSysParam = 704 := rfl
  have laid {index : Nat} (inside : index < 4) :
      driver.savedCells caches param (recordStart + 708 + index) =
        if (caches 2).isSome then
          byteOf (getCrc32 (SysParam.bytes param) sizeofSysParam).toNat index
        else driver.cells (recordStart + 708 + index) := by
    rw [savedCells, overlayIf_inside _ inside]
    split
    · rfl
    · rw [overlayIf_outside _ (by omega), overlayIf_outside _ (by omega)]
  split
  · rename_i given
    exact wordAt_byteOf _ fun index inside => (laid inside).trans (if_pos given)
  · rename_i given
    exact congrArg UInt32.ofNat (wordAt_congr fun index inside =>
      (laid inside).trans (if_neg given))

theorem HasRecord.saved (has : driver.HasRecord) : (driver.saved caches param).HasRecord := has

/-- A set that is loaded was written, or was there. -/
theorem saveSucceeds_of_kept {caches : Nat → Option (Nat → UInt8)} {param : SysParam}
    (has : driver.HasRecord) {buffers : LoadBuffers}
    (kept : UserDefaultKept caches buffers param driver) : SaveSucceeds caches param driver := by
  rw [UserDefaultKept, tlsParamSaveUserDefault_eq caches param has] at kept
  obtain ⟨⟨ok, same, -⟩, -⟩ := kept
  have valid := (tlsParamLoadUser_ok (has.saved caches param) buffers).mp ok
  have params (index : Fin 704) : (driver.saved caches param).recordParam index = param index :=
    (tlsParamLoadUser_param valid index.isLt).symm.trans (same index)
  refine ⟨has, ?_, ?_, ?_⟩
  · intro missing
    have magic := valid.2.1
    rwa [saved_recordMagic, missing, if_neg (by decide)] at magic
  · intro missing index
    have before := params index
    rwa [saved_recordParam caches param index.isLt, missing, if_neg (by decide)] at before
  · intro missing
    have crc32 := valid.2.2
    rw [saved_recordCrc32, missing, if_neg (by decide)] at crc32
    exact crc32.trans (getCrc32_congr fun index inside =>
      (params ⟨index, inside⟩).trans (SysParam.bytes_apply param ⟨index, inside⟩).symm)

section SaveSucceeds

variable {caches param} (succeeds : SaveSucceeds caches param driver)

include succeeds

theorem SaveSucceeds.recordParam {index : Nat} (inside : index < sizeofSysParam) :
    (driver.saved caches param).recordParam index = SysParam.bytes param index := by
  rw [saved_recordParam caches param inside]
  split
  · rfl
  · rename_i missing
    have before := succeeds.2.2.1 (Option.not_isSome_iff_eq_none.mp missing) ⟨index, inside⟩
    exact before.trans (SysParam.bytes_apply param ⟨index, inside⟩).symm

theorem SaveSucceeds.validRecord : (driver.saved caches param).ValidRecord := by
  have sum : getCrc32 (driver.saved caches param).recordParam sizeofSysParam =
      getCrc32 (SysParam.bytes param) sizeofSysParam :=
    getCrc32_congr fun index inside => succeeds.recordParam inside
  refine ⟨succeeds.1.saved caches param, ?_, ?_⟩
  · rw [saved_recordMagic]
    split
    · rfl
    · rename_i missing
      exact succeeds.2.1 (Option.not_isSome_iff_eq_none.mp missing)
  · rw [saved_recordCrc32, sum]
    split
    · rfl
    · rename_i missing
      exact succeeds.2.2.2 (Option.not_isSome_iff_eq_none.mp missing)

theorem SaveSucceeds.kept (buffers : LoadBuffers) :
    UserDefaultKept caches buffers param driver := by
  have has := succeeds.1
  have valid := succeeds.validRecord
  rw [UserDefaultKept, tlsParamSaveUserDefault_eq caches param has]
  refine ⟨⟨(tlsParamLoadUser_ok valid.1 buffers).mpr valid, ?_, ?_⟩, ?_⟩
  · intro index
    rw [tlsParamLoadUser_param valid index.isLt, succeeds.recordParam index.isLt,
      SysParam.bytes_apply]
  · intro index outside
    exact savedCells_outside caches param outside
  · exact (tlsParamLoadUser_ok has buffers).mp

end SaveSucceeds

end Record

/-- Saving and loading the user's defaults works exactly where the chip has room for the record
and every write gets its memory, or has nothing to change. -/
theorem userDefaultKept_iff (caches : Nat → Option (Nat → UInt8)) (buffers : LoadBuffers)
    (param : SysParam) (driver : FlashDriver) :
    UserDefaultKept caches buffers param driver ↔ SaveSucceeds caches param driver := by
  by_cases has : driver.HasRecord
  · exact ⟨saveSucceeds_of_kept has, fun succeeds => succeeds.kept buffers⟩
  · constructor
    · rintro ⟨⟨ok, -⟩, sound⟩
      rw [tlsParamSaveUserDefault_outside caches param has] at ok
      exact absurd (sound ok).1 has
    · intro succeeds
      exact absurd succeeds.1 has

theorem blank_hasRecord : blank.HasRecord := by
  rw [hasRecord_iff, recordStart]
  decide

/-- Without memory for a sector nothing reaches an erased chip, and the save reports success. -/
theorem no_memory_not_userDefaultKept :
    (blank.tlsParamSaveUserDefault (fun _ => none) fun _ => 0).1 = .ok ∧
      ¬UserDefaultKept (fun _ => none) ⟨fun _ => 0, fun _ => 0, fun _ => 0⟩ (fun _ => 0) blank := by
  refine ⟨rfl, ?_⟩
  intro kept
  obtain ⟨-, magic, -⟩ := saveSucceeds_of_kept blank_hasRecord kept
  exact absurd (magic rfl) (by decide)

end FlashDriver

end SmartMeter
