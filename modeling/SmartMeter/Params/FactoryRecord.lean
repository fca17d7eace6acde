import SmartMeter.Fwup.FwupCore
import SmartMeter.Params.UserDefault

/-!
`wm_efuse.c`: the MAC address and the calibration of the radio, which the factory leaves in the
first 128 bytes of the flash with a signature and a checksum in front.
-/

namespace SmartMeter

open FlashDriver

def ftMagicnumAddr : UInt32 := 0x8000000

def signatureWord : UInt32 := 0xA0FFFF9F

def sizeofFtParam : Nat := 128

/-- A field of `FT_PARAM_ST`. `limited` is whether the caller's length counts. -/
structure FtField where
  offset : Nat
  size : Nat
  limited : Bool

def cmdMac : FtField := ⟨12, 8, false⟩
def cmdTxDc : FtField := ⟨20, 4, false⟩
def cmdRxDc : FtField := ⟨24, 4, false⟩
def cmdTxIqGain : FtField := ⟨28, 4, false⟩
def cmdRxIqGain : FtField := ⟨32, 4, false⟩
def cmdTxIqPhase : FtField := ⟨36, 4, false⟩
def cmdRxIqPhase : FtField := ⟨40, 4, false⟩
def cmdTxGain : FtField := ⟨44, 84, true⟩

def ftField (opnum : UInt32) : Option FtField :=
  match opnum.toNat with
  | 1 => some cmdMac
  | 2 => some cmdTxDc
  | 3 => some cmdRxDc
  | 4 => some cmdTxIqGain
  | 5 => some cmdRxIqGain
  | 6 => some cmdTxIqPhase
  | 7 => some cmdRxIqPhase
  | 8 => some cmdTxGain
  | _ => none

def FtField.count (field : FtField) (len : UInt32) : Nat :=
  if field.limited = true ∧ len.toNat < field.size then len.toNat else field.size

namespace FlashDriver

def tlsFtParamGet (ft : Nat → UInt8) (opnum rdlen : UInt32) (driver : FlashDriver) :
    Int × List UInt8 :=
  let ft := driver.readUnchecked ftMagicnumAddr sizeofFtParam ft
  match ftField opnum with
  | none => (-1, [])
  | some field => (0, Buffer.toList (fun index => ft (field.offset + index)) (field.count rdlen))

end FlashDriver

def ftChecksum (engine : CrcEngine) (ft : Nat → UInt8) : UInt32 :=
  tlsCryptoCrcUpdate engine 0xFFFFFFFF
    (Buffer.toList (fun index => ft (12 + index)) (sizeofFtParam - 12))

namespace FlashDriver

/-- `memory` is the memory that the write gets for its sector, and `none` for `data` is NULL. -/
def tlsFtParamSet (engine : CrcEngine) (memory : Option (Nat → UInt8)) (ft : Nat → UInt8)
    (opnum : UInt32) (data : Option (Nat → UInt8)) (len : UInt32) (driver : FlashDriver) :
    Int × FlashDriver :=
  match data with
  | none => (-1, driver)
  | some data =>
      if len = 0 then (-1, driver)
      else
        let ft := driver.readUnchecked ftMagicnumAddr sizeofFtParam ft
        match ftField opnum with
        | none => (-1, driver)
        | some field =>
            let ft := Buffer.copy ft field.offset data (field.count len)
            let ft := Buffer.copy ft 0 (byteOf signatureWord.toNat) 4
            let ft := Buffer.copy ft 4 (byteOf (ftChecksum engine ft).toNat) 4
            (0, driver.writeUnchecked memory ftMagicnumAddr ft sizeofFtParam)

def tlsGetMacAddr (ft : Nat → UInt8) (driver : FlashDriver) : Int × List UInt8 :=
  driver.tlsFtParamGet ft 1 6

def tlsSetMacAddr (engine : CrcEngine) (memory : Option (Nat → UInt8)) (ft : Nat → UInt8)
    (mac : Option (Nat → UInt8)) (driver : FlashDriver) : Int × FlashDriver :=
  driver.tlsFtParamSet engine memory ft 1 mac 6

def HasFtParam (driver : FlashDriver) : Prop := driver.InRange ftMagicnumAddr sizeofFtParam

def ftStoredChecksum (driver : FlashDriver) : UInt32 :=
  UInt32.ofNat (wordAt driver.cells 4 4)

/-- What a `set` that reports success leaves in the flash, and what the next `get` makes of it.
Signature and checksum, the first eight bytes, belong to no operation. -/
structure FtParamKept (engine : CrcEngine) (field : FtField) (data : Nat → UInt8)
    (len rdlen : UInt32) (got : List UInt8) (before after : FlashDriver) : Prop where
  value : ∀ index < field.size, index < len.toNat → index < rdlen.toNat →
    got[index]? = some (data index)
  others : ∀ index, 8 ≤ index → index < field.offset ∨ field.offset + field.size ≤ index →
    after.cells index = before.cells index
  checksum : after.ftStoredChecksum = ftChecksum engine after.cells

/-- A `get` with room for `rdlen` bytes, and a `set` with a `get` behind it, which finds something
else on the stack. -/
structure FtParamLaw (engine : CrcEngine) (memory : Option (Nat → UInt8)) (ft later : Nat → UInt8)
    (opnum : UInt32) (data : Option (Nat → UInt8)) (len rdlen : UInt32) (driver : FlashDriver) :
    Prop where
  bounded : (driver.tlsFtParamGet ft opnum rdlen).2.length ≤ rdlen.toNat
  refused : ftField opnum = none ∨ data = none ∨ len = 0 →
    driver.tlsFtParamSet engine memory ft opnum data len = (-1, driver)
  kept : ∀ field value, ftField opnum = some field → data = some value → len ≠ 0 →
    let done := driver.tlsFtParamSet engine memory ft opnum data len
    done.1 = 0 ∧ FtParamKept engine field value len rdlen
      (done.2.tlsFtParamGet later opnum rdlen).2 driver done.2

end FlashDriver

theorem ftField_bounds {opnum : UInt32} {field : FtField} (known : ftField opnum = some field) :
    12 ≤ field.offset ∧ field.offset + field.size ≤ 128 := by
  unfold ftField at known
  split at known <;> cases known <;> decide

theorem FtField.count_le (field : FtField) (len : UInt32) : field.count len ≤ field.size := by
  rw [FtField.count]
  split
  · omega
  · exact Nat.le_refl _

theorem FtField.lt_count {field : FtField} {len : UInt32} {index : Nat}
    (inside : index < field.size) (given : index < len.toNat) : index < field.count len := by
  rw [FtField.count]
  split
  · exact given
  · exact inside

/-- Only the gain table heeds the length. -/
theorem FtField.count_le_len (field : FtField) (len : UInt32) :
    field.count len ≤ len.toNat ↔ field.limited = true ∨ field.size ≤ len.toNat := by
  rw [FtField.count]
  by_cases short : field.limited = true ∧ len.toNat < field.size
  · rw [if_pos short]
    exact iff_of_true (Nat.le_refl _) (.inl short.1)
  · rw [if_neg short]
    constructor
    · exact .inr
    · rintro (limited | fits)
      · exact Nat.le_of_not_lt fun less => short ⟨limited, less⟩
      · exact fits

def patched (engine : CrcEngine) (field : FtField) (data : Nat → UInt8) (len : UInt32)
    (ft : Nat → UInt8) : Nat → UInt8 :=
  let ft := Buffer.copy ft field.offset data (field.count len)
  let ft := Buffer.copy ft 0 (byteOf signatureWord.toNat) 4
  Buffer.copy ft 4 (byteOf (ftChecksum engine ft).toNat) 4

section Patched

variable {engine : CrcEngine} {field : FtField} {data ft : Nat → UInt8} {len : UInt32} {index : Nat}

theorem ftChecksum_congr {first second : Nat → UInt8}
    (same : ∀ index, 12 ≤ index → index < 128 → first index = second index) :
    ftChecksum engine first = ftChecksum engine second := by
  have bytes : Buffer.toList (fun index => first (12 + index)) (sizeofFtParam - 12) =
      Buffer.toList (fun index => second (12 + index)) (sizeofFtParam - 12) := by
    apply List.map_congr_left
    intro index member
    have inside : index < 116 := List.mem_range.mp member
    exact same (12 + index) (by omega) (by omega)
  rw [ftChecksum, bytes]
  rfl

theorem patched_behind (behind : 8 ≤ index) :
    patched engine field data len ft index =
      Buffer.copy ft field.offset data (field.count len) index := by
  unfold patched
  rw [Buffer.copy_outside _ _ (by omega), Buffer.copy_outside _ _ (by omega)]

theorem patched_field (front : 12 ≤ field.offset) (inside : index < field.count len) :
    patched engine field data len ft (field.offset + index) = data index := by
  rw [patched_behind (by omega), Buffer.copy_inside _ _ inside]

theorem patched_other (behind : 8 ≤ index)
    (outside : index < field.offset ∨ field.offset + field.count len ≤ index) :
    patched engine field data len ft index = ft index := by
  rw [patched_behind behind, Buffer.copy_outside _ _ outside]

theorem patched_checksum (inside : index < 4) :
    patched engine field data len ft (4 + index) =
      byteOf (ftChecksum engine (patched engine field data len ft)).toNat index := by
  have same := @ftChecksum_congr engine (Buffer.copy (Buffer.copy ft field.offset data
      (field.count len)) 0 (byteOf signatureWord.toNat) 4) (patched engine field data len ft) (by
    intro index front _
    rw [patched_behind (by omega), Buffer.copy_outside _ _ (by omega)])
  rw [← same]
  exact Buffer.copy_inside _ _ inside

end Patched

namespace FlashDriver

variable {engine : CrcEngine} {memory : Option (Nat → UInt8)} {ft later : Nat → UInt8}
  {opnum len rdlen : UInt32} {data : Nat → UInt8} {field : FtField} {driver : FlashDriver}

theorem ftMagicnum_address : ftMagicnumAddr.toNat % 134217728 = 0 := by
  decide

theorem readFt (has : driver.HasFtParam) (ft : Nat → UInt8) {index : Nat} (inside : index < 128) :
    driver.readUnchecked ftMagicnumAddr sizeofFtParam ft index = driver.cells index := by
  rw [readUnchecked_spec has (by decide) rfl ft inside, ftMagicnum_address, Nat.zero_add]

theorem tlsFtParamGet_known (has : driver.HasFtParam) (known : ftField opnum = some field) :
    driver.tlsFtParamGet ft opnum rdlen = (0, Buffer.toList
      (fun index => driver.cells (field.offset + index)) (field.count rdlen)) := by
  obtain ⟨-, fits⟩ := ftField_bounds known
  have few := field.count_le rdlen
  simp only [tlsFtParamGet, known]
  refine congrArg (Prod.mk 0) (List.map_congr_left fun index member => ?_)
  have inside := List.mem_range.mp member
  exact readFt has ft (by omega)

def ftWritten (engine : CrcEngine) (memory : Option (Nat → UInt8)) (field : FtField)
    (data : Nat → UInt8) (len : UInt32) (ft : Nat → UInt8) (driver : FlashDriver) : Nat → UInt8 :=
  overlayIf memory 0 (patched engine field data len
    (driver.readUnchecked ftMagicnumAddr sizeofFtParam ft)) sizeofFtParam driver.cells

theorem tlsFtParamSet_known (has : driver.HasFtParam) (known : ftField opnum = some field)
    (some_len : len ≠ 0) :
    driver.tlsFtParamSet engine memory ft opnum (some data) len =
      (0, { driver with cells := driver.ftWritten engine memory field data len ft }) := by
  simp only [tlsFtParamSet, if_neg some_len, known]
  have written := @writeUnchecked_eq memory _ _ driver has (by decide)
    (patched engine field data len (driver.readUnchecked ftMagicnumAddr sizeofFtParam ft))
  rw [ftMagicnum_address] at written
  exact congrArg (Prod.mk 0) written

theorem tlsFtParamSet_refused (data : Option (Nat → UInt8))
    (refused : ftField opnum = none ∨ data = none ∨ len = 0) :
    driver.tlsFtParamSet engine memory ft opnum data len = (-1, driver) := by
  cases data with
  | none => rfl
  | some data =>
      by_cases none_ : len = 0
      · simp only [tlsFtParamSet, if_pos none_]
      · have unknown : ftField opnum = none := by
          rcases refused with unknown | missing | zero
          · exact unknown
          · cases missing
          · exact absurd zero none_
        simp only [tlsFtParamSet, if_neg none_, unknown]

theorem ftWritten_eq (given : memory.isSome = true) {index : Nat} (inside : index < 128) :
    driver.ftWritten engine memory field data len ft index =
      patched engine field data len
        (driver.readUnchecked ftMagicnumAddr sizeofFtParam ft) index := by
  have laid := @overlayIf_inside memory 0 sizeofFtParam index inside
    (patched engine field data len (driver.readUnchecked ftMagicnumAddr sizeofFtParam ft))
    driver.cells
  rw [Nat.zero_add, if_pos given] at laid
  exact laid

theorem ftParamKept_of_written (has : driver.HasFtParam) (known : ftField opnum = some field)
    (given : memory.isSome = true) :
    FtParamKept engine field data len rdlen
      (Buffer.toList (fun index =>
        driver.ftWritten engine memory field data len ft (field.offset + index))
          (field.count rdlen))
      driver { driver with cells := driver.ftWritten engine memory field data len ft } := by
  obtain ⟨front, fits⟩ := ftField_bounds known
  have most := field.count_le len
  refine ⟨?_, ?_, ?_⟩
  · intro index inside held room
    have written : index < field.count len := FtField.lt_count inside held
    have read : index < field.count rdlen := FtField.lt_count inside room
    have place := @ftWritten_eq engine memory ft len data field driver given (field.offset + index)
      (by omega)
    rw [patched_field front written] at place
    simp [Buffer.toList, read, place]
  · intro index behind outside
    by_cases inside : index < 128
    · refine (ftWritten_eq given inside).trans ?_
      rw [patched_other behind (by omega), readFt has ft inside]
    · exact overlayIf_outside memory (.inr (by rw [sizeofFtParam]; omega)) _ _
  · have cells : ftChecksum engine (driver.ftWritten engine memory field data len ft) =
        ftChecksum engine (patched engine field data len
          (driver.readUnchecked ftMagicnumAddr sizeofFtParam ft)) :=
      ftChecksum_congr fun index _ inside => ftWritten_eq given inside
    refine (wordAt_byteOf _ fun index inside => ?_).trans cells.symm
    exact (ftWritten_eq given (by omega)).trans (patched_checksum inside)

/-- Without memory for the sector nothing is written. -/
theorem ftParamKept_unwritten {got : List UInt8} :
    FtParamKept engine field data len rdlen got driver driver ↔
      (∀ index < field.size, index < len.toNat → index < rdlen.toNat →
        got[index]? = some (data index)) ∧
        driver.ftStoredChecksum = ftChecksum engine driver.cells :=
  ⟨fun kept => ⟨kept.value, kept.checksum⟩, fun both => ⟨both.1, fun _ _ _ => rfl, both.2⟩⟩

end FlashDriver

/-- Where a `get` stays in its bounds and a `set` is kept: the caller has room for the whole of a
field whose size is fixed, and a write gets memory for its sector, or has nothing to change. -/
structure FtParamServed (engine : CrcEngine) (memory : Option (Nat → UInt8)) (opnum : UInt32)
    (data : Option (Nat → UInt8)) (len rdlen : UInt32) (driver : FlashDriver) : Prop where
  room : ∀ field, ftField opnum = some field → field.limited = true ∨ field.size ≤ rdlen.toNat
  written : ∀ field value, ftField opnum = some field → data = some value → len ≠ 0 →
    memory = none →
    (∀ index < field.size, index < len.toNat → index < rdlen.toNat →
      driver.cells (field.offset + index) = value index) ∧
    driver.ftStoredChecksum = ftChecksum engine driver.cells

namespace FlashDriver

variable {engine : CrcEngine} {memory : Option (Nat → UInt8)} {ft later : Nat → UInt8}
  {opnum len rdlen : UInt32} {field : FtField} {driver : FlashDriver}

/-- The room that a `get` needs is that of its field. -/
theorem tlsFtParamGet_bounded_iff (has : driver.HasFtParam) :
    (driver.tlsFtParamGet ft opnum rdlen).2.length ≤ rdlen.toNat ↔
      ∀ field, ftField opnum = some field → field.limited = true ∨ field.size ≤ rdlen.toNat := by
  cases known : ftField opnum with
  | none =>
      have nothing : (driver.tlsFtParamGet ft opnum rdlen).2 = [] := by
        simp only [tlsFtParamGet, known]
      rw [nothing]
      exact iff_of_true (Nat.zero_le _) (fun field some_ => by cases some_)
  | some field =>
      rw [tlsFtParamGet_known has known, Buffer.toList_length, FtField.count_le_len]
      constructor
      · rintro fits _ ⟨⟩
        exact fits
      · intro fits
        exact fits field rfl

/-- A `set` without memory is kept where it had nothing to change. -/
theorem ftParamKept_failed_iff {value : Nat → UInt8} :
    FtParamKept engine field value len rdlen (Buffer.toList (fun index =>
        driver.cells (field.offset + index)) (field.count rdlen)) driver driver ↔
      (∀ index < field.size, index < len.toNat → index < rdlen.toNat →
        driver.cells (field.offset + index) = value index) ∧
      driver.ftStoredChecksum = ftChecksum engine driver.cells := by
  rw [ftParamKept_unwritten]
  have read : ∀ index < field.size, index < rdlen.toNat → (Buffer.toList (fun index =>
      driver.cells (field.offset + index)) (field.count rdlen))[index]? =
      some (driver.cells (field.offset + index)) := by
    intro index inside room
    rw [Buffer.toList, List.getElem?_map, List.getElem?_range (FtField.lt_count inside room)]
    rfl
  refine and_congr_left' ⟨?_, ?_⟩
  · intro got index inside given room
    exact Option.some.inj ((read index inside room).symm.trans (got index inside given room))
  · intro cell index inside given room
    exact (read index inside room).trans (congrArg some (cell index inside given room))

/-- What the law asks of one `set` with the `get` behind it. -/
theorem ftParamKept_iff {value : Nat → UInt8} (has : driver.HasFtParam)
    (known : ftField opnum = some field) (some_len : len ≠ 0) :
    (let done := driver.tlsFtParamSet engine memory ft opnum (some value) len
     done.1 = 0 ∧ FtParamKept engine field value len rdlen
      (done.2.tlsFtParamGet later opnum rdlen).2 driver done.2) ↔
      (memory = none →
        (∀ index < field.size, index < len.toNat → index < rdlen.toNat →
          driver.cells (field.offset + index) = value index) ∧
        driver.ftStoredChecksum = ftChecksum engine driver.cells) := by
  have still : HasFtParam { driver with
    cells := driver.ftWritten engine memory field value len ft } := has
  rw [tlsFtParamSet_known has known some_len]
  simp only [tlsFtParamGet_known still known, true_and]
  cases memory with
  | none =>
      rw [forall_prop_of_true rfl]
      exact ftParamKept_failed_iff
  | some room =>
      exact iff_of_true (ftParamKept_of_written has known rfl) (fun missing => by cases missing)

end FlashDriver

theorem ft_param_kept_iff (engine : CrcEngine) (memory : Option (Nat → UInt8))
    (ft later : Nat → UInt8) (opnum : UInt32) (data : Option (Nat → UInt8)) (len rdlen : UInt32)
    (driver : FlashDriver) (has : driver.HasFtParam) :
    FtParamLaw engine memory ft later opnum data len rdlen driver ↔
      FtParamServed engine memory opnum data len rdlen driver := by
  constructor
  · intro law
    refine ⟨(tlsFtParamGet_bounded_iff has).mp law.bounded, ?_⟩
    intro field value known given some_len
    have kept := law.kept field value known given some_len
    exact (ftParamKept_iff has known some_len).mp (given ▸ kept)
  · intro served
    refine ⟨(tlsFtParamGet_bounded_iff has).mpr served.room, tlsFtParamSet_refused data, ?_⟩
    intro field value known given some_len
    subst given
    exact (ftParamKept_iff has known some_len).mpr
      (served.written field value known rfl some_len)

theorem blank_hasFtParam : blank.HasFtParam :=
  blank_inRange (by decide)

/-- A whole MAC address, with memory for the sector. -/
theorem mac_param_kept : FtParamLaw crc32Engine (some fun _ => 0) (fun _ => 0) (fun _ => 1) 1
    (some fun _ => 0x22) 8 8 blank := by
  refine (ft_param_kept_iff _ _ _ _ _ _ _ _ _ blank_hasFtParam).mpr ⟨?_, ?_⟩
  · rintro field ⟨⟩
    exact .inr (by decide)
  · rintro field value _ _ _ ⟨⟩

/-- `tls_get_mac_addr` says that there is room for six bytes, and eight are copied. -/
theorem mac_addr_overruns : (blank.tlsGetMacAddr fun _ => 0).2.length = 8 ∧
    ¬FtParamLaw crc32Engine (some fun _ => 0) (fun _ => 0) (fun _ => 0) 1
      (some fun _ => 0x22) 6 6 blank := by
  refine ⟨rfl, fun law => ?_⟩
  exact absurd law.bounded (by decide)

end SmartMeter
