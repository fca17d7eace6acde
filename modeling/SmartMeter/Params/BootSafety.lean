import SmartMeter.Params.ParamDevice

/-!
`tls_param_init` on any contents of the flash. The range of the checksum, the place of the
word it is compared with and the size of the copy all come from the `length` of the record,
which nothing checks.
-/

namespace SmartMeter

open TwinSlots

def Access.Inside (access : Access) : Prop :=
  0 ≤ access.offset ∧ access.offset + access.size ≤ sizeofParamFlash

def InsideLength (flash : ParamFlash) : Prop :=
  4 ≤ flash.length.toNat ∧ flash.length.toNat ≤ 724

theorem frontSize_of_le {length : UInt16} (enough : 4 ≤ length.toNat) :
    frontSize length = length.toNat - 4 := by
  have bound := length.toNat_lt
  rw [frontSize, UInt32.toNat_sub, UInt16.toNat_toUInt32]
  simp only [UInt32.reduceToNat]
  omega

theorem frontSize_of_lt {length : UInt16} (short : length.toNat < 4) :
    724 < frontSize length := by
  rw [frontSize, UInt32.toNat_sub, UInt16.toNat_toUInt32]
  simp only [UInt32.reduceToNat]
  omega

/-- The two reads of the test, or the copy of the same size, stay inside together. -/
theorem inside_iff (flash : ParamFlash) :
    (Access.Inside ⟨0, frontSize flash.length⟩ ∧ Access.Inside ⟨crcOffset flash.length, 4⟩) ↔
      InsideLength flash := by
  simp only [Access.Inside, InsideLength, crcOffset, sizeofParamFlash]
  by_cases enough : 4 ≤ flash.length.toNat
  · rw [frontSize_of_le enough]
    omega
  · have large := frontSize_of_lt (Nat.lt_of_not_le enough)
    omega

def AllInside (accesses : List Access) : Prop :=
  ∀ access ∈ accesses, access.Inside

section

variable {around : Int → UInt8} {flash : ParamFlash} {loading : Loading}

theorem loadPartition_inside (around : Int → UInt8) (flash : ParamFlash) (i : Fin 2)
    (loading : Loading) :
    AllInside (loadPartition around flash i loading).accesses ↔
      AllInside loading.accesses ∧ (flash.magic = tlsParamMagic → InsideLength flash) := by
  have summed (copies : List Access) (follows : InsideLength flash → AllInside copies) :
      AllInside (loading.accesses ++
          [⟨0, frontSize flash.length⟩, ⟨crcOffset flash.length, 4⟩] ++ copies) ↔
        AllInside loading.accesses ∧ InsideLength flash := by
    simp only [AllInside, List.forall_mem_append, List.forall_mem_cons, List.not_mem_nil,
      false_imp_iff, implies_true, and_true]
    rw [inside_iff]
    constructor
    · exact And.left
    · intro both
      exact ⟨both, follows both.2⟩
  rw [loadPartition]
  by_cases magic : flash.magic = tlsParamMagic
  · simp only [magic, ne_eq, not_true_eq_false, if_false, true_imp_iff]
    have plain := summed [] (fun _ => by simp [AllInside])
    rw [List.append_nil] at plain
    split
    · exact plain
    · split
      · split
        · refine summed _ ?_
          intro inside
          simpa [AllInside] using ((inside_iff flash).mpr inside).1
        · refine summed _ ?_
          intro _
          simp [AllInside, Access.Inside, sizeofParamFlash]
      · exact plain
  · simp [magic]

end

/-- The record in `flash_param` after `flash` was copied over `base`. -/
def heldOver (base flash : ParamFlash) : ParamFlash :=
  if flash.length ≠ UInt16.ofNat sizeofParamFlash then
    ParamFlash.copyFront (frontSize flash.length) flash base
  else flash

def Takes (around : Int → UInt8) (base flash : ParamFlash) : Prop :=
  (entryOf around flash).isSome = true ∧ (base.magic = 0 ∨ base.modifyCount < flash.modifyCount)

instance (around : Int → UInt8) (base flash : ParamFlash) : Decidable (Takes around base flash) :=
  inferInstanceAs (Decidable (_ ∧ _))

def takenFrom (around : Int → UInt8) (base flash : ParamFlash) : ParamFlash :=
  if Takes around base flash then heldOver base flash else base

section

variable {around : Int → UInt8} {flash : ParamFlash} {loading : Loading}

theorem intact_tests (intact : (entryOf around flash).isSome = true) :
    flash.magic = tlsParamMagic ∧ crcMatches around flash = true := by
  unfold entryOf at intact
  split at intact
  next tests => exact tests
  next => simp at intact

theorem loadPartition_taken (same : loading.sramParam = loading.flashParam.parameters)
    (i : Fin 2) :
    (loadPartition around flash i loading).flashParam =
        takenFrom around loading.flashParam flash ∧
      (loadPartition around flash i loading).sramParam =
        (takenFrom around loading.flashParam flash).parameters ∧
      (loadPartition around flash i loading).damaged =
        loading.damaged + (if (entryOf around flash).isSome then 0 else 1) := by
  cases intact : (entryOf around flash).isSome with
  | false =>
      have damaged : Damaged around flash := by
        rw [Damaged]
        simpa using intact
      have stays : ¬Takes around loading.flashParam flash := by simp [Takes, intact]
      obtain ⟨accesses, ends⟩ := loadPartition_damaged damaged i loading
      rw [ends, takenFrom, if_neg stays]
      exact ⟨rfl, same, rfl⟩
  | true =>
      obtain ⟨magic, matched⟩ := intact_tests intact
      have takes : Takes around loading.flashParam flash ↔ loading.flashParam.magic = 0 ∨
          loading.flashParam.modifyCount < flash.modifyCount := by
        simp [Takes, intact]
      rw [loadPartition, takenFrom]
      simp only [magic, ne_eq, not_true_eq_false, if_false, matched, Bool.true_eq_false, takes,
        if_true, Nat.add_zero]
      split
      · rw [heldOver]
        split
        · exact ⟨rfl, rfl, rfl⟩
        · exact ⟨rfl, rfl, rfl⟩
      · exact ⟨rfl, same, rfl⟩

end

def loadedRecord (around : Int → UInt8) (partition : Fin 2 → ParamFlash) : ParamFlash :=
  takenFrom around (takenFrom around .zero (partition 0)) (partition 1)

section

variable {around : Int → UInt8} {partition : Fin 2 → ParamFlash}

theorem loadPartitions_taken (around : Int → UInt8) (partition : Fin 2 → ParamFlash) :
    (loadPartitions around partition).flashParam = loadedRecord around partition ∧
      (loadPartitions around partition).sramParam = (loadedRecord around partition).parameters ∧
      (2 ≤ (loadPartitions around partition).damaged ↔
        ∀ index, Damaged around (partition index)) := by
  let start : Loading := ⟨.zero, fun _ => 0, fun _ => false, 0, []⟩
  obtain ⟨flash, sram, damaged⟩ := @loadPartition_taken around (partition 0) start rfl 0
  obtain ⟨flash', sram', damaged'⟩ := @loadPartition_taken around (partition 1)
    (loadPartition around (partition 0) 0 start) (sram.trans (congrArg _ flash.symm)) 1
  rw [flash] at flash' sram'
  rw [damaged] at damaged'
  refine ⟨flash', sram', ?_⟩
  have count : (loadPartitions around partition).damaged = _ := damaged'
  rw [count, Fin.forall_fin_two, Damaged, Damaged]
  cases entryOf around (partition 0) with
  | none =>
      cases entryOf around (partition 1) with
      | none => simp [start]
      | some _ => simp [start]
  | some _ =>
      cases entryOf around (partition 1) with
      | none => simp [start]
      | some _ => simp [start]

theorem loadPartitions_inside (around : Int → UInt8) (partition : Fin 2 → ParamFlash) :
    AllInside (loadPartitions around partition).accesses ↔
      ∀ index, (partition index).magic = tlsParamMagic → InsideLength (partition index) := by
  rw [loadPartitions, loadPartition_inside, loadPartition_inside, Fin.forall_fin_two]
  simp [AllInside]

theorem repair_sram (writes : Fin 2 → FlashWrite) (isDamage : Fin 2 → Bool) (loaded : ParamState) :
    let repaired : ParamReturn :=
      if isDamage 0 then
        let first := paramToFlash (writes 0) (-1) (-1) 0 loaded
        match first.1 with
        | some .ok =>
            if isDamage 1 then initStatus (paramToFlash (writes 1) (-1) (-1) 1 first.2) else first
        | _ => initStatus first
      else if isDamage 1 then initStatus (paramToFlash (writes 1) (-1) (-1) 1 loaded)
      else (some .ok, loaded)
    repaired.2.sramParam = loaded.sramParam ∧
      ((∀ index, writes index = .done) → repaired.1 = some .ok) := by
  simp only [paramToFlash_all, initStatus_write]
  cases isDamage 0 with
  | true =>
      cases first : writes 0 with
      | done =>
          cases isDamage 1 with
          | true =>
              refine ⟨write_ram.2.1, ?_⟩
              intro done
              rw [done 1]
              rfl
          | false => exact ⟨rfl, fun _ => rfl⟩
      | failed left => exact ⟨rfl, fun done => absurd (first.symm.trans (done 0)) (by simp)⟩
      | cut left => exact ⟨rfl, fun done => absurd (first.symm.trans (done 0)) (by simp)⟩
  | false =>
      cases isDamage 1 with
      | true =>
          refine ⟨write_ram.2.1, ?_⟩
          intro done
          rw [done 1]
          rfl
      | false => exact ⟨rfl, fun _ => rfl⟩

theorem defaults_sram (writes : Fin 2 → FlashWrite) (loaded : ParamState) :
    let written : ParamReturn :=
      let first := paramToFlash (writes 0) (-1) 1 0 { loaded with sramParam := factoryDefault }
      match first.1 with
      | some .ok => initStatus (paramToFlash (writes 1) (-1) 1 1 first.2)
      | _ => initStatus first
    written.2.sramParam = factoryDefault ∧
      ((∀ index, writes index = .done) → written.1 = some .ok) := by
  simp only [paramToFlash_all, initStatus_write]
  cases first : writes 0 with
  | done =>
      refine ⟨write_ram.2.1, ?_⟩
      intro done
      rw [done 1]
      rfl
  | failed left => exact ⟨rfl, fun done => absurd (first.symm.trans (done 0)) (by simp)⟩
  | cut left => exact ⟨rfl, fun done => absurd (first.symm.trans (done 0)) (by simp)⟩

def initialSet (around : Int → UInt8) (partition : Fin 2 → ParamFlash) : SysParam :=
  if 2 ≤ (loadPartitions around partition).damaged then factoryDefault
  else (loadedRecord around partition).parameters

theorem init_run (around : Int → UInt8) (writes : Fin 2 → FlashWrite) (state : ParamState) :
    let result := tlsParamInit around ⟨true, true⟩ writes state.powerOn
    result.2 = (loadPartitions around state.partition).accesses ∧
      result.1.2.sramParam = initialSet around state.partition ∧
      ((∀ index, writes index = .done) → result.1.1 = some .ok) := by
  obtain ⟨-, sram, -⟩ := loadPartitions_taken around state.partition
  have same : state.powerOn.partition = state.partition := rfl
  rw [tlsParamInit, if_neg powerOn_uninitialised, initialSet, ← sram]
  simp only [Bool.true_eq_false, if_false, same, true_and]
  generalize loadPartitions around state.partition = loading
  by_cases all : 2 ≤ loading.damaged
  · simp only [all, if_true]
    exact defaults_sram writes { state.powerOn with
      flashParam := loading.flashParam, sramParam := loading.sramParam }
  · simp only [all, if_false]
    exact repair_sram writes loading.isDamage { state.powerOn with
      flashParam := loading.flashParam, sramParam := loading.sramParam }

end

/-- A stored set that passes the test, in full, or the factory defaults. -/
def StoredSet (around : Int → UInt8) (partition : Fin 2 → ParamFlash) (parameters : SysParam) :
    Prop :=
  (∃ index entry, entryOf around (partition index) = some entry ∧ parameters = entry.value) ∨
    parameters = factoryDefault

def BootSafe (around : Int → UInt8) (memory : InitMemory) (writes : Fin 2 → FlashWrite)
    (state : ParamState) : Prop :=
  let result := tlsParamInit around memory writes state.powerOn
  AllInside result.2 ∧
    (result.1.1 = some .ok → StoredSet around state.partition result.1.2.sramParam)

def Intact (around : Int → UInt8) (flash : ParamFlash) : Prop :=
  flash.magic = tlsParamMagic ∧ crcMatches around flash = true

instance (around : Int → UInt8) (flash : ParamFlash) : Decidable (Intact around flash) :=
  inferInstanceAs (Decidable (_ ∧ _))

/-- A byte of the record that is taken first, zero where its length says that it has none. -/
def keptByte (flash : ParamFlash) (offset : Nat) : UInt8 :=
  if flash.length.toNat = 724 ∨ offset + 4 < flash.length.toNat then flash.byte offset else 0

def keptCount (flash : ParamFlash) : Nat :=
  (keptByte flash 6).toNat + 256 * (keptByte flash 7).toNat

/-- Which record the loop takes last. -/
def TakenLast (around : Int → UInt8) (partition : Fin 2 → ParamFlash) (index : Fin 2) : Prop :=
  let second := Intact around (partition 1) ∧ (Intact around (partition 0) →
    keptCount (partition 0) < (partition 1).modifyCount.toNat)
  if index = 1 then second else Intact around (partition 0) ∧ ¬second

/-- The parameters in RAM before the record of partition `index` is taken: those of partition
0, as far as they go, if that was taken before. -/
def under (around : Int → UInt8) (partition : Fin 2 → ParamFlash) (index : Fin 2) :
    SysParam :=
  fun place => if index = 1 ∧ Intact around (partition 0) then keptByte (partition 0) (16 + place)
    else 0

/-- The front of the record is that of `whole`, and so are the parameters behind it that were
there before. -/
def Completes (flash : ParamFlash) (before whole : SysParam) : Prop :=
  ∀ place : Fin 704,
    if 20 + place.val < flash.length.toNat then flash.parameters place = whole place
    else before place = whole place

/-- The record taken last has the size of the structure, or the bytes in the place of those
that it lacks complete it to the set of an intact record or to the factory defaults. -/
def TakenInFull (around : Int → UInt8) (partition : Fin 2 → ParamFlash) : Prop :=
  ∀ index, TakenLast around partition index → (partition index).length = 724 ∨
    (∃ other, Intact around (partition other) ∧
      Completes (partition index) (under around partition index) (partition other).parameters) ∨
    Completes (partition index) (under around partition index) factoryDefault

section

variable {around : Int → UInt8} {partition : Fin 2 → ParamFlash} {flash : ParamFlash}

theorem intact_iff : Intact around flash ↔ (entryOf around flash).isSome = true := by
  constructor
  · intro intact
    unfold Intact at intact
    rw [entryOf, if_pos intact]
    rfl
  · exact intact_tests

theorem takes_zero : Takes around .zero flash ↔ Intact around flash := by
  simp [Takes, ParamFlash.zero, intact_iff]

theorem byte_parameters (flash : ParamFlash) (place : Fin 704) :
    flash.byte (16 + place) = flash.parameters place := by
  have inside := place.isLt
  have index : 16 + place.val - 16 = place := by omega
  simp only [ParamFlash.byte]
  rw [if_neg (by omega), if_neg (by omega), if_neg (by omega), if_neg (by omega),
    if_neg (by omega), if_neg (by omega), dif_pos (by omega)]
  congr 1
  exact Fin.ext index

theorem zero_byte (offset : Nat) : ParamFlash.zero.byte offset = 0 := by
  simp [ParamFlash.byte, ParamFlash.zero, byteOf]

theorem whole_iff (flash : ParamFlash) :
    flash.length = UInt16.ofNat sizeofParamFlash ↔ flash.length.toNat = 724 := by
  rw [← UInt16.toNat_inj]
  rfl

/-- The bytes of `flash_param` that a record is copied to. -/
theorem heldOver_short (inside : InsideLength flash) (short : flash.length.toNat ≠ 724)
    (base : ParamFlash) : heldOver base flash = ParamFlash.ofBytes fun offset =>
      if offset + 4 < flash.length.toNat then flash.byte offset else base.byte offset := by
  rw [heldOver, if_pos (mt (whole_iff flash).mp short), ParamFlash.copyFront,
    frontSize_of_le inside.1]
  congr 1
  funext offset
  have same : offset < flash.length.toNat - 4 ↔ offset + 4 < flash.length.toNat := by omega
  simp only [same]

theorem heldOver_whole (whole : flash.length.toNat = 724) (base : ParamFlash) :
    heldOver base flash = flash := by
  rw [heldOver, if_neg (not_not.mpr ((whole_iff flash).mpr whole))]

theorem heldOver_parameters (inside : InsideLength flash) (base : ParamFlash)
    (place : Fin 704) : (heldOver base flash).parameters place =
      if flash.length.toNat = 724 ∨ 20 + place.val < flash.length.toNat then
        flash.parameters place else base.parameters place := by
  by_cases whole : flash.length.toNat = 724
  · rw [heldOver_whole whole, if_pos (.inl whole)]
  · have same : 16 + place.val + 4 < flash.length.toNat ↔ 20 + place.val < flash.length.toNat := by
      omega
    rw [heldOver_short inside whole]
    simp only [ParamFlash.ofBytes, whole, false_or, same, byte_parameters]

theorem heldOver_zero_parameters (inside : InsideLength flash) (place : Fin 704) :
    (heldOver .zero flash).parameters place = keptByte flash (16 + place) := by
  have same : 16 + place.val + 4 < flash.length.toNat ↔ 20 + place.val < flash.length.toNat := by
    omega
  rw [heldOver_parameters inside, keptByte, byte_parameters]
  simp only [same]
  rfl

theorem heldOver_zero_count (inside : InsideLength flash) :
    (heldOver .zero flash).modifyCount.toNat = keptCount flash := by
  by_cases whole : flash.length.toNat = 724
  · have bound := flash.modifyCount.toNat_lt
    have low : flash.byte 6 = byteOf flash.modifyCount.toNat 0 := rfl
    have high : flash.byte 7 = byteOf flash.modifyCount.toNat 1 := rfl
    rw [heldOver_whole whole, keptCount, keptByte, keptByte, if_pos (.inl whole),
      if_pos (.inl whole), low, high, byteOf_toNat, byteOf_toNat]
    omega
  · have low := (keptByte flash 6).toNat_lt
    have high := (keptByte flash 7).toNat_lt
    have bytes : (fun offset => if offset + 4 < flash.length.toNat then flash.byte offset
        else ParamFlash.zero.byte offset) = keptByte flash := by
      funext offset
      simp only [keptByte, whole, false_or, zero_byte]
    rw [heldOver_short inside whole, bytes]
    have word : wordAt (keptByte flash) 6 2 = keptCount flash := by
      simp only [wordAt, List.range, List.range.loop, List.foldr, keptCount, Nat.reduceAdd]
      omega
    simp only [ParamFlash.ofBytes, word, UInt16.toNat_ofNat', keptCount]
    omega

/-- A record of four bytes has no checksum of its own. -/
theorem long_of_intact (intact : Intact around flash) (inside : InsideLength flash) :
    4 < flash.length.toNat := by
  obtain ⟨magic, matched⟩ := intact
  by_contra short
  have four : flash.length.toNat = 4 := by
    have enough := inside.1
    omega
  have empty : getCrc32 (fun _ => 0) 0 = 0 := by decide
  have none : getCrc32 (fun offset => bufferByte around flash offset) 0 = 0 :=
    (getCrc32_congr fun index below => absurd below (Nat.not_lt_zero index)).trans empty
  have front : frontSize flash.length = 0 := by rw [frontSize_of_le inside.1, four]
  have offset : crcOffset flash.length = 0 := by rw [crcOffset, four]; rfl
  have word : UInt32.ofNat (wordAt (fun index => bufferByte around flash (0 + index)) 0 4) =
      flash.magic := by
    refine wordAt_byteOf flash.magic ?_
    intro index below
    rw [Int.zero_add, Nat.zero_add, bufferByte_inside _ _ (by omega), ParamFlash.byte, if_pos below]
  rw [crcMatches, front, offset, none, word, magic] at matched
  exact absurd matched (by decide)

theorem heldOver_zero_magic (intact : Intact around flash) (inside : InsideLength flash) :
    (heldOver .zero flash).magic ≠ 0 := by
  by_cases whole : flash.length.toNat = 724
  · rw [heldOver_whole whole, intact.1]
    decide
  · have long := long_of_intact intact inside
    have first : flash.byte 0 = 0x4D := by
      rw [ParamFlash.byte, intact.1]
      rfl
    rw [heldOver_short inside whole]
    intro zero
    have word := congrArg UInt32.toNat zero
    simp only [ParamFlash.ofBytes, wordAt_four, Nat.zero_add, long, if_true, first,
      UInt8.reduceToNat, UInt32.toNat_ofNat', UInt32.toNat_zero] at word
    omega

theorem damaged_iff : Damaged around flash ↔ ¬Intact around flash := by
  rw [intact_iff, Damaged]
  simp

theorem storedSet_iff {parameters : SysParam} :
    StoredSet around partition parameters ↔
      (∃ other, Intact around (partition other) ∧ parameters = (partition other).parameters) ∨
        parameters = factoryDefault := by
  refine or_congr_left (exists_congr fun other => ?_)
  rw [intact_iff, Option.isSome_iff_exists]
  constructor
  · rintro ⟨entry, holds, same⟩
    exact ⟨⟨entry, holds⟩, same.trans (entryOf_value holds)⟩
  · rintro ⟨⟨entry, holds⟩, same⟩
    exact ⟨entry, holds, same.trans (entryOf_value holds).symm⟩

/-- A record that is shorter than the structure, and what stood there before. -/
theorem completes_iff {before whole loaded : SysParam} (short : flash.length.toNat ≠ 724)
    (bytes : ∀ place, loaded place =
      if flash.length.toNat = 724 ∨ 20 + place.val < flash.length.toNat then
        flash.parameters place else before place) :
    Completes flash before whole ↔ loaded = whole := by
  rw [funext_iff]
  refine forall_congr' fun place => ?_
  simp only [bytes, short, false_or]
  split
  · rfl
  · rfl

theorem exists_takenLast (some : ¬∀ index, Damaged around (partition index)) :
    ∃ index, TakenLast around partition index := by
  by_cases second : TakenLast around partition 1
  · exact ⟨1, second⟩
  · refine ⟨0, ?_, second⟩
    by_contra first
    -- With nothing taken before, an intact second record would have been taken.
    apply some
    rw [Fin.forall_fin_two]
    refine ⟨damaged_iff.mpr first, damaged_iff.mpr ?_⟩
    intro intact
    exact second ⟨intact, fun before => absurd before first⟩

theorem intact_of_takenLast {index : Fin 2} (last : TakenLast around partition index) :
    Intact around (partition index) := by
  rcases Fin.exists_fin_two.mp ⟨index, rfl⟩ with rfl | rfl
  · exact last.1
  · exact last.1

section

variable (insides : ∀ index, (partition index).magic = tlsParamMagic →
  InsideLength (partition index))

include insides

theorem second_taken_iff (around : Int → UInt8) :
    Takes around (takenFrom around .zero (partition 0)) (partition 1) ↔
      TakenLast around partition 1 := by
  rw [Takes, ← intact_iff, TakenLast, if_pos rfl]
  refine and_congr_right fun _ => ?_
  by_cases first : Intact around (partition 0)
  · have inside := insides 0 first.1
    rw [takenFrom, if_pos (takes_zero.mpr first),
      UInt16.lt_iff_toNat_lt, heldOver_zero_count inside]
    simp [first, heldOver_zero_magic first inside]
  · have skipped : takenFrom around .zero (partition 0) = .zero := by
      rw [takenFrom, if_neg fun takes => first (takes_zero.mp takes)]
    rw [skipped]
    simp [first, ParamFlash.zero]

/-- What the loop leaves in the working set, byte for byte. -/
theorem loadedRecord_parameters {index : Fin 2} (last : TakenLast around partition index)
    (place : Fin 704) : (loadedRecord around partition).parameters place =
      if (partition index).length.toNat = 724 ∨ 20 + place.val < (partition index).length.toNat then
        (partition index).parameters place else under around partition index place := by
  have second := second_taken_iff insides around
  rcases Fin.exists_fin_two.mp ⟨index, rfl⟩ with rfl | rfl
  · obtain ⟨first, skipped⟩ := last
    have stays : ¬Takes around (takenFrom around .zero (partition 0)) (partition 1) :=
      mt second.mp skipped
    rw [loadedRecord, takenFrom, if_neg stays, takenFrom, if_pos (takes_zero.mpr first),
      heldOver_parameters (insides 0 first.1)]
    rfl
  · have inside := insides 1 (intact_iff.mpr (second.mpr last).1).1
    rw [loadedRecord, takenFrom, if_pos (second.mpr last), heldOver_parameters inside]
    congr 1
    by_cases first : Intact around (partition 0)
    · rw [takenFrom, if_pos (takes_zero.mpr first), heldOver_zero_parameters (insides 0 first.1),
        under, if_pos ⟨rfl, first⟩]
    · rw [takenFrom, if_neg (mt takes_zero.mp first), under, if_neg fun both => first both.2]
      rfl

theorem initialSet_stored_iff :
    StoredSet around partition (initialSet around partition) ↔ TakenInFull around partition := by
  obtain ⟨-, -, damaged⟩ := loadPartitions_taken around partition
  rw [initialSet]
  by_cases all : ∀ index, Damaged around (partition index)
  · rw [if_pos (damaged.mpr all)]
    refine iff_of_true (.inr rfl) ?_
    intro index last
    exact absurd (intact_of_takenLast last) (damaged_iff.mp (all index))
  · rw [if_neg fun both => all (damaged.mp both)]
    constructor
    · intro stored index last
      have loaded := loadedRecord_parameters insides last
      by_cases whole : (partition index).length.toNat = 724
      · exact .inl (UInt16.toNat_inj.mp whole)
      · rw [storedSet_iff] at stored
        simp only [completes_iff whole loaded]
        exact .inr stored
    · intro full
      obtain ⟨index, last⟩ := exists_takenLast all
      have loaded := loadedRecord_parameters insides last
      rw [storedSet_iff]
      rcases full index last with whole | made
      · have same : (loadedRecord around partition).parameters = (partition index).parameters := by
          funext place
          rw [loaded, if_pos (.inl (congrArg UInt16.toNat whole))]
        exact .inl ⟨index, intact_of_takenLast last, same⟩
      · by_cases whole : (partition index).length.toNat = 724
        · have same : (loadedRecord around partition).parameters =
              (partition index).parameters := by
            funext place
            rw [loaded, if_pos (.inl whole)]
          exact .inl ⟨index, intact_of_takenLast last, same⟩
        · simp only [completes_iff whole loaded] at made
          exact made

end

end

/-- `tls_param_init` stays inside its structure and loads a whole set, on contents of the flash
where every record with the magic number has a length that fits and the one taken last is not
cut off. -/
theorem bootSafe_iff (around : Int → UInt8) (state : ParamState) :
    (∀ memory writes, BootSafe around memory writes state) ↔
      (∀ index, (state.partition index).magic = tlsParamMagic →
        InsideLength (state.partition index)) ∧ TakenInFull around state.partition := by
  rw [← loadPartitions_inside around]
  constructor
  · intro safe
    obtain ⟨log, sram, ok⟩ := init_run around (fun _ => .done) state
    obtain ⟨inside, stored⟩ := safe ⟨true, true⟩ fun _ => .done
    rw [log] at inside
    rw [sram] at stored
    have insides := (loadPartitions_inside around state.partition).mp inside
    exact ⟨inside, (initialSet_stored_iff insides).mp (stored (ok fun _ => rfl))⟩
  · rintro ⟨inside, full⟩ ⟨semaphore, buffer⟩ writes
    have insides := (loadPartitions_inside around state.partition).mp inside
    obtain ⟨log, sram, -⟩ := init_run around writes state
    cases semaphore with
    | false =>
        refine ⟨?_, ?_⟩
        · simp [tlsParamInit, powerOn_uninitialised, AllInside]
        · simp [tlsParamInit, powerOn_uninitialised]
    | true =>
        cases buffer with
        | false =>
            refine ⟨?_, ?_⟩
            · simp [tlsParamInit, powerOn_uninitialised, AllInside]
            · simp [tlsParamInit, powerOn_uninitialised]
        | true =>
            rw [BootSafe, log, sram]
            exact ⟨inside, fun _ => (initialSet_stored_iff insides).mpr full⟩

def oversizedState : ParamState :=
  { blankState with
    partition := fun _ => { ParamFlash.zero with magic := tlsParamMagic, length := 1000 } }

theorem oversized_not_bootSafe :
    ¬∀ memory writes, BootSafe (fun _ => 0) memory writes oversizedState := by
  intro safe
  obtain ⟨inside, -⟩ := safe ⟨true, true⟩ fun _ => .done
  rw [(init_run (fun _ => 0) (fun _ => .done) oversizedState).1, loadPartitions_inside] at inside
  exact absurd (inside 0 rfl).2 (by decide)

end SmartMeter
