import SmartMeter.Library.TwinSlots
import SmartMeter.Params.ParamCore

/-!
The two partitions as counted copies of a parameter set: what a stamped record is worth,
what `tls_param_init` loads and what one save does.
-/

namespace SmartMeter

open TwinSlots

theorem crcLoop_congr {first second : Nat → UInt8} {size : Nat}
    (same : ∀ index < size, first index = second index) :
    crcLoop first size = crcLoop second size := by
  induction size with
  | zero => rfl
  | succ size ih =>
      rw [crcLoop, crcLoop, same size (by omega), ih fun index bound => same index (by omega)]

theorem getCrc32_congr {first second : Nat → UInt8} {size : Nat}
    (same : ∀ index < size, first index = second index) :
    getCrc32 first size = getCrc32 second size := by
  rw [getCrc32, getCrc32, crcLoop_congr same]

def ParamFlash.Sealed (flash : ParamFlash) : Prop :=
  flash.magic = tlsParamMagic ∧ flash.length = UInt16.ofNat sizeofParamFlash ∧
    flash.crc32 = getCrc32 flash.byte (sizeofParamFlash - 4)

theorem byte_crc (flash : ParamFlash) {index : Nat} (bound : index < 4) :
    flash.byte (720 + index) = byteOf flash.crc32.toNat index := by
  have after : ¬720 + index - 16 < 704 := by omega
  simp only [ParamFlash.byte, after, dif_neg, not_false_eq_true]
  rw [if_neg (by omega), if_neg (by omega), if_neg (by omega), if_neg (by omega),
    if_neg (by omega), if_neg (by omega), Nat.add_sub_cancel_left]

theorem byte_front {first second : ParamFlash} {crc32 : UInt32}
    (same : second = { first with crc32 }) {index : Nat} (bound : index < 720) :
    second.byte index = first.byte index := by
  subst same
  have inside : index - 16 < 704 := by omega
  simp only [ParamFlash.byte, inside, dif_pos]

section

variable (around : Int → UInt8)

def entryOf (flash : ParamFlash) : Option (Entry Nat SysParam) :=
  if flash.magic = tlsParamMagic ∧ crcMatches around flash = true then
    some ⟨flash.modifyCount.toNat, flash.parameters⟩
  else none

def Damaged (flash : ParamFlash) : Prop :=
  entryOf around flash = none

theorem bufferByte_inside (flash : ParamFlash) {offset : Nat} (bound : offset < 724) :
    bufferByte around flash offset = flash.byte offset := by
  have inside : (0 : Int) ≤ offset ∧ (offset : Int) < (sizeofParamFlash : Nat) := by
    simp only [sizeofParamFlash]
    omega
  rw [bufferByte, if_pos inside, Int.toNat_natCast]

theorem crcMatches_of_length {flash : ParamFlash}
    (length : flash.length = UInt16.ofNat sizeofParamFlash) :
    crcMatches around flash = true ↔ flash.crc32 = getCrc32 flash.byte (sizeofParamFlash - 4) := by
  have front : frontSize flash.length = 720 := by
    rw [length]
    decide
  have offset : crcOffset flash.length = 720 := by
    rw [length]
    decide
  have sum : getCrc32 (fun offset => bufferByte around flash offset) 720 =
      getCrc32 flash.byte 720 :=
    getCrc32_congr fun index bound => bufferByte_inside around flash (by omega)
  have word : UInt32.ofNat (wordAt (fun index => bufferByte around flash (720 + index)) 0 4) =
      flash.crc32 := by
    apply wordAt_byteOf
    intro index bound
    rw [← byte_crc flash bound, ← bufferByte_inside around flash (by omega)]
    congr 1
    omega
  rw [crcMatches, front, offset, sum, word, decide_eq_true_iff, eq_comm]
  rfl

theorem entryOf_sealed {flash : ParamFlash} (isSealed : flash.Sealed) :
    entryOf around flash = some ⟨flash.modifyCount.toNat, flash.parameters⟩ := by
  obtain ⟨magic, length, crc⟩ := isSealed
  rw [entryOf, if_pos ⟨magic, (crcMatches_of_length around length).mpr crc⟩]

end

theorem stamp_sealed (modifyCount partitionNum : Int) (flash : ParamFlash) :
    (flash.stamp modifyCount partitionNum).Sealed := by
  refine ⟨rfl, rfl, ?_⟩
  refine getCrc32_congr fun index bound => (byte_front rfl ?_).symm
  have size : sizeofParamFlash - 4 = 720 := rfl
  omega

section

variable (around : Int → UInt8)

def slotsOf (partition : Fin 2 → ParamFlash) : Slots Nat SysParam :=
  fun index => entryOf around (partition index)

/-- Every copy that passes the test was written by this program: in full and with the number
of the partition that holds it. -/
def WellFormed (partition : Fin 2 → ParamFlash) : Prop :=
  ∀ index, Damaged around (partition index) ∨
    (partition index).Sealed ∧ (partition index).partitionNum = UInt16.ofNat index

variable {around} {flash : ParamFlash} {partition : Fin 2 → ParamFlash}

theorem entryOf_value {entry : Entry Nat SysParam} (holds : entryOf around flash = some entry) :
    entry.value = flash.parameters := by
  unfold entryOf at holds
  split at holds
  · rw [← Option.some.inj holds]
  · exact absurd holds (by simp)

theorem loadPartition_damaged (damaged : Damaged around flash) (i : Fin 2) (loading : Loading) :
    ∃ accesses, loadPartition around flash i loading = { loading with
      isDamage := Function.update loading.isDamage i true
      damaged := loading.damaged + 1
      accesses } := by
  rw [loadPartition]
  by_cases magic : flash.magic = tlsParamMagic
  · have crc : crcMatches around flash = false := by
      by_contra matched
      have intact : flash.magic = tlsParamMagic ∧ crcMatches around flash = true :=
        ⟨magic, by simpa using matched⟩
      rw [Damaged, entryOf, if_pos intact] at damaged
      exact absurd damaged (by simp)
    simp only [magic, ne_eq, not_true_eq_false, if_false, crc, if_true]
    exact ⟨_, rfl⟩
  · simp only [ne_eq, magic, not_false_eq_true, if_true]
    exact ⟨_, rfl⟩

theorem loadPartition_sealed (around : Int → UInt8) (isSealed : flash.Sealed) (i : Fin 2)
    (loading : Loading) :
    ∃ accesses, loadPartition around flash i loading =
      if loading.flashParam.magic = 0 ∨ loading.flashParam.modifyCount < flash.modifyCount then
        { loading with flashParam := flash, sramParam := flash.parameters, accesses }
      else { loading with accesses } := by
  obtain ⟨magic, length, crc⟩ := isSealed
  have matched : crcMatches around flash = true := (crcMatches_of_length around length).mpr crc
  rw [loadPartition]
  simp only [magic, ne_eq, not_true_eq_false, if_false, matched, Bool.true_eq_false, length]
  split
  · exact ⟨_, rfl⟩
  · exact ⟨_, rfl⟩

/-- What the loop over the partitions leaves, apart from the log of its accesses. -/
structure Loading.Of (around : Int → UInt8) (partition : Fin 2 → ParamFlash) (loading : Loading) :
    Prop where
  damage : ∀ index, loading.isDamage index = true ↔ Damaged around (partition index)
  both : 2 ≤ loading.damaged ↔ newest (slotsOf around partition) = none
  none : newest (slotsOf around partition) = none → loading.flashParam = .zero
  winner : ∀ index, newest (slotsOf around partition) = some index →
    loading.flashParam = partition index ∧ loading.sramParam = (partition index).parameters

theorem not_damaged_of_sealed (isSealed : flash.Sealed) : ¬Damaged around flash := by
  rw [Damaged, entryOf_sealed around isSealed]
  simp

theorem Loading.of_winner {loading : Loading} {winner : Fin 2}
    (found : newest (slotsOf around partition) = some winner)
    (damage : ∀ index, loading.isDamage index = true ↔ Damaged around (partition index))
    (few : loading.damaged < 2)
    (taken : loading.flashParam = partition winner ∧
      loading.sramParam = (partition winner).parameters) :
    loading.Of around partition := by
  refine ⟨damage, ?_, ?_, ?_⟩
  · rw [found]
    simp only [reduceCtorEq, iff_false]
    omega
  · rw [found]
    simp
  · intro index other
    obtain rfl : winner = index := Option.some.inj (found.symm.trans other)
    exact taken

theorem loadPartitions_of (wellFormed : WellFormed around partition) :
    (loadPartitions around partition).Of around partition := by
  let start : Loading := ⟨.zero, fun _ => 0, fun _ => false, 0, []⟩
  rcases wellFormed 0 with first | ⟨first, -⟩
  · have firstSlot : slotsOf around partition 0 = none := first
    obtain ⟨accesses, one⟩ := loadPartition_damaged first 0 start
    rcases wellFormed 1 with second | ⟨second, -⟩
    · have secondSlot : slotsOf around partition 1 = none := second
      obtain ⟨more, two⟩ := loadPartition_damaged second 1
        (loadPartition around (partition 0) 0 start)
      have ends : loadPartitions around partition = _ := two
      rw [one] at ends
      rw [ends]
      refine ⟨?_, ?_, fun _ => rfl, ?_⟩
      · intro index
        rcases slot_cases index with rfl | rfl
        · simp [first]
        · simp [second]
      · simp [newest, firstSlot, secondSlot, start]
      · simp [newest, firstSlot, secondSlot]
    · have secondSlot : slotsOf around partition 1 = some _ := entryOf_sealed around second
      obtain ⟨more, two⟩ := loadPartition_sealed around second 1
        (loadPartition around (partition 0) 0 start)
      have ends : loadPartitions around partition = _ := two
      rw [one, if_pos (.inl rfl)] at ends
      rw [ends]
      refine Loading.of_winner (by simp [newest, firstSlot, secondSlot]) ?_ Nat.one_lt_two ⟨rfl, rfl⟩
      intro index
      rcases slot_cases index with rfl | rfl
      · simp [first]
      · simp [not_damaged_of_sealed second, start]
  · have firstSlot : slotsOf around partition 0 = some _ := entryOf_sealed around first
    obtain ⟨accesses, one⟩ := loadPartition_sealed around first 0 start
    rw [if_pos (.inl rfl)] at one
    have magic : ¬(partition 0).magic = 0 := by
      rw [first.1]
      decide
    rcases wellFormed 1 with second | ⟨second, -⟩
    · have secondSlot : slotsOf around partition 1 = none := second
      obtain ⟨more, two⟩ := loadPartition_damaged second 1
        (loadPartition around (partition 0) 0 start)
      have ends : loadPartitions around partition = _ := two
      rw [one] at ends
      rw [ends]
      refine Loading.of_winner (by simp [newest, firstSlot, secondSlot]) ?_ Nat.one_lt_two ⟨rfl, rfl⟩
      intro index
      rcases slot_cases index with rfl | rfl
      · simp [not_damaged_of_sealed first, start]
      · simp [second]
    · have secondSlot : slotsOf around partition 1 = some _ := entryOf_sealed around second
      have clean (index : Fin 2) : start.isDamage index = true ↔
          Damaged around (partition index) := by
        rcases slot_cases index with rfl | rfl
        · simp [not_damaged_of_sealed first, start]
        · simp [not_damaged_of_sealed second, start]
      obtain ⟨more, two⟩ := loadPartition_sealed around second 1
        (loadPartition around (partition 0) 0 start)
      have ends : loadPartitions around partition = _ := two
      rw [one] at ends
      simp only [magic, false_or] at ends
      by_cases less : (partition 0).modifyCount < (partition 1).modifyCount
      · have lessNat := UInt16.lt_iff_toNat_lt.mp less
        rw [if_pos less] at ends
        rw [ends]
        exact Loading.of_winner (by simp [newest, firstSlot, secondSlot, lessNat]) clean
          Nat.two_pos ⟨rfl, rfl⟩
      · have lessNat : ¬(partition 0).modifyCount.toNat < (partition 1).modifyCount.toNat :=
          fun below => less (UInt16.lt_iff_toNat_lt.mpr below)
        rw [if_neg less] at ends
        rw [ends]
        exact Loading.of_winner (by simp [newest, firstSlot, secondSlot, lessNat]) clean
          Nat.two_pos ⟨rfl, rfl⟩

end

theorem ofCode_range {id : Int} {param : ParamId} (valid : ParamId.ofCode id = some param) :
    ¬(id < -1 ∨ 51 ≤ id) := by
  unfold ParamId.ofCode at valid
  split at valid <;> simp at valid ⊢

theorem paramToFlash_valid {id : Int} {param : ParamId} (valid : ParamId.ofCode id = some param)
    (write : FlashWrite) (modifyCount partitionNum : Int) (state : ParamState) :
    paramToFlash write id modifyCount partitionNum state =
      ParamState.write write { state with
        flashParam := { state.flashParam with
          parameters := copyFields (flashArm param) state.sramParam
            state.flashParam.parameters }.stamp modifyCount partitionNum } := by
  rw [paramToFlash, if_neg (ofCode_range valid), valid]

theorem copyFields_all (src dest : SysParam) : copyFields (flashArm .all) src dest = src := by
  funext index
  have covered : Field.all.Covers index := ⟨Nat.zero_le _, by simp [Field.all]⟩
  simp [copyFields, flashArm, Field.copy, covered]

theorem paramToFlash_all (write : FlashWrite) (modifyCount partitionNum : Int)
    (state : ParamState) :
    paramToFlash write (-1) modifyCount partitionNum state =
      ParamState.write write { state with
        flashParam := { state.flashParam with parameters := state.sramParam }.stamp
          modifyCount partitionNum } := by
  have valid : ParamId.ofCode (-1) = some .all := rfl
  rw [paramToFlash_valid valid, copyFields_all]

theorem paramToFlash_invalid {id : Int} (invalid : ParamId.ofCode id = none)
    (write : FlashWrite) (modifyCount partitionNum : Int) (state : ParamState) :
    paramToFlash write id modifyCount partitionNum state = (some .einvalid, state) ∨
      paramToFlash write id modifyCount partitionNum state = (some .einvalidid, state) := by
  rw [paramToFlash, invalid]
  split
  · exact .inl rfl
  · exact .inr rfl

@[simp] theorem stamp_parameters (modifyCount partitionNum : Int) (flash : ParamFlash) :
    (flash.stamp modifyCount partitionNum).parameters = flash.parameters := rfl

@[simp] theorem stamp_count (partitionNum : Int) (flash : ParamFlash) :
    (flash.stamp (-1) partitionNum).modifyCount = flash.modifyCount + 1 := rfl

@[simp] theorem stamp_first (partitionNum : Int) (flash : ParamFlash) :
    (flash.stamp 1 partitionNum).modifyCount = 1 := rfl

@[simp] theorem stamp_alternate (modifyCount : Int) (flash : ParamFlash) :
    (flash.stamp modifyCount (-1)).partitionNum = (flash.partitionNum + 1) &&& 1 := rfl

theorem stamp_partition (modifyCount : Int) (index : Fin 2) (flash : ParamFlash) :
    (flash.stamp modifyCount index).partitionNum = UInt16.ofNat index := by
  rcases slot_cases index with rfl | rfl
  · rfl
  · rfl

theorem partitionIndex_ofNat (index : Fin 2) : partitionIndex (UInt16.ofNat index) = index := by
  rcases slot_cases index with rfl | rfl
  · rfl
  · rfl

theorem alternate_cases (number : UInt16) :
    ∃ target : Fin 2, (number + 1) &&& 1 = UInt16.ofNat target := by
  have bit : ((number + 1) &&& 1).toNat = (number + 1).toNat % 2 := by
    simp only [UInt16.toNat_and, UInt16.reduceToNat, Nat.and_one_is_mod]
  rcases Nat.mod_two_eq_zero_or_one (number + 1).toNat with even | odd
  · exact ⟨0, UInt16.toNat_inj.mp (bit.trans even)⟩
  · exact ⟨1, UInt16.toNat_inj.mp (bit.trans odd)⟩

theorem alternate_ofNat (index : Fin 2) :
    (UInt16.ofNat index + 1) &&& 1 = UInt16.ofNat (index + 1 : Fin 2) := by
  rcases slot_cases index with rfl | rfl
  · rfl
  · rfl

theorem modifyCount_succ (count : UInt16) (bounded : count.toNat < 65535) :
    (count + 1).toNat = count.toNat + 1 := by
  rw [UInt16.toNat_add]
  exact Nat.mod_eq_of_lt (by simp only [UInt16.reduceToNat]; omega)

theorem tlsParamSet_invalid {id : Int} (invalid : ParamId.ofCode id = none)
    (write : FlashWrite) (argv : List UInt8) (toFlash : Bool) (state : ParamState) :
    tlsParamSet write id argv toFlash state = (some .einvalid, state) ∨
      tlsParamSet write id argv toFlash state = (some .einvalidid, state) := by
  rw [tlsParamSet, invalid]
  split
  · exact .inl rfl
  · exact .inr rfl

def ParamState.withSram (sramParam : SysParam) (state : ParamState) : ParamState :=
  { state with sramParam }

def ParamState.assign (param : ParamId) (argv : List UInt8) (state : ParamState) : ParamState :=
  state.withSram ((setArm param).set argv state.sramParam)

theorem tlsParamSet_valid {id : Int} {param : ParamId} (valid : ParamId.ofCode id = some param)
    (write : FlashWrite) (argv : List UInt8) (toFlash : Bool) {state : ParamState}
    (updp : state.updpMode = false) :
    tlsParamSet write id argv toFlash state =
      if toFlash then paramToFlash write id (-1) (-1) (state.assign param argv)
      else (some .ok, state.assign param argv) := by
  have normal : ¬state.updpMode = true := by simp [updp]
  rw [tlsParamSet, if_neg (ofCode_range valid), valid]
  exact if_neg normal

/-- A write that does not succeed leaves bytes that fail the test. -/
def FlashWrite.Damages (around : Int → UInt8) : FlashWrite → Prop
  | .done => True
  | .failed left => Damaged around left
  | .cut left => Damaged around left

def FlashWrite.leaves (entry : Entry Nat SysParam) : FlashWrite → Option (Entry Nat SysParam)
  | .done => some entry
  | _ => none

def FlashWrite.status : FlashWrite → Option ParamStatus
  | .done => some .ok
  | .failed _ => some .eio
  | .cut _ => none

section

variable {around : Int → UInt8} {write : FlashWrite} {state : ParamState} {index : Fin 2}

theorem write_status : (state.write write).1 = write.status := by
  cases write with
  | done => rfl
  | failed left => rfl
  | cut left => rfl

theorem write_ram : (state.write write).2.flashParam = state.flashParam ∧
    (state.write write).2.sramParam = state.sramParam ∧
      (state.write write).2.updpMode = state.updpMode := by
  cases write with
  | done => exact ⟨rfl, rfl, rfl⟩
  | failed left => exact ⟨rfl, rfl, rfl⟩
  | cut left => exact ⟨rfl, rfl, rfl⟩

theorem write_partition (number : state.flashParam.partitionNum = UInt16.ofNat index) :
    ∃ stored, (state.write write).2.partition = Function.update state.partition index stored ∧
      (write = .done ∧ stored = state.flashParam ∨
        write = .failed stored ∨ write = .cut stored) := by
  have target : partitionIndex state.flashParam.partitionNum = index := by
    rw [number, partitionIndex_ofNat]
  cases write with
  | done =>
      refine ⟨state.flashParam, ?_, .inl ⟨rfl, rfl⟩⟩
      rw [← target]
      rfl
  | failed left =>
      refine ⟨left, ?_, .inr (.inl rfl)⟩
      rw [← target]
      rfl
  | cut left =>
      refine ⟨left, ?_, .inr (.inr rfl)⟩
      rw [← target]
      rfl

theorem slotsOf_update (partition : Fin 2 → ParamFlash) (stored : ParamFlash) :
    slotsOf around (Function.update partition index stored) =
      Function.update (slotsOf around partition) index (entryOf around stored) := by
  funext other
  by_cases same : other = index
  · subst same
    simp [slotsOf]
  · simp [slotsOf, same]

theorem write_slots (damages : write.Damages around) (isSealed : state.flashParam.Sealed)
    (number : state.flashParam.partitionNum = UInt16.ofNat index) :
    slotsOf around (state.write write).2.partition =
      Function.update (slotsOf around state.partition) index
        (write.leaves ⟨state.flashParam.modifyCount.toNat, state.flashParam.parameters⟩) := by
  obtain ⟨stored, ends, ⟨rfl, rfl⟩ | rfl | rfl⟩ := @write_partition write _ _ number
  · rw [ends, slotsOf_update, entryOf_sealed around isSealed]
    rfl
  · rw [ends, slotsOf_update]
    exact congrArg _ damages
  · rw [ends, slotsOf_update]
    exact congrArg _ damages

theorem write_wellFormed (wellFormed : WellFormed around state.partition)
    (damages : write.Damages around) (isSealed : state.flashParam.Sealed)
    (number : state.flashParam.partitionNum = UInt16.ofNat index) :
    WellFormed around (state.write write).2.partition := by
  obtain ⟨stored, ends, outcome⟩ := @write_partition write _ _ number
  rw [ends]
  intro other
  by_cases same : other = index
  · subst same
    rw [Function.update_self]
    rcases outcome with ⟨-, rfl⟩ | rfl | rfl
    · exact .inr ⟨isSealed, number⟩
    · exact .inl damages
    · exact .inl damages
  · rw [Function.update_of_ne same]
    exact wellFormed other

end

/-- What one write of `flash_param` does: `entry` is what it puts into partition `target`. -/
structure SavesTo (around : Int → UInt8) (state : ParamState) (target : Fin 2)
    (entry : Entry Nat SysParam) (write : FlashWrite) (result : ParamReturn) : Prop where
  status : result.1 = write.status
  sram : result.2.sramParam = state.sramParam
  updp : result.2.updpMode = state.updpMode
  mirror : result.2.flashParam.parameters = entry.value
  count : result.2.flashParam.modifyCount.toNat = entry.count
  number : result.2.flashParam.partitionNum = UInt16.ofNat target
  slots : slotsOf around result.2.partition =
    Function.update (slotsOf around state.partition) target (write.leaves entry)
  frame : ∀ other, other ≠ target → result.2.partition other = state.partition other
  wellFormed : WellFormed around state.partition → WellFormed around result.2.partition

section

variable {around : Int → UInt8} {write : FlashWrite} {target : Fin 2}

theorem write_saves (damages : write.Damages around) {state : ParamState}
    (isSealed : state.flashParam.Sealed)
    (number : state.flashParam.partitionNum = UInt16.ofNat target) :
    SavesTo around state target
      ⟨state.flashParam.modifyCount.toNat, state.flashParam.parameters⟩ write
      (state.write write) := by
  obtain ⟨flash, sram, updp⟩ := @write_ram write state
  refine ⟨write_status, sram, updp, by rw [flash], by rw [flash], by rw [flash, number],
    write_slots damages isSealed number, ?_, ?_⟩
  · intro other different
    obtain ⟨stored, ends, -⟩ := @write_partition write _ _ number
    rw [ends, Function.update_of_ne different]
  · intro wellFormed
    exact write_wellFormed wellFormed damages isSealed number

theorem SavesTo.stored {state : ParamState} {entry : Entry Nat SysParam} {result : ParamReturn}
    (saves : SavesTo around state target entry .done result) :
    (result.2.partition target).parameters = entry.value := by
  have slots := congrFun saves.slots target
  rw [Function.update_self] at slots
  exact (entryOf_value slots).symm

/-- The counter and the partition that `param_to_flash` chooses by itself. -/
theorem paramToFlash_saves {id : Int} {param : ParamId} (valid : ParamId.ofCode id = some param)
    (damages : write.Damages around) {state : ParamState} {current : Fin 2}
    (number : state.flashParam.partitionNum = UInt16.ofNat current) :
    SavesTo around state (current + 1) ⟨(state.flashParam.modifyCount + 1).toNat,
        copyFields (flashArm param) state.sramParam state.flashParam.parameters⟩ write
      (paramToFlash write id (-1) (-1) state) := by
  rw [paramToFlash_valid valid]
  generalize merged : { state with flashParam := ({ state.flashParam with
    parameters := copyFields (flashArm param) state.sramParam
      state.flashParam.parameters } : ParamFlash).stamp (-1) (-1) } = stamped
  have isSealed : stamped.flashParam.Sealed := by
    rw [← merged]
    exact stamp_sealed _ _ _
  have next : stamped.flashParam.partitionNum = UInt16.ofNat (current + 1 : Fin 2) := by
    rw [← merged, ← alternate_ofNat, ← number]
    rfl
  have saves := write_saves damages isSealed next
  subst merged
  exact ⟨saves.status, saves.sram, saves.updp, saves.mirror, saves.count, saves.number,
    saves.slots, saves.frame, saves.wellFormed⟩

end

def ParamState.boot (around : Int → UInt8) (writes : Fin 2 → FlashWrite) (state : ParamState) :
    ParamReturn :=
  (tlsParamInit around ⟨true, true⟩ writes state.powerOn).1

def ParamState.loadedWith (flash : ParamFlash) (state : ParamState) : ParamState :=
  { state.powerOn with flashParam := flash, sramParam := flash.parameters }

def factoryFlash (index : Fin 2) (flash : ParamFlash) : ParamFlash :=
  { flash with parameters := factoryDefault }.stamp 1 index

def ParamState.factory (index : Fin 2) (state : ParamState) : ParamState :=
  { state with
    flashParam := factoryFlash index state.flashParam
    sramParam := factoryDefault }

/-- Both partitions with the factory defaults; the second is left alone when the first write
does not succeed. -/
def ParamState.writeDefaults (writes : Fin 2 → FlashWrite) (state : ParamState) : ParamReturn :=
  match writes 0 with
  | .done => (((state.factory 0).write .done).2.factory 1).write (writes 1)
  | stopped => (state.factory 0).write stopped

def factoryEntry : Entry Nat SysParam := ⟨1, factoryDefault⟩

section

variable {around : Int → UInt8} {writes : Fin 2 → FlashWrite} {state : ParamState}

theorem factory_saves {write : FlashWrite} (damages : write.Damages around) (index : Fin 2)
    (state : ParamState) :
    SavesTo around (state.factory index) index factoryEntry write
      ((state.factory index).write write) :=
  write_saves damages (stamp_sealed _ _ _) (stamp_partition _ _ _)

theorem writeDefaults_wellFormed (damages : ∀ index, (writes index).Damages around)
    (wellFormed : WellFormed around state.partition) :
    WellFormed around (state.writeDefaults writes).2.partition := by
  have first := (factory_saves (damages 0) 0 state).wellFormed wellFormed
  rw [ParamState.writeDefaults]
  cases ends : writes 0 with
  | done =>
      rw [ends] at first
      exact (factory_saves (damages 1) 1 _).wellFormed first
  | failed left =>
      rw [ends] at first
      exact first
  | cut left =>
      rw [ends] at first
      exact first

theorem writeDefaults_ram :
    (state.writeDefaults writes).2.sramParam = factoryDefault ∧
      (state.writeDefaults writes).2.flashParam.parameters = factoryDefault ∧
      (state.writeDefaults writes).2.updpMode = state.updpMode := by
  rw [ParamState.writeDefaults]
  cases writes 0 with
  | done =>
      obtain ⟨flash, sram, updp⟩ :=
        @write_ram (writes 1) (((state.factory 0).write .done).2.factory 1)
      exact ⟨sram, congrArg ParamFlash.parameters flash, updp⟩
  | failed left => exact ⟨rfl, rfl, rfl⟩
  | cut left => exact ⟨rfl, rfl, rfl⟩

theorem writeDefaults_count : (state.writeDefaults writes).2.flashParam.modifyCount.toNat = 1 := by
  rw [ParamState.writeDefaults]
  cases writes 0 with
  | done => rw [write_ram.1]; rfl
  | failed left => rfl
  | cut left => rfl

theorem writeDefaults_number (done : writes 0 = .done) :
    (state.writeDefaults writes).2.flashParam.partitionNum = UInt16.ofNat (1 : Fin 2) := by
  rw [ParamState.writeDefaults, done, write_ram.1]
  rfl

theorem writeDefaults_stopped (stopped : writes 0 ≠ .done) :
    (state.writeDefaults writes).2.flashParam.partitionNum = UInt16.ofNat (0 : Fin 2) ∧
      (state.writeDefaults writes).2.partition 1 = state.partition 1 := by
  rw [ParamState.writeDefaults]
  cases ends : writes 0 with
  | done => exact absurd ends stopped
  | failed left => exact ⟨rfl, rfl⟩
  | cut left => exact ⟨rfl, rfl⟩

theorem writeDefaults_status : (state.writeDefaults writes).1 =
    match writes 0 with
    | .done => (writes 1).status
    | stopped => stopped.status := by
  rw [ParamState.writeDefaults]
  cases writes 0 with
  | done => exact write_status
  | failed left => rfl
  | cut left => rfl

theorem writeDefaults_slots (damages : ∀ index, (writes index).Damages around) :
    slotsOf around (state.writeDefaults writes).2.partition =
      match writes 0 with
      | .done => Function.update (Function.update (slotsOf around state.partition) 0
          (some factoryEntry)) 1 ((writes 1).leaves factoryEntry)
      | _ => Function.update (slotsOf around state.partition) 0 none := by
  have first := (factory_saves (damages 0) 0 state).slots
  rw [ParamState.writeDefaults]
  cases ends : writes 0 with
  | done =>
      have second := (factory_saves (damages 1) 1 ((state.factory 0).write .done).2).slots
      rw [ends] at first
      exact second.trans (congrArg (Function.update · 1 _) first)
  | failed left =>
      rw [ends] at first
      exact first
  | cut left =>
      rw [ends] at first
      exact first

theorem writeDefaults_prevails
    (damages : ∀ index, (writes index).Damages around) (first : writes 0 = .done) :
    Prevails (slotsOf around (state.writeDefaults writes).2.partition) 0 factoryEntry := by
  rw [writeDefaults_slots damages, first]
  refine ⟨rfl, ?_⟩
  intro rival beside
  have second : (writes 1).leaves factoryEntry = some rival := beside
  cases ends : writes 1 with
  | done =>
      rw [ends] at second
      exact .inr (congrArg Entry.value (Option.some.inj second)).symm
  | failed left => simp [ends, FlashWrite.leaves] at second
  | cut left => simp [ends, FlashWrite.leaves] at second

theorem writeDefaults_prevails_second
    (damages : ∀ index, (writes index).Damages around) (first : writes 0 = .done)
    (second : writes 1 = .done) :
    Prevails (slotsOf around (state.writeDefaults writes).2.partition) 1 factoryEntry := by
  rw [writeDefaults_slots damages, first, second]
  refine ⟨rfl, ?_⟩
  intro rival beside
  exact .inr (congrArg Entry.value (Option.some.inj beside)).symm

end

section

variable {around : Int → UInt8} {writes : Fin 2 → FlashWrite} {state : ParamState}
  {winner : Fin 2}

theorem initStatus_write (write : FlashWrite) (state : ParamState) :
    initStatus (state.write write) = state.write write := by
  cases write with
  | done => rfl
  | failed left => rfl
  | cut left => rfl

/-- The number in the record of the copy that is restored into partition `index`. -/
def ParamState.restored (index : Fin 2) (state : ParamState) : ParamState :=
  { state with flashParam := state.flashParam.stamp (-1) index }

theorem powerOn_uninitialised : ¬state.powerOn.flashParam.magic = tlsParamMagic := by
  simp only [ParamState.powerOn, ParamFlash.zero]
  decide

theorem boot_intact (wellFormed : WellFormed around state.partition)
    (found : newest (slotsOf around state.partition) = some winner)
    (beside : ¬Damaged around (state.partition (winner + 1))) :
    state.boot around writes = (some .ok, state.loadedWith (state.partition winner)) := by
  obtain ⟨damage, both, -, taken⟩ := loadPartitions_of wellFormed
  obtain ⟨entry, holds⟩ := newest_entry found
  have own : ¬Damaged around (state.partition winner) := by
    intro damaged
    exact absurd (damaged.symm.trans holds) (by simp)
  have clean (index : Fin 2) : (loadPartitions around state.partition).isDamage index = false := by
    have intact : ¬Damaged around (state.partition index) := by
      by_cases same : index = winner
      · exact same ▸ own
      · have other : index = winner + 1 := by omega
        exact other ▸ beside
    rw [← damage] at intact
    simpa using intact
  have few : ¬2 ≤ (loadPartitions around state.partition).damaged := by
    rw [both, found]
    simp
  have same : state.powerOn.partition = state.partition := rfl
  rw [ParamState.boot, tlsParamInit, if_neg powerOn_uninitialised]
  simp only [Bool.true_eq_false, if_false, same, few, clean, Bool.false_eq_true, taken winner found]
  rfl

theorem boot_repair (wellFormed : WellFormed around state.partition)
    (found : newest (slotsOf around state.partition) = some winner)
    (beside : Damaged around (state.partition (winner + 1))) :
    state.boot around writes =
      ((state.loadedWith (state.partition winner)).restored (winner + 1)).write
        (writes (winner + 1)) := by
  obtain ⟨damage, both, -, taken⟩ := loadPartitions_of wellFormed
  obtain ⟨entry, holds⟩ := newest_entry found
  have own : (loadPartitions around state.partition).isDamage winner = false := by
    have intact : ¬Damaged around (state.partition winner) := by
      intro damaged
      exact absurd (damaged.symm.trans holds) (by simp)
    rw [← damage] at intact
    simpa using intact
  have other := (damage (winner + 1)).mpr beside
  have few : ¬2 ≤ (loadPartitions around state.partition).damaged := by
    rw [both, found]
    simp
  have same : state.powerOn.partition = state.partition := rfl
  rw [ParamState.boot, tlsParamInit, if_neg powerOn_uninitialised]
  simp only [Bool.true_eq_false, if_false, same, few, taken winner found, paramToFlash_all,
    initStatus_write]
  rcases slot_cases winner with rfl | rfl
  · have other : (loadPartitions around state.partition).isDamage 1 = true := other
    simp only [own, other, Bool.false_eq_true, if_false, if_true]
    rfl
  · have other : (loadPartitions around state.partition).isDamage 0 = true := other
    have first : (1 + 1 : Fin 2) = 0 := rfl
    simp only [own, other, Bool.false_eq_true, if_false, if_true, first]
    cases writes 0 with
    | done => rfl
    | failed left => rfl
    | cut left => rfl

theorem boot_factory (wellFormed : WellFormed around state.partition)
    (none : newest (slotsOf around state.partition) = none) :
    state.boot around writes = state.powerOn.writeDefaults writes := by
  obtain ⟨damage, both, zero, -⟩ := loadPartitions_of wellFormed
  have all := both.mpr none
  have same : state.powerOn.partition = state.partition := rfl
  rw [ParamState.boot, tlsParamInit, if_neg powerOn_uninitialised]
  simp only [Bool.true_eq_false, if_false, same, all, if_true, zero none, paramToFlash_all,
    initStatus_write, ParamState.writeDefaults]
  cases writes 0 with
  | done => rfl
  | failed left => rfl
  | cut left => rfl

theorem newest_sealed (wellFormed : WellFormed around state.partition)
    (found : newest (slotsOf around state.partition) = some winner) :
    (state.partition winner).Sealed ∧
      (state.partition winner).partitionNum = UInt16.ofNat winner := by
  obtain ⟨entry, holds⟩ := newest_entry found
  rcases wellFormed winner with damaged | intact
  · exact absurd (damaged.symm.trans holds) (by simp)
  · exact intact

/-- The repair is a save of what was loaded into the partition beside it. -/
theorem boot_repair_saves (wellFormed : WellFormed around state.partition)
    (damages : ∀ index, (writes index).Damages around)
    (found : newest (slotsOf around state.partition) = some winner)
    (beside : Damaged around (state.partition (winner + 1))) :
    SavesTo around (state.loadedWith (state.partition winner)) (winner + 1)
      ⟨((state.partition winner).modifyCount + 1).toNat, (state.partition winner).parameters⟩
      (writes (winner + 1)) (state.boot around writes) := by
  have saves := @write_saves around (writes (winner + 1)) (winner + 1) (damages _)
    ((state.loadedWith (state.partition winner)).restored (winner + 1))
    (stamp_sealed _ _ _) (stamp_partition _ _ _)
  rw [boot_repair wellFormed found beside]
  exact ⟨saves.status, saves.sram, saves.updp, saves.mirror, saves.count, saves.number,
    saves.slots, saves.frame, saves.wellFormed⟩

theorem boot_status (wellFormed : WellFormed around state.partition)
    (done : ∀ index, writes index = .done) : (state.boot around writes).1 = some .ok := by
  cases found : newest (slotsOf around state.partition) with
  | none =>
      rw [boot_factory wellFormed found, writeDefaults_status, done 0, done 1]
      rfl
  | some winner =>
      by_cases beside : Damaged around (state.partition (winner + 1))
      · rw [boot_repair wellFormed found beside, done]
        rfl
      · rw [boot_intact wellFormed found beside]

/-- The set that prevails is loaded, however the repair of the other copy ends. -/
theorem boot_loads (wellFormed : WellFormed around state.partition)
    (damages : ∀ index, (writes index).Damages around) {slot : Fin 2} {entry : Entry Nat SysParam}
    (prevails : Prevails (slotsOf around state.partition) slot entry) :
    (state.boot around writes).2.sramParam = entry.value ∧
      (state.boot around writes).2.flashParam.parameters = entry.value := by
  obtain ⟨winner, taken, found, wins, value⟩ := prevails.newest
  obtain ⟨isSealed, -⟩ := newest_sealed wellFormed found
  have holds : taken =
      ⟨(state.partition winner).modifyCount.toNat, (state.partition winner).parameters⟩ :=
    Option.some.inj (wins.1.symm.trans (entryOf_sealed around isSealed))
  subst holds
  rw [← value]
  by_cases beside : Damaged around (state.partition (winner + 1))
  · have saves := boot_repair_saves wellFormed damages found beside
    exact ⟨saves.sram, saves.mirror⟩
  · rw [boot_intact wellFormed found beside]
    exact ⟨rfl, rfl⟩

theorem boot_loads_default (wellFormed : WellFormed around state.partition)
    (blank : newest (slotsOf around state.partition) = none) :
    (state.boot around writes).2.sramParam = factoryDefault ∧
      (state.boot around writes).2.flashParam.parameters = factoryDefault := by
  rw [boot_factory wellFormed blank]
  exact ⟨writeDefaults_ram.1, writeDefaults_ram.2.1⟩

end

end SmartMeter
