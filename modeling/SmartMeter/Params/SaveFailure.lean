import SmartMeter.Params.FactoryReset

/-!
Saves that fail. `param_to_flash` counts and switches before it writes and does not go back
when the write fails, so the next save is aimed at the last good copy, and the comparison of
`tls_param_to_flash` looks at a set that was never stored.
-/

namespace SmartMeter

open TwinSlots

/-- The write succeeds, or fails and leaves bytes that do not pass the test. -/
def FlashWrite.Fails (around : Int → UInt8) : FlashWrite → Prop
  | .done => True
  | .failed left => Damaged around left
  | .cut _ => False

def ParamOp.Fails (around : Int → UInt8) : ParamOp → Prop
  | .set _ _ _ write => write.Fails around
  | .toFlash _ write => write.Fails around
  | .toDefault writes => ∀ index, (writes index).Fails around
  | .reboot writes => ∀ index, (writes index).Fails around

structure GoodCopy where
  index : Fin 2
  record : ParamFlash

def durableSet : Option GoodCopy → SysParam
  | some copy => copy.record.parameters
  | none => factoryDefault

def ParamState.current (state : ParamState) : Fin 2 :=
  partitionIndex state.flashParam.partitionNum

def ParamState.copyAt (state : ParamState) (index : Fin 2) : GoodCopy :=
  ⟨index, state.partition index⟩

def ParamOp.stores : ParamOp → ParamState → Bool
  | .set id _ stored _, state => stored && (ParamId.ofCode id).isSome && !state.updpMode
  | .toFlash id _, state => (ParamId.ofCode id).isSome &&
      !(id = -1 && decide (state.sramParam = state.flashParam.parameters))
  | _, _ => false

/-- The copy in the current partition, if the write of it was reported as good. -/
def noteWritten (result : ParamReturn) (good : Option GoodCopy) : Option GoodCopy :=
  if result.1 = some .ok then some (result.2.copyAt result.2.current) else good

def goodBy (around : Int → UInt8) (device : ParamDevice) (op : ParamOp) (good : Option GoodCopy) :
    Option GoodCopy :=
  let result := op.run around device.state
  let beside := result.2.copyAt (result.2.current + 1)
  match op with
  | .reboot _ => noteWritten result
      (match good with
        | some copy => some copy
        | none => if (entryOf around beside.record).isSome then some beside else none)
  | .toDefault writes =>
      if device.powered then
        match writes 0, writes 1 with
        | .done, .done => some (result.2.copyAt 1)
        | .done, _ => some (result.2.copyAt 0)
        | _, _ => good
      else good
  | _ => if device.powered && op.stores device.state then noteWritten result good else good

structure WatchedDevice where
  device : ParamDevice
  good : Option GoodCopy

def WatchedDevice.step (around : Int → UInt8) (watched : WatchedDevice) (op : ParamOp) :
    WatchedDevice :=
  ⟨watched.device.step around op, goodBy around watched.device op watched.good⟩

/-- A write of partition `target` that fails does not hit the last good copy. -/
def Spares (good : Option GoodCopy) (target : Fin 2) : FlashWrite → Prop
  | .done => True
  | _ => ∀ copy, good = some copy → copy.index ≠ target

/-- A write that succeeds does not bring the counter round to zero beside an intact copy. -/
def CountsUp (around : Int → UInt8) (state : ParamState) : FlashWrite → Prop
  | .done => Damaged around (state.partition state.current) ∨ state.flashParam.modifyCount ≠ 65535
  | _ => True

def SafeWrite (around : Int → UInt8) (watched : WatchedDevice) (write : FlashWrite) : Prop :=
  Spares watched.good (watched.device.state.current + 1) write ∧
    CountsUp around watched.device.state write

/-- What keeps the saves of a run durable and harmless. -/
def SafeCall (around : Int → UInt8) (watched : WatchedDevice) (op : ParamOp) : Prop :=
  watched.device.powered = true →
    match op with
    | .set _ _ _ write => op.stores watched.device.state = true → SafeWrite around watched write
    | .toFlash id write =>
        (op.stores watched.device.state = true → SafeWrite around watched write) ∧
          (id = -1 → watched.device.state.sramParam = watched.device.state.flashParam.parameters →
            durableSet watched.good = watched.device.state.flashParam.parameters)
    | .toDefault writes => Spares watched.good 0 (writes 0)
    | .reboot _ => True

def HoldsGood (around : Int → UInt8) (partition : Fin 2 → ParamFlash) (good : Option GoodCopy) :
    Prop :=
  match good with
  | none => newest (slotsOf around partition) = none
  | some copy => partition copy.index = copy.record ∧
      ∃ entry, Prevails (slotsOf around partition) copy.index entry

structure Guarded (around : Int → UInt8) (watched : WatchedDevice) : Prop where
  wellFormed : WellFormed around watched.device.state.partition
  good : HoldsGood around watched.device.state.partition watched.good
  on : watched.device.powered = true → watched.device.state.updpMode = false ∧
    ∃ current : Fin 2, watched.device.state.flashParam.partitionNum = UInt16.ofNat current ∧
      (slotsOf around watched.device.state.partition current = none ∨
        slotsOf around watched.device.state.partition current =
          some ⟨watched.device.state.flashParam.modifyCount.toNat,
            watched.device.state.flashParam.parameters⟩)

section

variable {around : Int → UInt8} {watched : WatchedDevice} {state : ParamState}
  {good : Option GoodCopy}

theorem fails_damages {write : FlashWrite} (fails : write.Fails around) :
    write.Damages around := by
  cases write with
  | done => trivial
  | failed left => exact fails
  | cut left => exact fails.elim

theorem holdsGood_copyAt {index : Fin 2} {entry : Entry Nat SysParam}
    (prevails : Prevails (slotsOf around state.partition) index entry) :
    HoldsGood around state.partition (some (state.copyAt index)) :=
  ⟨rfl, entry, prevails⟩

theorem prevails_value {index : Fin 2} {entry : Entry Nat SysParam}
    (prevails : Prevails (slotsOf around state.partition) index entry) :
    entry.value = (state.partition index).parameters :=
  entryOf_value prevails.1

theorem HoldsGood.spared {partition : Fin 2 → ParamFlash}
    (holds : HoldsGood around state.partition good) {target : Fin 2}
    (spares : ∀ copy, good = some copy → copy.index ≠ target)
    (frame : ∀ other, other ≠ target → partition other = state.partition other)
    (slots : slotsOf around partition =
      Function.update (slotsOf around state.partition) target none) :
    HoldsGood around partition good := by
  cases good with
  | none =>
      obtain ⟨first, second⟩ := newest_eq_none.mp holds
      refine newest_eq_none.mpr ?_
      rw [slots]
      rcases slot_cases target with rfl | rfl
      · exact ⟨rfl, second⟩
      · exact ⟨first, rfl⟩
  | some copy =>
      obtain ⟨same, entry, prevails⟩ := holds
      have different := spares copy rfl
      obtain rfl : target = copy.index + 1 := by omega
      refine ⟨(frame copy.index different).trans same, entry, ?_⟩
      rw [slots]
      exact prevails.damage

theorem guarded_save {write : FlashWrite} {current : Fin 2} {parameters : SysParam}
    {result : ParamReturn} (wellFormed : WellFormed around state.partition)
    (holds : HoldsGood around state.partition good) (fails : write.Fails around)
    (older : ∀ rival, slotsOf around state.partition current = some rival →
      rival.count = state.flashParam.modifyCount.toNat)
    (spares : Spares good (current + 1) write)
    (countsUp : write = .done → slotsOf around state.partition current = none ∨
      state.flashParam.modifyCount ≠ 65535)
    (updp : state.updpMode = false)
    (saves : SavesTo around state (current + 1)
      ⟨(state.flashParam.modifyCount + 1).toNat, parameters⟩ write result) :
    Guarded around ⟨⟨result.2, result.1.isSome⟩, noteWritten result good⟩ := by
  have wellFormed := saves.wellFormed wellFormed
  have here : result.2.current = current + 1 := by
    rw [ParamState.current, saves.number, partitionIndex_ofNat]
  have slots := saves.slots
  refine ⟨wellFormed, ?_, fun _ => ⟨saves.updp.trans updp, current + 1, saves.number, ?_⟩⟩
  · rw [noteWritten, saves.status, here]
    cases write with
    | done =>
        have prevails : Prevails (slotsOf around result.2.partition) (current + 1)
            ⟨(state.flashParam.modifyCount + 1).toNat, parameters⟩ := by
          rw [slots]
          refine prevails_update ?_
          intro rival beside
          rcases countsUp rfl with damaged | below
          · exact absurd (damaged.symm.trans beside) (by simp)
          · left
            have bound : state.flashParam.modifyCount.toNat < 65535 := by
              have limit := state.flashParam.modifyCount.toNat_lt
              have other : state.flashParam.modifyCount.toNat ≠ 65535 :=
                fun same => below (UInt16.toNat_inj.mp same)
              omega
            rw [older rival beside]
            show _ < (state.flashParam.modifyCount + 1).toNat
            rw [modifyCount_succ _ bound]
            exact Nat.lt_succ_self _
        exact holdsGood_copyAt prevails
    | failed left => exact holds.spared spares saves.frame slots
    | cut left => exact fails.elim
  · rw [slots, Function.update_self, saves.count, saves.mirror]
    cases write with
    | done => exact .inr rfl
    | failed left => exact .inl rfl
    | cut left => exact .inl rfl

theorem Guarded.quiet (guarded : Guarded around watched) {after : ParamState} {powered : Bool}
    (on : watched.device.powered = true)
    (partition : after.partition = watched.device.state.partition)
    (flash : after.flashParam = watched.device.state.flashParam)
    (updp : after.updpMode = watched.device.state.updpMode) :
    Guarded around ⟨⟨after, powered⟩, watched.good⟩ := by
  refine ⟨?_, ?_, fun _ => ?_⟩
  · exact partition ▸ guarded.wellFormed
  · exact partition ▸ guarded.good
  · simp only [partition, flash, updp]
    exact guarded.on on

theorem guarded_store (guarded : Guarded around watched) (on : watched.device.powered = true)
    {id : Int} {param : ParamId} (valid : ParamId.ofCode id = some param) {write : FlashWrite}
    (fails : write.Fails around) (safe : SafeWrite around watched write)
    (sramParam : SysParam) :
    let result := paramToFlash write id (-1) (-1) (watched.device.state.withSram sramParam)
    Guarded around ⟨⟨result.2, result.1.isSome⟩, noteWritten result watched.good⟩ := by
  intro result
  obtain ⟨updp, current, number, content⟩ := guarded.on on
  have here : watched.device.state.current = current := by
    rw [ParamState.current, number, partitionIndex_ofNat]
  obtain ⟨spares, countsUp⟩ := safe
  rw [here] at spares
  have saves := @paramToFlash_saves around write id param valid (fails_damages fails)
    (watched.device.state.withSram sramParam) current number
  refine @guarded_save around (watched.device.state.withSram sramParam) _ _ _ _ _ guarded.wellFormed
    guarded.good fails ?_ spares ?_ updp saves
  · intro rival beside
    rcases content with damaged | stored
    · exact absurd (damaged.symm.trans beside) (by simp)
    · exact (congrArg Entry.count (Option.some.inj (stored.symm.trans beside))).symm
  · rintro rfl
    rw [CountsUp, here] at countsUp
    exact countsUp

theorem step_on (on : watched.device.powered = true) (op : ParamOp) :
    watched.step around op = ⟨⟨(op.run around watched.device.state).2,
      (op.run around watched.device.state).1.isSome⟩,
        goodBy around watched.device op watched.good⟩ := by
  rw [WatchedDevice.step, ParamDevice.step, on, Bool.true_or, if_pos rfl]

theorem goodBy_quiet_set {device : ParamDevice} {id : Int} {argv : List UInt8} {stored : Bool}
    {write : FlashWrite}
    (quiet : (ParamOp.set id argv stored write).stores device.state = false) :
    goodBy around device (.set id argv stored write) good = good := by
  simp [goodBy, quiet]

theorem guarded_set (guarded : Guarded around watched) (on : watched.device.powered = true)
    {id : Int} {argv : List UInt8} {stored : Bool} {write : FlashWrite}
    (fails : write.Fails around) (safe : SafeCall around watched (.set id argv stored write)) :
    Guarded around (watched.step around (.set id argv stored write)) := by
  have updp := (guarded.on on).1
  rw [step_on on]
  cases valid : ParamId.ofCode id with
  | none =>
      rw [goodBy_quiet_set (by simp [ParamOp.stores, valid])]
      rcases tlsParamSet_invalid valid write argv stored watched.device.state with ends | ends
      · rw [ParamOp.run, ends]
        exact guarded.quiet on rfl rfl rfl
      · rw [ParamOp.run, ends]
        exact guarded.quiet on rfl rfl rfl
  | some param =>
      cases stored with
      | false =>
          rw [goodBy_quiet_set (by simp [ParamOp.stores]), ParamOp.run,
            tlsParamSet_valid valid write argv false updp]
          exact guarded.quiet on rfl rfl rfl
      | true =>
          have stores : (ParamOp.set id argv true write).stores watched.device.state = true := by
            simp [ParamOp.stores, valid, updp]
          have noted : goodBy around watched.device (.set id argv true write) watched.good =
              noteWritten ((ParamOp.set id argv true write).run around watched.device.state)
                watched.good := by
            simp [goodBy, on, stores]
          rw [noted, ParamOp.run, tlsParamSet_valid valid write argv true updp]
          exact guarded_store guarded on valid fails (safe on stores) _

theorem guarded_toFlash (guarded : Guarded around watched) (on : watched.device.powered = true)
    {id : Int} {write : FlashWrite} (fails : write.Fails around)
    (safe : SafeCall around watched (.toFlash id write)) :
    Guarded around (watched.step around (.toFlash id write)) := by
  rw [step_on on]
  by_cases unchanged : id = -1 ∧
      watched.device.state.sramParam = watched.device.state.flashParam.parameters
  · have quiet : goodBy around watched.device (.toFlash id write) watched.good = watched.good := by
      simp [goodBy, ParamOp.stores, unchanged]
    rw [quiet, ParamOp.run, tlsParamToFlash, if_pos unchanged]
    exact guarded.quiet on rfl rfl rfl
  · cases valid : ParamId.ofCode id with
    | none =>
        have quiet : goodBy around watched.device (.toFlash id write) watched.good =
            watched.good := by
          simp [goodBy, ParamOp.stores, valid]
        rw [quiet, ParamOp.run, tlsParamToFlash, if_neg unchanged]
        rcases paramToFlash_invalid valid write (-1) (-1) watched.device.state with ends | ends
        · rw [ends]
          exact guarded.quiet on rfl rfl rfl
        · rw [ends]
          exact guarded.quiet on rfl rfl rfl
    | some param =>
        have stores : (ParamOp.toFlash id write).stores watched.device.state = true := by
          simpa [ParamOp.stores, valid] using not_and_or.mp unchanged
        have noted : goodBy around watched.device (.toFlash id write) watched.good =
            noteWritten ((ParamOp.toFlash id write).run around watched.device.state)
              watched.good := by
          simp [goodBy, on, stores]
        rw [noted, ParamOp.run, tlsParamToFlash, if_neg unchanged]
        exact guarded_store guarded on valid fails ((safe on).1 stores)
          watched.device.state.sramParam

/-- The two writes of the defaults, from a start or from `tls_param_to_default`. -/
theorem writeDefaults_content {writes : Fin 2 → FlashWrite}
    (damages : ∀ index, (writes index).Damages around) :
    let written := (state.writeDefaults writes).2
    ∃ current : Fin 2, written.flashParam.partitionNum = UInt16.ofNat current ∧
      (slotsOf around written.partition current = none ∨
        slotsOf around written.partition current =
          some ⟨written.flashParam.modifyCount.toNat, written.flashParam.parameters⟩) := by
  intro written
  have slots := @writeDefaults_slots _ _ state damages
  have entry : Entry.mk written.flashParam.modifyCount.toNat written.flashParam.parameters =
      factoryEntry := by
    rw [writeDefaults_count, writeDefaults_ram.2.1]
    rfl
  rw [entry]
  cases first : writes 0 with
  | done =>
      rw [first] at slots
      refine ⟨1, writeDefaults_number first, ?_⟩
      have second : slotsOf around written.partition 1 = (writes 1).leaves factoryEntry := by
        rw [slots]
        rfl
      rw [second]
      cases writes 1 with
      | done => exact .inr rfl
      | failed left => exact .inl rfl
      | cut left => exact .inl rfl
  | failed left =>
      rw [first] at slots
      refine ⟨0, (writeDefaults_stopped (by simp [first])).1, .inl ?_⟩
      rw [slots]
      rfl
  | cut left =>
      rw [first] at slots
      refine ⟨0, (writeDefaults_stopped (by simp [first])).1, .inl ?_⟩
      rw [slots]
      rfl

theorem guarded_reset (guarded : Guarded around watched) (on : watched.device.powered = true)
    {writes : Fin 2 → FlashWrite} (fails : ∀ index, (writes index).Fails around)
    (safe : SafeCall around watched (.toDefault writes)) :
    Guarded around (watched.step around (.toDefault writes)) := by
  have damages (index : Fin 2) := fails_damages (fails index)
  have same := (tlsParamToDefault_eq writes watched.device.state).2
  obtain ⟨count, number, mirror, updp⟩ := tlsParamToDefault_ram writes watched.device.state
  have spares : Spares watched.good 0 (writes 0) := safe on
  rw [step_on on, ParamOp.run]
  refine ⟨?_, ?_, fun _ => ⟨?_, ?_⟩⟩
  · exact reset_wellFormed damages guarded.wellFormed
  · simp only [goodBy, on, if_true, ParamOp.run]
    cases first : writes 0 with
    | done =>
        cases second : writes 1 with
        | done =>
            have prevails := @writeDefaults_prevails_second around _ watched.device.state damages
              first second
            rw [← same] at prevails
            exact holdsGood_copyAt prevails
        | failed left =>
            have prevails := @writeDefaults_prevails around _ watched.device.state damages first
            rw [← same] at prevails
            exact holdsGood_copyAt prevails
        | cut left =>
            have prevails := @writeDefaults_prevails around _ watched.device.state damages first
            rw [← same] at prevails
            exact holdsGood_copyAt prevails
    | failed left =>
        have slots := @writeDefaults_slots around writes watched.device.state damages
        have stopped : writes 0 ≠ .done := by simp [first]
        rw [first] at slots spares
        refine guarded.good.spared spares ?_ (same ▸ slots)
        intro other different
        obtain rfl : other = 1 := by omega
        rw [same]
        exact (writeDefaults_stopped stopped).2
    | cut left => exact (first ▸ fails 0 : FlashWrite.Fails around (.cut left)).elim
  · rw [updp, writeDefaults_ram.2.2]
    exact (guarded.on on).1
  · rw [same, count, number, mirror]
    exact writeDefaults_content damages

theorem step_reboot (writes : Fin 2 → FlashWrite) :
    watched.step around (.reboot writes) = ⟨⟨(watched.device.state.boot around writes).2,
      (watched.device.state.boot around writes).1.isSome⟩,
        goodBy around watched.device (.reboot writes) watched.good⟩ := by
  rw [WatchedDevice.step, ParamDevice.step, ParamOp.isReboot, Bool.or_true, if_pos rfl, ParamOp.run]

theorem goodBy_reboot_ok {writes : Fin 2 → FlashWrite} {result : ParamReturn}
    (run : watched.device.state.boot around writes = result) (ok : result.1 = some .ok) :
    goodBy around watched.device (.reboot writes) good =
      some (result.2.copyAt result.2.current) := by
  subst run
  exact if_pos ok

theorem goodBy_reboot_failed {writes : Fin 2 → FlashWrite} {result : ParamReturn}
    (run : watched.device.state.boot around writes = result) (failed : result.1 ≠ some .ok) :
    goodBy around watched.device (.reboot writes) good =
      match good with
      | some copy => some copy
      | none => if (entryOf around (result.2.partition (result.2.current + 1))).isSome then
          some (result.2.copyAt (result.2.current + 1)) else none := by
  subst run
  exact if_neg failed

theorem guarded_reboot_blank (guarded : Guarded around watched) (none : watched.good = none)
    {writes : Fin 2 → FlashWrite} (fails : ∀ index, (writes index).Fails around) :
    Guarded around (watched.step around (.reboot writes)) := by
  have blank : newest (slotsOf around watched.device.state.partition) = .none := by
    have holds := guarded.good
    rw [none] at holds
    exact holds
  have damages (index : Fin 2) := fails_damages (fails index)
  have run : watched.device.state.boot around writes = _ := boot_factory guarded.wellFormed blank
  have status := @writeDefaults_status writes watched.device.state.powerOn
  rw [step_reboot, run]
  refine ⟨writeDefaults_wellFormed damages guarded.wellFormed, ?_, fun _ => ⟨writeDefaults_ram.2.2,
    writeDefaults_content damages⟩⟩
  rw [none]
  cases first : writes 0 with
  | done =>
      have current : (watched.device.state.powerOn.writeDefaults writes).2.current = 1 := by
        rw [ParamState.current, writeDefaults_number first, partitionIndex_ofNat]
      rw [first] at status
      cases second : writes 1 with
      | done =>
          rw [second] at status
          rw [goodBy_reboot_ok run status, current]
          exact holdsGood_copyAt (writeDefaults_prevails_second damages first second)
      | failed left =>
          have prevails := @writeDefaults_prevails around _ watched.device.state.powerOn damages
            first
          have intact : (entryOf around ((watched.device.state.powerOn.writeDefaults
              writes).2.partition (1 + 1))).isSome = true :=
            Option.isSome_iff_exists.mpr ⟨_, prevails.1⟩
          rw [second] at status
          rw [goodBy_reboot_failed run (by simp [status, FlashWrite.status]), current]
          simp only [intact, if_true]
          exact holdsGood_copyAt prevails
      | cut left => exact (second ▸ fails 1 : FlashWrite.Fails around (.cut left)).elim
  | failed left =>
      have stopped := @writeDefaults_stopped writes watched.device.state.powerOn (by simp [first])
      have current : (watched.device.state.powerOn.writeDefaults writes).2.current = 0 := by
        rw [ParamState.current, stopped.1, partitionIndex_ofNat]
      have slots := @writeDefaults_slots around writes watched.device.state.powerOn damages
      have lost : entryOf around ((watched.device.state.powerOn.writeDefaults
          writes).2.partition (0 + 1)) = .none := by
        have second := (newest_eq_none.mp blank).2
        rw [← second]
        exact congrArg (entryOf around) stopped.2
      rw [first] at status slots
      rw [goodBy_reboot_failed run (by simp [status, FlashWrite.status]), current]
      simp only [lost, Option.isSome_none, Bool.false_eq_true, if_false]
      refine newest_eq_none.mpr ⟨?_, lost⟩
      rw [slots]
      rfl
  | cut left => exact (first ▸ fails 0 : FlashWrite.Fails around (.cut left)).elim

theorem guarded_reboot_good (guarded : Guarded around watched) {copy : GoodCopy}
    (good : watched.good = some copy) {writes : Fin 2 → FlashWrite}
    (fails : ∀ index, (writes index).Fails around) :
    Guarded around (watched.step around (.reboot writes)) := by
  have holds := guarded.good
  rw [good] at holds
  obtain ⟨same, entry, prevails⟩ := holds
  obtain ⟨winner, taken, found, wins, -⟩ := prevails.newest
  obtain ⟨isSealed, number⟩ := newest_sealed guarded.wellFormed found
  have stored : taken = ⟨(watched.device.state.partition winner).modifyCount.toNat,
      (watched.device.state.partition winner).parameters⟩ :=
    Option.some.inj (wins.1.symm.trans (entryOf_sealed around isSealed))
  have damages (index : Fin 2) := fails_damages (fails index)
  rw [step_reboot]
  by_cases beside : Damaged around (watched.device.state.partition (winner + 1))
  · have saves := boot_repair_saves guarded.wellFormed damages found beside
    have current : (watched.device.state.boot around writes).2.current = winner + 1 := by
      rw [ParamState.current, saves.number, partitionIndex_ofNat]
    have slots := saves.slots
    refine ⟨saves.wellFormed guarded.wellFormed, ?_, fun _ => ⟨saves.updp, winner + 1, saves.number, ?_⟩⟩
    · have status := saves.status
      cases ends : writes (winner + 1) with
      | done =>
          rw [ends] at status slots
          rw [goodBy_reboot_ok rfl status, current]
          have prevails : Prevails (slotsOf around
              (watched.device.state.boot around writes).2.partition) (winner + 1)
              ⟨((watched.device.state.partition winner).modifyCount + 1).toNat,
                (watched.device.state.partition winner).parameters⟩ := by
            rw [slots]
            refine prevails_update ?_
            intro rival here
            obtain rfl := Option.some.inj (wins.1.symm.trans here)
            exact .inr (by rw [stored])
          exact holdsGood_copyAt prevails
      | failed left =>
          have other : copy.index ≠ winner + 1 := by
            intro there
            have intact : slotsOf around watched.device.state.partition (winner + 1) = some entry :=
              there ▸ prevails.1
            exact absurd (intact.symm.trans beside) (by simp)
          rw [ends] at status slots
          rw [goodBy_reboot_failed rfl (by simp [status, FlashWrite.status]), good]
          refine @HoldsGood.spared around watched.device.state (some copy) _
            ⟨same, entry, prevails⟩ _ ?_ saves.frame slots
          intro chosen which
          exact Option.some.inj which ▸ other
      | cut left => exact (ends ▸ fails _ : FlashWrite.Fails around (.cut left)).elim
    · rw [slots, Function.update_self, saves.count, saves.mirror]
      cases writes (winner + 1) with
      | done => exact .inr rfl
      | failed left => exact .inl rfl
      | cut left => exact .inl rfl
  · have run : watched.device.state.boot around writes = _ :=
      boot_intact guarded.wellFormed found beside
    have current : (watched.device.state.loadedWith
        (watched.device.state.partition winner)).current = winner := by
      rw [ParamState.current, ParamState.loadedWith, number, partitionIndex_ofNat]
    rw [goodBy_reboot_ok run rfl, run, current]
    refine ⟨guarded.wellFormed, holdsGood_copyAt wins, fun _ => ⟨rfl, winner, number, .inr ?_⟩⟩
    exact wins.1.trans (congrArg some stored)

theorem guarded_step (guarded : Guarded around watched) {op : ParamOp} (fails : op.Fails around)
    (safe : SafeCall around watched op) : Guarded around (watched.step around op) := by
  cases powered : watched.device.powered with
  | true =>
      cases op with
      | set id argv stored write => exact guarded_set guarded powered fails safe
      | toFlash id write => exact guarded_toFlash guarded powered fails safe
      | toDefault writes => exact guarded_reset guarded powered fails safe
      | reboot writes =>
          cases good : watched.good with
          | none => exact guarded_reboot_blank guarded good fails
          | some copy => exact guarded_reboot_good guarded good fails
  | false =>
      cases op with
      | set id argv stored write =>
          simpa [WatchedDevice.step, ParamDevice.step, goodBy, powered, ParamOp.isReboot] using guarded
      | toFlash id write =>
          simpa [WatchedDevice.step, ParamDevice.step, goodBy, powered, ParamOp.isReboot] using guarded
      | toDefault writes =>
          simpa [WatchedDevice.step, ParamDevice.step, goodBy, powered, ParamOp.isReboot] using guarded
      | reboot writes =>
          cases good : watched.good with
          | none => exact guarded_reboot_blank guarded good fails
          | some copy => exact guarded_reboot_good guarded good fails

theorem Guarded.loads (guarded : Guarded around watched) {next : Fin 2 → FlashWrite}
    (damages : ∀ index, (next index).Damages around) :
    (watched.device.state.boot around next).2.Loads (durableSet watched.good) := by
  have holds := guarded.good
  cases good : watched.good with
  | none =>
      rw [good] at holds
      exact boot_loads_default guarded.wellFormed holds
  | some copy =>
      rw [good] at holds
      obtain ⟨same, entry, prevails⟩ := holds
      have value : entry.value = durableSet (some copy) :=
        (prevails_value prevails).trans (congrArg ParamFlash.parameters same)
      exact value ▸ boot_loads guarded.wellFormed damages prevails

theorem Guarded.intact (guarded : Guarded around watched) {copy : GoodCopy}
    (good : watched.good = some copy) :
    watched.device.state.partition copy.index = copy.record ∧ ¬Damaged around copy.record := by
  have holds := guarded.good
  rw [good] at holds
  obtain ⟨same, entry, prevails⟩ := holds
  refine ⟨same, ?_⟩
  intro damaged
  have lost : slotsOf around watched.device.state.partition copy.index = none := by
    rw [slotsOf, same]
    exact damaged
  exact absurd (lost.symm.trans prevails.1) (by simp)

end

def ParamOp.SavesAll : ParamOp → Prop
  | .set id _ stored _ => id = -1 ∧ stored = true
  | .toFlash id _ => id = -1
  | _ => False

/-- Reported as `TLS_PARAM_STATUS_OK`, the working set is what the next start loads. -/
def Durable (around : Int → UInt8) (device : ParamDevice) (op : ParamOp) : Prop :=
  let result := op.run around device.state
  device.powered = true → op.SavesAll → result.1 = some .ok →
    ∀ next : Fin 2 → FlashWrite, (∀ index, (next index).Damages around) →
      (result.2.boot around next).2.Loads result.2.sramParam

theorem Durable.loads {around : Int → UInt8} {device : ParamDevice} {op : ParamOp}
    {result : ParamReturn} (durable : Durable around device op)
    (run : op.run around device.state = result) (powered : device.powered = true)
    (all : op.SavesAll) (ok : result.1 = some .ok) (next : Fin 2 → FlashWrite)
    (damages : ∀ index, (next index).Damages around) :
    (result.2.boot around next).2.Loads result.2.sramParam := by
  subst run
  exact durable powered all ok next damages

def Harmless (around : Int → UInt8) (watched : WatchedDevice) : Prop :=
  ∀ copy, watched.good = some copy →
    watched.device.state.partition copy.index = copy.record ∧ ¬Damaged around copy.record

section

variable {around : Int → UInt8} {watched : WatchedDevice}

theorem durable_store (guarded : Guarded around watched) (on : watched.device.powered = true)
    {write : FlashWrite} (fails : write.Fails around) (safe : SafeWrite around watched write)
    (sramParam : SysParam) :
    let result := paramToFlash write (-1) (-1) (-1) (watched.device.state.withSram sramParam)
    result.1 = some .ok → ∀ next : Fin 2 → FlashWrite, (∀ index, (next index).Damages around) →
      (result.2.boot around next).2.Loads result.2.sramParam := by
  intro result ok next damages
  have valid : ParamId.ofCode (-1) = some .all := rfl
  have after := guarded_store guarded on valid fails safe sramParam
  have loads := after.loads damages
  have noted : durableSet (noteWritten result watched.good) = result.2.sramParam := by
    obtain ⟨-, current, number, -⟩ := guarded.on on
    have saves := @paramToFlash_saves around write _ _ valid (fails_damages fails)
      (watched.device.state.withSram sramParam) current number
    have done : write = .done := by
      have status := saves.status
      cases write with
      | done => rfl
      | failed left => exact absurd (status.symm.trans ok) (by simp [FlashWrite.status])
      | cut left => exact fails.elim
    subst done
    rw [noteWritten, if_pos ok, durableSet, ParamState.copyAt, ParamState.current, saves.number,
      partitionIndex_ofNat]
    exact saves.stored.trans ((copyFields_all _ _).trans saves.sram.symm)
  exact noted ▸ loads

theorem durable_step (guarded : Guarded around watched) {op : ParamOp} (fails : op.Fails around)
    (safe : SafeCall around watched op) : Durable around watched.device op := by
  intro on all ok
  have updp := (guarded.on on).1
  cases op with
  | set id argv stored write =>
      obtain ⟨rfl, rfl⟩ := all
      have valid : ParamId.ofCode (-1) = some .all := rfl
      have run : (ParamOp.set (-1) argv true write).run around watched.device.state =
          paramToFlash write (-1) (-1) (-1) (watched.device.state.assign .all argv) :=
        tlsParamSet_valid valid write argv true updp
      rw [run] at ok ⊢
      exact durable_store guarded on fails (safe on (by simp [ParamOp.stores, valid, updp])) _ ok
  | toFlash id write =>
      obtain rfl : id = -1 := all
      by_cases same : watched.device.state.sramParam = watched.device.state.flashParam.parameters
      · have run : (ParamOp.toFlash (-1) write).run around watched.device.state =
            (some .ok, watched.device.state) := by
          rw [ParamOp.run, tlsParamToFlash, if_pos ⟨rfl, same⟩]
        intro next damages
        rw [run, same, ← (safe on).2 rfl same]
        exact guarded.loads damages
      · have run : (ParamOp.toFlash (-1) write).run around watched.device.state =
            paramToFlash write (-1) (-1) (-1) watched.device.state := by
          rw [ParamOp.run, tlsParamToFlash, if_neg fun both => same both.2]
        have stores : (ParamOp.toFlash (-1) write).stores watched.device.state = true := by
          have valid : ParamId.ofCode (-1) = some .all := rfl
          simp [ParamOp.stores, valid, same]
        rw [run] at ok ⊢
        exact durable_store guarded on fails ((safe on).1 stores) watched.device.state.sramParam ok
  | toDefault writes => exact all.elim
  | reboot writes => exact all.elim

end

def watchedStart (blank : ParamState) : WatchedDevice :=
  ⟨⟨blank, false⟩, none⟩

theorem watched_device (around : Int → UInt8) (watched : WatchedDevice) (ops : List ParamOp) :
    (ops.foldl (WatchedDevice.step around) watched).device =
      watched.device.after around ops := by
  induction ops generalizing watched with
  | nil => rfl
  | cons op ops ih => exact ih (watched.step around op)

theorem guarded_start {around : Int → UInt8} {blank : ParamState}
    (damaged : ∀ index, Damaged around (blank.partition index)) :
    Guarded around (watchedStart blank) :=
  ⟨fun index => .inl (damaged index), newest_eq_none.mpr ⟨damaged 0, damaged 1⟩,
    fun on => absurd on (by simp [watchedStart])⟩

theorem guarded_run {around : Int → UInt8} {watched : WatchedDevice} {ops : List ParamOp}
    (guarded : Guarded around watched) (fails : ∀ op ∈ ops, op.Fails around)
    (safe : Runs.Along (WatchedDevice.step around) (SafeCall around) watched ops) :
    Guarded around (ops.foldl (WatchedDevice.step around) watched) := by
  induction ops generalizing watched with
  | nil => exact guarded
  | cons op ops ih =>
      have next := guarded_step guarded (fails op (List.mem_cons_self ..)) safe.1
      exact ih next (fun later member => fails later (List.mem_cons_of_mem op member)) safe.2

/-- Along every run of safe calls, whichever of their writes fail: a save of the whole set that
is reported as good is loaded by the next start, and the last good copy stays as it is. -/
theorem saves_durable_and_harmless (around : Int → UInt8) (blank : ParamState)
    (damaged : ∀ index, Damaged around (blank.partition index)) (ops : List ParamOp)
    (fails : ∀ op ∈ ops, op.Fails around)
    (safe : Runs.Along (WatchedDevice.step around) (SafeCall around) (watchedStart blank) ops)
    (before after : List ParamOp) (op : ParamOp) (split : ops = before ++ op :: after) :
    Durable around (ParamDevice.after around ⟨blank, false⟩ before) op ∧
      Harmless around
        ((before ++ [op]).foldl (WatchedDevice.step around) (watchedStart blank)) := by
  subst split
  obtain ⟨early, here, -⟩ := (Runs.along_append _ _ _).mp safe
  have guarded := guarded_run (guarded_start damaged)
    (fun other member => fails other (List.mem_append_left _ member)) early
  have opFails : op.Fails around := fails op (by simp)
  have next := guarded_step guarded opFails here
  constructor
  · have durable := durable_step guarded opFails here
    rw [watched_device] at durable
    exact durable
  · intro copy good
    rw [List.foldl_append] at good ⊢
    exact next.intact good

/-- The first save of a new device fails. -/
theorem saves_durable_and_harmless_failed :
    let ops : List ParamOp := [.reboot fun _ => .done]
    let op : ParamOp := .set (-1) [] true (.failed .zero)
    Durable (fun _ => 0) (ParamDevice.after (fun _ => 0) ⟨blankState, false⟩ ops) op ∧
      Harmless (fun _ => 0)
        ((ops ++ [op]).foldl (WatchedDevice.step fun _ => 0) (watchedStart blankState)) := by
  intro ops op
  have fresh := @boot_firstStart (fun _ => 0) blankState fun _ => zero_damaged _
  refine saves_durable_and_harmless (fun _ => 0) blankState (fun _ => zero_damaged _) (ops ++ [op])
    ?_ ⟨fun _ => trivial, fun _ _ => ⟨?_, trivial⟩, trivial⟩ ops [] op rfl
  · intro call member
    rcases List.mem_append.mp member with early | last
    · rw [List.mem_singleton.mp early]
      exact fun _ => trivial
    · rw [List.mem_singleton.mp last]
      exact zero_damaged _
  · intro copy good
    have noted : some copy = some _ :=
      good.symm.trans (@goodBy_reboot_ok _ (watchedStart blankState) none _ _ rfl fresh.status)
    obtain rfl := Option.some.inj noted
    exact (beside_ne _).symm

/-- The comparison with the mirror answers for a set that is not the one in flash. -/
theorem shortcut_not_durable {around : Int → UInt8} {device : ParamDevice} {index : Fin 2}
    {entry : Entry Nat SysParam} (powered : device.powered = true)
    (mirrored : device.state.sramParam = device.state.flashParam.parameters)
    (wellFormed : WellFormed around device.state.partition)
    (prevails : Prevails (slotsOf around device.state.partition) index entry)
    (different : entry.value ≠ device.state.sramParam) (write : FlashWrite) :
    ¬Durable around device (.toFlash (-1) write) := by
  intro durable
  have skipped : (ParamOp.toFlash (-1) write).run around device.state =
      (some .ok, device.state) := by
    rw [ParamOp.run, tlsParamToFlash, if_pos ⟨rfl, mirrored⟩]
  have loads := durable.loads skipped powered rfl rfl (fun _ => .done) fun _ => trivial
  have stored := @boot_loads around (fun _ => .done) _ wellFormed (fun _ => trivial) _ _ prevails
  exact different (stored.1.symm.trans loads.1)

/-- A save that failed is never made up for: the mirror already holds the set, so
`tls_param_to_flash` reports success and the next start has the defaults. -/
theorem unsaved_set_not_durable :
    let ops : List ParamOp := [.reboot fun _ => .done, .set 9 [3] true (.failed .zero)]
    (∀ op ∈ ops, op.Fails fun _ => 0) ∧
      ¬Durable (fun _ => 0) (ParamDevice.after (fun _ => 0) ⟨blankState, false⟩ ops)
        (.toFlash (-1) .done) := by
  intro ops
  let around : Int → UInt8 := fun _ => 0
  have fresh := @boot_firstStart around blankState fun _ => zero_damaged _
  generalize booted : blankState.boot around (fun _ => .done) = first at fresh
  refine ⟨?_, ?_⟩
  · intro op member
    simp only [ops, List.mem_cons, List.not_mem_nil, or_false] at member
    rcases member with rfl | rfl
    · exact fun _ => trivial
    · exact zero_damaged _
  have valid : ParamId.ofCode 9 = some .countryRegion := rfl
  have saves := @paramToFlash_saves around (.failed .zero) 9 .countryRegion valid (zero_damaged _)
    (first.2.assign .countryRegion [3]) 1 fresh.number
  generalize saved : paramToFlash (.failed .zero) 9 (-1) (-1)
    (first.2.assign .countryRegion [3]) = second at saves
  have run : ParamDevice.after around ⟨blankState, false⟩ ops = ⟨second.2, true⟩ := by
    have status : second.1.isSome = true := by rw [saves.status]; rfl
    have one : ParamDevice.step around ⟨blankState, false⟩ (.reboot fun _ => .done) =
        ⟨first.2, true⟩ := by
      rw [@ParamDevice.step_eq around ⟨blankState, false⟩ (.reboot fun _ => .done) _ rfl booted,
        fresh.status]
      rfl
    have two : ParamDevice.step around ⟨first.2, true⟩ (.set 9 [3] true (.failed .zero)) =
        ⟨second.2, true⟩ := by
      have stored : tlsParamSet (.failed .zero) 9 [3] true first.2 = second := by
        rw [tlsParamSet_valid valid _ _ _ fresh.updp, if_pos rfl, saved]
      rw [@ParamDevice.step_eq around ⟨first.2, true⟩ (.set 9 [3] true (.failed .zero)) _ rfl
        stored, status]
    rw [← two, ← one]
    rfl
  -- The mirror was brought up to date before the write that failed.
  have short : ShortName 9 [3] := by simp [ShortName, valid]
  have equal : first.2.flashParam.parameters = first.2.sramParam :=
    fresh.mirror.trans fresh.sram.symm
  have mirrored : second.2.sramParam = second.2.flashParam.parameters := by
    rw [saves.sram, saves.mirror]
    simp only [ParamState.assign, ParamState.withSram, equal]
    exact (copyFields_set valid short _).symm
  have before : Prevails (slotsOf around first.2.partition) 1 factoryEntry := by
    refine ⟨fresh.slots 1, ?_⟩
    intro rival beside
    exact .inr (congrArg Entry.value (Option.some.inj (beside.symm.trans (fresh.slots _))))
  have prevails : Prevails (slotsOf around second.2.partition) 1 factoryEntry := by
    rw [saves.slots]
    exact before.damage
  have different : factoryEntry.value ≠ second.2.sramParam := by
    intro same
    have three : second.2.sramParam 54 = 3 := by
      rw [saves.sram]
      rfl
    have one : factoryEntry.value 54 = 1 := by decide
    rw [same, three] at one
    exact absurd one (by decide)
  rw [run]
  exact @shortcut_not_durable around ⟨second.2, true⟩ _ _ rfl mirrored
    (saves.wellFormed fresh.wellFormed) prevails different .done

end SmartMeter
