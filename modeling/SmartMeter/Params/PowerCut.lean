import SmartMeter.Library.Runs
import SmartMeter.Params.ParamDevice

/-!
Power cuts in the middle of a save. The partition being written is lost, the other one holds
the set of the last completed save, and the repair at the next start keeps it that way.
-/

namespace SmartMeter

open TwinSlots

/-- The write is completed or the power goes during it. -/
def FlashWrite.Cuts (around : Int → UInt8) : FlashWrite → Prop
  | .done => True
  | .failed _ => False
  | .cut left => Damaged around left

def ParamOp.OnlyCuts (around : Int → UInt8) : ParamOp → Prop
  | .set id argv stored write => stored = true ∧ ShortName id argv ∧ write.Cuts around
  | .toFlash _ write => write.Cuts around
  | .toDefault _ => False
  | .reboot writes => ∀ index, (writes index).Cuts around

/-- What a save leaves: the set it was to store, or the one that was there before. -/
def FlashWrite.outcome (write : FlashWrite) (stored before : SysParam) : SysParam :=
  match write with
  | .done => stored
  | _ => before

@[simp] theorem FlashWrite.outcome_self (write : FlashWrite) (parameters : SysParam) :
    write.outcome parameters parameters = parameters := by
  cases write <;> rfl

/-- The saved set after a call: `tls_param_set` puts its value into the field of its id. All
values are saved at once, so that `tls_param_to_flash` finds nothing to add. -/
def ParamOp.saves (saved : SysParam) : ParamOp → SysParam
  | .set id argv _ write =>
      match ParamId.ofCode id with
      | some param => write.outcome ((setArm param).set argv saved) saved
      | none => saved
  | _ => saved

/-- The set of the last completed save, from the ids and values of the calls that find the
device powered. -/
def lastSaved (around : Int → UInt8) (device : ParamDevice) (saved : SysParam)
    (ops : List ParamOp) : SysParam :=
  Runs.watch (ParamDevice.step around)
    (fun device op saved => if device.powered then op.saves saved else saved) device saved ops

theorem cuts_damages {around : Int → UInt8} {write : FlashWrite} (cuts : write.Cuts around) :
    write.Damages around := by
  cases write with
  | done => trivial
  | failed left => exact cuts.elim
  | cut left => exact cuts

/-- The copy of the last completed save leads in flash; while the power is on, the mirror
and the working set in RAM are that set too. -/
structure Kept (around : Int → UInt8) (device : ParamDevice) (saved : SysParam) (bound : Nat) :
    Prop where
  wellFormed : WellFormed around device.state.partition
  off : device.powered = false →
    newest (slotsOf around device.state.partition) = none ∧ saved = factoryDefault ∨
      ∃ slot entry, Leads (slotsOf around device.state.partition) slot entry ∧
        entry.value = saved ∧ entry.count ≤ bound
  on : device.powered = true → ∃ slot,
    Leads (slotsOf around device.state.partition) slot
        ⟨device.state.flashParam.modifyCount.toNat, saved⟩ ∧
      device.state.flashParam.partitionNum = UInt16.ofNat slot ∧
      device.state.flashParam.parameters = saved ∧ device.state.sramParam = saved ∧
      device.state.updpMode = false ∧ device.state.flashParam.modifyCount.toNat ≤ bound

section

variable {around : Int → UInt8} {device : ParamDevice} {saved : SysParam} {bound : Nat}

theorem Kept.mono (kept : Kept around device saved bound) {more : Nat} (le : bound ≤ more) :
    Kept around device saved more := by
  refine ⟨kept.wellFormed, ?_, ?_⟩
  · intro off
    rcases kept.off off with blank | ⟨slot, entry, leads, value, count⟩
    · exact .inl blank
    · exact .inr ⟨slot, entry, leads, value, by omega⟩
  · intro on
    obtain ⟨slot, leads, number, mirror, sram, updp, count⟩ := kept.on on
    exact ⟨slot, leads, number, mirror, sram, updp, by omega⟩

/-- A save beside the leading copy: completed it takes the lead, cut short it leaves the copy
that was there. -/
theorem kept_save {state : ParamState} {slot : Fin 2} {write : FlashWrite} {count : UInt16}
    {parameters : SysParam} {result : ParamReturn} (cuts : write.Cuts around)
    (wellFormed : WellFormed around state.partition)
    (leads : Leads (slotsOf around state.partition) slot ⟨count.toNat, saved⟩)
    (counted : count.toNat ≤ bound) (bounded : bound < 65535)
    (saves : SavesTo around state (slot + 1) ⟨(count + 1).toNat, parameters⟩ write result)
    (sram : result.2.sramParam = parameters) (updp : result.2.updpMode = false) :
    Kept around ⟨result.2, result.1.isSome⟩ (write.outcome parameters saved) (bound + 1) := by
  have wellFormed := saves.wellFormed wellFormed
  have next := modifyCount_succ count (by omega)
  have slots := saves.slots
  rw [saves.status]
  cases write with
  | done =>
      refine ⟨wellFormed, by simp [FlashWrite.status], fun _ => ⟨slot + 1, ?_⟩⟩
      have more : count.toNat < (count + 1).toNat := by omega
      refine ⟨?_, saves.number, saves.mirror, sram, updp, ?_⟩
      · rw [slots, saves.count]
        exact leads.overtake more
      · rw [saves.count]
        exact next ▸ Nat.succ_le_succ counted
  | failed left => exact cuts.elim
  | cut left =>
      refine ⟨wellFormed, fun _ => .inr ⟨slot, ⟨_, saved⟩, ?_, ?_, Nat.le_succ_of_le counted⟩, ?_⟩
      · rw [slots]
        exact leads.damage
      · rfl
      · simp [FlashWrite.status]

theorem Kept.unchanged (kept : Kept around device saved bound) (powered : device.powered = true)
    {result : ParamReturn} (same : result.2 = device.state) (status : result.1.isSome = true) :
    Kept around ⟨result.2, result.1.isSome⟩ saved (bound + 1) := by
  rw [same, status, ← powered]
  exact kept.mono (Nat.le_succ bound)

theorem kept_set (kept : Kept around device saved bound) (powered : device.powered = true)
    (bounded : bound < 65535) {id : Int} {argv : List UInt8} {write : FlashWrite}
    (short : ShortName id argv) (cuts : write.Cuts around) :
    let result := tlsParamSet write id argv true device.state
    Kept around ⟨result.2, result.1.isSome⟩ ((ParamOp.set id argv true write).saves saved)
      (bound + 1) := by
  intro result
  obtain ⟨slot, leads, number, mirror, sram, updp, count⟩ := kept.on powered
  rw [ParamOp.saves]
  cases valid : ParamId.ofCode id with
  | none =>
      rcases tlsParamSet_invalid valid write argv true device.state with ends | ends
      · exact kept.unchanged powered (by simp [result, ends]) (by simp [result, ends])
      · exact kept.unchanged powered (by simp [result, ends]) (by simp [result, ends])
  | some param =>
      have run : tlsParamSet write id argv true device.state =
          paramToFlash write id (-1) (-1) (device.state.assign param argv) := by
        rw [tlsParamSet_valid valid write argv true updp, if_pos rfl]
      have saves := @paramToFlash_saves _ _ _ _ valid (cuts_damages cuts)
        (device.state.assign param argv) _ number
      have merged : copyFields (flashArm param) (device.state.assign param argv).sramParam
          (device.state.assign param argv).flashParam.parameters =
            (device.state.assign param argv).sramParam := by
        have same : device.state.flashParam.parameters = device.state.sramParam :=
          mirror.trans sram.symm
        simp only [ParamState.assign, ParamState.withSram, same]
        exact copyFields_set valid short _
      rw [← run, merged] at saves
      have assigned : (device.state.assign param argv).sramParam =
          (setArm param).set argv saved := by
        rw [← sram]
        rfl
      rw [assigned] at saves
      exact @kept_save _ _ _ (device.state.assign param argv) _ _ _ _ _ cuts kept.wellFormed leads
        count bounded saves (saves.sram.trans assigned) (saves.updp.trans updp)

theorem kept_toFlash (kept : Kept around device saved bound) (powered : device.powered = true)
    (bounded : bound < 65535) {id : Int} {write : FlashWrite} (cuts : write.Cuts around) :
    let result := tlsParamToFlash write id device.state
    Kept around ⟨result.2, result.1.isSome⟩ saved (bound + 1) := by
  intro result
  obtain ⟨slot, leads, number, mirror, sram, updp, count⟩ := kept.on powered
  have same : device.state.sramParam = device.state.flashParam.parameters := sram.trans mirror.symm
  by_cases all : id = -1
  · have run : result = (some .ok, device.state) := by
      simp only [result, tlsParamToFlash, all, same, and_self, if_true]
    rw [run]
    exact kept.unchanged powered rfl rfl
  · have run : result = paramToFlash write id (-1) (-1) device.state := by
      simp only [result, tlsParamToFlash, all, false_and, if_false]
    cases valid : ParamId.ofCode id with
    | none =>
        rcases paramToFlash_invalid valid write (-1) (-1) device.state with ends | ends
        · rw [run, ends]
          exact kept.unchanged powered rfl rfl
        · rw [run, ends]
          exact kept.unchanged powered rfl rfl
    | some param =>
        have saves := paramToFlash_saves valid (cuts_damages cuts) number
        rw [← run, ← same, copyFields_self, sram] at saves
        have stored := kept_save cuts kept.wellFormed leads count bounded saves
          (saves.sram.trans sram) (saves.updp.trans updp)
        rw [FlashWrite.outcome_self] at stored
        exact stored

/-- Whatever the power does to the writes of the repair, the copy in the lead stays there. -/
theorem kept_reboot_leading {state : ParamState} {slot : Fin 2} {entry : Entry Nat SysParam}
    {writes : Fin 2 → FlashWrite} (cuts : ∀ index, (writes index).Cuts around)
    (wellFormed : WellFormed around state.partition)
    (leads : Leads (slotsOf around state.partition) slot entry) (counted : entry.count ≤ bound)
    (bounded : bound < 65535) :
    let result := state.boot around writes
    Kept around ⟨result.2, result.1.isSome⟩ entry.value (bound + 1) ∧
      result.2.sramParam = entry.value ∧ result.2.flashParam.parameters = entry.value := by
  intro result
  have damages (index : Fin 2) := cuts_damages (cuts index)
  have loads := boot_loads wellFormed damages leads.prevails
  refine ⟨?_, loads⟩
  obtain ⟨winner, found, leads⟩ := leads.newest
  obtain ⟨isSealed, number⟩ := newest_sealed wellFormed found
  have holds : entry =
      ⟨(state.partition winner).modifyCount.toNat, (state.partition winner).parameters⟩ :=
    Option.some.inj (leads.1.symm.trans (entryOf_sealed around isSealed))
  by_cases beside : Damaged around (state.partition (winner + 1))
  · have saves := boot_repair_saves wellFormed damages found beside
    subst holds
    have kept := @kept_save _ _ _ (state.loadedWith (state.partition winner)) _ _ _ _ _
      (cuts (winner + 1)) wellFormed leads counted bounded saves saves.sram saves.updp
    rw [FlashWrite.outcome_self] at kept
    exact kept
  · have run : result = (some .ok, state.loadedWith (state.partition winner)) :=
      boot_intact wellFormed found beside
    subst holds
    rw [run]
    refine ⟨wellFormed, by simp, ?_⟩
    intro _
    exact ⟨winner, leads, number, rfl, rfl, rfl, Nat.le_succ_of_le counted⟩

theorem kept_reboot_blank {state : ParamState} {writes : Fin 2 → FlashWrite}
    (cuts : ∀ index, (writes index).Cuts around)
    (wellFormed : WellFormed around state.partition)
    (blank : newest (slotsOf around state.partition) = none) :
    let result := state.boot around writes
    Kept around ⟨result.2, result.1.isSome⟩ factoryDefault (bound + 1) ∧
      result.2.sramParam = factoryDefault ∧ result.2.flashParam.parameters = factoryDefault := by
  intro result
  refine ⟨?_, boot_loads_default wellFormed blank⟩
  have damages (index : Fin 2) := cuts_damages (cuts index)
  have stays := @writeDefaults_wellFormed _ _ state.powerOn damages wellFormed
  have slots := @writeDefaults_slots _ _ state.powerOn damages
  have ram := @writeDefaults_ram writes state.powerOn
  have count := Nat.le_add_left 1 bound
  have second : slotsOf around state.powerOn.partition 1 = none := (newest_eq_none.mp blank).2
  have run : result = state.powerOn.writeDefaults writes := boot_factory wellFormed blank
  rw [run, writeDefaults_status]
  cases first : writes 0 with
  | failed left => exact (first ▸ cuts 0 : FlashWrite.Cuts around (.failed left)).elim
  | cut left =>
      rw [first] at slots
      refine ⟨stays, fun _ => .inl ⟨?_, rfl⟩, by simp [FlashWrite.status]⟩
      rw [slots, newest_eq_none]
      exact ⟨rfl, second⟩
  | done =>
      rw [first] at slots
      have lead : Leads (Function.update (slotsOf around state.powerOn.partition) 0
          (some factoryEntry)) 0 factoryEntry := by
        refine ⟨rfl, ?_⟩
        intro rival beside
        exact absurd (second.symm.trans beside) (by simp)
      cases last : writes 1 with
      | failed left => exact (last ▸ cuts 1 : FlashWrite.Cuts around (.failed left)).elim
      | cut left =>
          rw [last] at slots
          refine ⟨stays, fun _ => .inr ⟨0, factoryEntry, ?_, rfl, count⟩, by simp [FlashWrite.status]⟩
          rw [slots]
          exact lead.damage
      | done =>
          rw [last] at slots
          refine ⟨stays, by simp [FlashWrite.status], fun _ => ⟨1, ?_⟩⟩
          rw [writeDefaults_count, slots]
          exact ⟨lead.duplicate, writeDefaults_number first, ram.2.1, ram.1, ram.2.2, count⟩

theorem kept_reboot (kept : Kept around device saved bound) (bounded : bound < 65535)
    {writes : Fin 2 → FlashWrite} (cuts : ∀ index, (writes index).Cuts around) :
    let result := device.state.boot around writes
    Kept around ⟨result.2, result.1.isSome⟩ saved (bound + 1) ∧
      result.2.sramParam = saved ∧ result.2.flashParam.parameters = saved := by
  cases powered : device.powered with
  | true =>
      obtain ⟨slot, leads, -, -, -, -, count⟩ := kept.on powered
      exact kept_reboot_leading cuts kept.wellFormed leads count bounded
  | false =>
      rcases kept.off powered with ⟨blank, rfl⟩ | ⟨slot, entry, leads, rfl, count⟩
      · exact kept_reboot_blank cuts kept.wellFormed blank
      · exact kept_reboot_leading cuts kept.wellFormed leads count bounded

theorem kept_step (kept : Kept around device saved bound) (bounded : bound < 65535) {op : ParamOp}
    (cuts : op.OnlyCuts around) :
    Kept around (device.step around op) (if device.powered then op.saves saved else saved)
      (bound + 1) := by
  cases op with
  | reboot writes =>
      simpa [ParamDevice.step, ParamOp.saves, ParamOp.isReboot, ParamOp.run] using (kept_reboot kept bounded cuts).1
  | toDefault writes => exact cuts.elim
  | set id argv stored write =>
      obtain ⟨rfl, short, cuts⟩ := cuts
      cases powered : device.powered with
      | false =>
          simpa [ParamDevice.step, ParamOp.saves, ParamOp.isReboot, powered] using
            kept.mono (Nat.le_succ bound)
      | true =>
          simpa [ParamDevice.step, ParamOp.saves, ParamOp.isReboot, ParamOp.run, powered] using
            kept_set kept powered bounded short cuts
  | toFlash id write =>
      cases powered : device.powered with
      | false =>
          simpa [ParamDevice.step, ParamOp.saves, ParamOp.isReboot, powered] using
            kept.mono (Nat.le_succ bound)
      | true =>
          simpa [ParamDevice.step, ParamOp.saves, ParamOp.isReboot, ParamOp.run, powered] using
            kept_toFlash kept powered bounded cuts

theorem kept_after (ops : List ParamOp) (kept : Kept around device saved bound)
    (bounded : bound + ops.length ≤ 65535) (cuts : ∀ op ∈ ops, op.OnlyCuts around) :
    Kept around (device.after around ops) (lastSaved around device saved ops)
      (bound + ops.length) := by
  induction ops generalizing device saved bound with
  | nil => exact kept
  | cons op ops ih =>
      rw [List.length_cons] at bounded
      have stepped := kept_step kept (by omega) (cuts op (List.mem_cons_self ..))
      have rest := ih stepped (by omega) fun later member =>
        cuts later (List.mem_cons_of_mem op member)
      rw [List.length_cons, Nat.add_comm ops.length 1, ← Nat.add_assoc]
      exact rest

theorem kept_blank {state : ParamState} (damaged : ∀ index, Damaged around (state.partition index)) :
    Kept around ⟨state, false⟩ factoryDefault 0 := by
  refine ⟨fun index => .inl (damaged index), fun _ => .inl ⟨?_, rfl⟩, by simp⟩
  exact newest_eq_none.mpr ⟨damaged 0, damaged 1⟩

/-- From a device with two damaged partitions, over any run of fewer than 65000 calls and
reboots with cuts in any of their writes, the next start loads the set of the last completed
save. -/
theorem boot_loads_lastSaved (around : Int → UInt8) (blank : ParamState)
    (damaged : ∀ index, Damaged around (blank.partition index)) (first : Fin 2 → FlashWrite)
    (ops : List ParamOp) (few : ops.length < 65000)
    (cuts : ∀ op ∈ ParamOp.reboot first :: ops, op.OnlyCuts around) (last : Fin 2 → FlashWrite)
    (lastCuts : ∀ index, (last index).Cuts around) :
    let start : ParamDevice := ⟨blank, false⟩
    let result := (start.after around (.reboot first :: ops)).state.boot around last
    let saved := lastSaved around start factoryDefault (.reboot first :: ops)
    result.2.sramParam = saved ∧ result.2.flashParam.parameters = saved ∧
      ((∀ index, last index = .done) → result.1 = some .ok) := by
  intro start result saved
  have length : (ParamOp.reboot first :: ops).length < 65001 := by
    rw [List.length_cons]
    omega
  have kept := kept_after (.reboot first :: ops) (kept_blank damaged) (by omega) cuts
  obtain ⟨-, sram, mirror⟩ := kept_reboot kept (by omega) lastCuts
  exact ⟨sram, mirror, boot_status kept.wellFormed⟩

theorem powered_of_firstStart :
    ((⟨blankState, false⟩ : ParamDevice).step (fun _ => 0) (.reboot fun _ => .done)).powered =
      true := by
  have damaged (index : Fin 2) : Damaged (fun _ => 0) (blankState.partition index) :=
    zero_damaged fun _ => 0
  have started := (boot_firstStart damaged).status
  rw [ParamDevice.step_eq rfl rfl]
  exact congrArg Option.isSome started

def regionOps : List ParamOp :=
  [.set 9 [3] true .done, .set 9 [5] true (.cut .zero), .reboot fun _ => .cut .zero]

theorem regionOps_saved :
    lastSaved (fun _ => 0) ⟨blankState, false⟩ factoryDefault
        (.reboot (fun _ => .done) :: regionOps) =
      (setArm .countryRegion).set [3] factoryDefault := by
  simp [lastSaved, Runs.watch, regionOps, ParamOp.saves, ParamId.ofCode, FlashWrite.outcome,
    powered_of_firstStart]

theorem regionOps_onlyCuts :
    ∀ op ∈ ParamOp.reboot (fun _ => .done) :: regionOps, op.OnlyCuts fun _ => 0 := by
  have cut : FlashWrite.Cuts (fun _ => 0) (.cut .zero) := zero_damaged _
  intro op member
  simp only [regionOps, List.mem_cons, List.not_mem_nil, or_false] at member
  rcases member with rfl | rfl | rfl | rfl
  · exact fun _ => trivial
  · exact ⟨rfl, by simp [ShortName, ParamId.ofCode], trivial⟩
  · exact ⟨rfl, by simp [ShortName, ParamId.ofCode], cut⟩
  · exact fun _ => cut

/-- The region is set and saved, a second save is cut short and so is the repair after it: the
device starts with the first region. -/
theorem boot_loads_lastSaved_region :
    let result := (ParamDevice.after (fun _ => 0) ⟨blankState, false⟩
      (.reboot (fun _ => .done) :: regionOps)).state.boot (fun _ => 0) fun _ => .done
    result.2.sramParam = (setArm .countryRegion).set [3] factoryDefault ∧
      result.2.flashParam.parameters = (setArm .countryRegion).set [3] factoryDefault ∧
      result.1 = some .ok := by
  have loads := boot_loads_lastSaved (fun _ => 0) blankState (fun _ => zero_damaged _)
    (fun _ => .done) regionOps (by decide) regionOps_onlyCuts (fun _ => .done) fun _ => trivial
  dsimp only at loads ⊢
  rw [regionOps_saved] at loads
  exact ⟨loads.1, loads.2.1, loads.2.2 fun _ => rfl⟩

end

end SmartMeter
