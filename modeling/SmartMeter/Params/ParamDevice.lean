import SmartMeter.Params.ParamFields

/-!
The parameter store over whole runs: the calls of the program, each with the way its flash
writes end, and the device that may lose its power in one of them.
-/

namespace SmartMeter

open TwinSlots

inductive ParamOp
  | set (id : Int) (argv : List UInt8) (stored : Bool) (write : FlashWrite)
  | toFlash (id : Int) (write : FlashWrite)
  | toDefault (writes : Fin 2 → FlashWrite)
  | reboot (writes : Fin 2 → FlashWrite)

structure ParamDevice where
  state : ParamState
  powered : Bool

def ParamOp.run (around : Int → UInt8) : ParamOp → ParamState → ParamReturn
  | .set id argv stored write => tlsParamSet write id argv stored
  | .toFlash id write => tlsParamToFlash write id
  | .toDefault writes => tlsParamToDefault writes
  | .reboot writes => ParamState.boot around writes

def ParamOp.isReboot : ParamOp → Bool
  | .reboot _ => true
  | _ => false

-- Without power only a reboot does anything.
def ParamDevice.step (around : Int → UInt8) (device : ParamDevice) (op : ParamOp) : ParamDevice :=
  if device.powered || op.isReboot then
    let result := op.run around device.state
    ⟨result.2, result.1.isSome⟩
  else device

def ParamDevice.after (around : Int → UInt8) (device : ParamDevice) (ops : List ParamOp) :
    ParamDevice :=
  ops.foldl (ParamDevice.step around) device

theorem ParamDevice.step_eq {around : Int → UInt8} {device : ParamDevice} {op : ParamOp}
    {result : ParamReturn} (acts : (device.powered || op.isReboot) = true)
    (run : op.run around device.state = result) :
    device.step around op = ⟨result.2, result.1.isSome⟩ := by
  subst run
  exact if_pos acts

def blankState : ParamState := ⟨.zero, fun _ => 0, fun _ => 0, false, fun _ => .zero⟩

theorem zero_damaged (around : Int → UInt8) : Damaged around .zero := by
  simp [Damaged, entryOf, ParamFlash.zero, tlsParamMagic]

structure FirstStart (around : Int → UInt8) (result : ParamReturn) : Prop where
  status : result.1 = some .ok
  sram : result.2.sramParam = factoryDefault
  mirror : result.2.flashParam.parameters = factoryDefault
  updp : result.2.updpMode = false
  count : result.2.flashParam.modifyCount.toNat = 1
  number : result.2.flashParam.partitionNum = UInt16.ofNat (1 : Fin 2)
  slots : ∀ slot, slotsOf around result.2.partition slot = some factoryEntry
  wellFormed : WellFormed around result.2.partition

theorem boot_firstStart {around : Int → UInt8} {state : ParamState}
    (damaged : ∀ index, Damaged around (state.partition index)) :
    FirstStart around (state.boot around fun _ => .done) := by
  have wellFormed : WellFormed around state.partition := fun index => .inl (damaged index)
  have blank : newest (slotsOf around state.partition) = none :=
    newest_eq_none.mpr ⟨damaged 0, damaged 1⟩
  have damages (_ : Fin 2) : FlashWrite.done.Damages around := trivial
  have slots := @writeDefaults_slots _ _ state.powerOn damages
  rw [boot_factory wellFormed blank]
  refine ⟨writeDefaults_status, writeDefaults_ram.1, writeDefaults_ram.2.1, writeDefaults_ram.2.2,
    writeDefaults_count, writeDefaults_number rfl, ?_, writeDefaults_wellFormed damages wellFormed⟩
  intro slot
  rw [slots]
  rcases slot_cases slot with rfl | rfl
  · rfl
  · rfl

def ParamOp.Damages (around : Int → UInt8) : ParamOp → Prop
  | .set _ _ _ write => write.Damages around
  | .toFlash _ write => write.Damages around
  | .toDefault writes => ∀ index, (writes index).Damages around
  | .reboot writes => ∀ index, (writes index).Damages around

section

variable {around : Int → UInt8} {state : ParamState}

theorem paramToFlash_wellFormed {write : FlashWrite} (damages : write.Damages around) (id : Int)
    (wellFormed : WellFormed around state.partition) :
    WellFormed around (paramToFlash write id (-1) (-1) state).2.partition := by
  cases valid : ParamId.ofCode id with
  | none =>
      rcases paramToFlash_invalid valid write (-1) (-1) state with ends | ends
      · rw [ends]
        exact wellFormed
      · rw [ends]
        exact wellFormed
  | some param =>
      obtain ⟨target, number⟩ := alternate_cases state.flashParam.partitionNum
      rw [paramToFlash_valid valid]
      exact @write_wellFormed _ _ _ target wellFormed damages (stamp_sealed _ _ _) number

/-- `tls_param_to_default` writes the defaults, as the first start does. -/
theorem tlsParamToDefault_eq (writes : Fin 2 → FlashWrite) (state : ParamState) :
    (tlsParamToDefault writes state).1 = (state.writeDefaults writes).1 ∧
      (tlsParamToDefault writes state).2.partition =
        (state.writeDefaults writes).2.partition := by
  simp only [tlsParamToDefault, paramToFlash_all, ParamState.writeDefaults]
  cases writes 0 with
  | done => exact ⟨rfl, rfl⟩
  | failed left => exact ⟨rfl, rfl⟩
  | cut left => exact ⟨rfl, rfl⟩

theorem tlsParamToDefault_ram (writes : Fin 2 → FlashWrite) (state : ParamState) :
    let result := (tlsParamToDefault writes state).2
    let written := (state.writeDefaults writes).2
    result.flashParam.modifyCount = written.flashParam.modifyCount ∧
      result.flashParam.partitionNum = written.flashParam.partitionNum ∧
      result.flashParam.parameters = written.flashParam.parameters ∧
      result.updpMode = written.updpMode := by
  simp only [tlsParamToDefault, paramToFlash_all, ParamState.writeDefaults]
  cases writes 0 with
  | done => exact ⟨rfl, rfl, rfl, rfl⟩
  | failed left => exact ⟨rfl, rfl, rfl, rfl⟩
  | cut left => exact ⟨rfl, rfl, rfl, rfl⟩

theorem boot_wellFormed {writes : Fin 2 → FlashWrite}
    (damages : ∀ index, (writes index).Damages around)
    (wellFormed : WellFormed around state.partition) :
    WellFormed around (state.boot around writes).2.partition := by
  cases found : newest (slotsOf around state.partition) with
  | none =>
      rw [boot_factory wellFormed found]
      exact @writeDefaults_wellFormed _ _ state.powerOn damages wellFormed
  | some winner =>
      by_cases beside : Damaged around (state.partition (winner + 1))
      · exact (boot_repair_saves wellFormed damages found beside).wellFormed wellFormed
      · rw [boot_intact wellFormed found beside]
        exact wellFormed

theorem run_wellFormed {op : ParamOp} (damages : op.Damages around)
    (wellFormed : WellFormed around state.partition) :
    WellFormed around (op.run around state).2.partition := by
  cases op with
  | set id argv stored write =>
      rw [ParamOp.run, tlsParamSet]
      split
      · exact wellFormed
      · split
        · exact wellFormed
        · split
          · exact wellFormed
          · split
            · exact paramToFlash_wellFormed damages id wellFormed
            · exact wellFormed
  | toFlash id write =>
      rw [ParamOp.run, tlsParamToFlash]
      split
      · exact wellFormed
      · exact paramToFlash_wellFormed damages id wellFormed
  | toDefault writes =>
      rw [ParamOp.run, (tlsParamToDefault_eq writes state).2]
      exact writeDefaults_wellFormed damages wellFormed
  | reboot writes => exact boot_wellFormed damages wellFormed

theorem step_wellFormed {device : ParamDevice} {op : ParamOp} (damages : op.Damages around)
    (wellFormed : WellFormed around device.state.partition) :
    WellFormed around (device.step around op).state.partition := by
  rw [ParamDevice.step]
  split
  · exact run_wellFormed damages wellFormed
  · exact wellFormed

/-- Whatever happens to the writes, every copy that passes the test was written in full. -/
theorem after_wellFormed {device : ParamDevice} {ops : List ParamOp}
    (damages : ∀ op ∈ ops, op.Damages around)
    (wellFormed : WellFormed around device.state.partition) :
    WellFormed around (device.after around ops).state.partition := by
  induction ops generalizing device with
  | nil => exact wellFormed
  | cons op ops ih =>
      refine ih (fun later member => damages later (List.mem_cons_of_mem op member)) ?_
      exact step_wellFormed (damages op (List.mem_cons_self ..)) wellFormed

end

end SmartMeter
