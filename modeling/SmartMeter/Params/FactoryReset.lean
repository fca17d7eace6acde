import SmartMeter.Params.LatestCopy
import SmartMeter.Library.Runs

/-!
`tls_param_to_default` and the loss of power in it. It writes partition 0 first whichever copy
is the current one, so a cut there leaves what happens to be in partition 1.
-/

namespace SmartMeter

open TwinSlots

/-- The set that a call makes the current one: loaded by a start, or saved with
`TLS_PARAM_STATUS_OK`. -/
def currentBy (around : Int → UInt8) (device : ParamDevice) (op : ParamOp) (current : SysParam) :
    SysParam :=
  let result := op.run around device.state
  match op with
  | .reboot _ => result.2.flashParam.parameters
  | .set _ _ false _ => current
  | _ => if device.powered = true ∧ result.1 = some .ok then result.2.flashParam.parameters
      else current

def lastCurrent (around : Int → UInt8) (device : ParamDevice) (ops : List ParamOp) : SysParam :=
  Runs.watch (ParamDevice.step around) (currentBy around) device factoryDefault ops

def ParamState.Loads (state : ParamState) (parameters : SysParam) : Prop :=
  state.sramParam = parameters ∧ state.flashParam.parameters = parameters

/-- The reset wins when it is completed; cut short it leaves the current set or the defaults. -/
def ResetsAtomically (around : Int → UInt8) (state : ParamState) (current : SysParam)
    (writes next : Fin 2 → FlashWrite) : Prop :=
  let result := tlsParamToDefault writes state
  let booted := (result.2.boot around next).2
  (result.1 = some .ok → booted.Loads factoryDefault) ∧
    (result.1 = none → booted.Loads current ∨ booted.Loads factoryDefault)

def FlashWrite.IsCut : FlashWrite → Prop
  | .cut _ => True
  | _ => False

/-- What partition 1 holds, if it passes the test, is the current set or the defaults. -/
def SafeSurvivor (around : Int → UInt8) (state : ParamState) (current : SysParam) : Prop :=
  ∀ entry, slotsOf around state.partition 1 = some entry →
    entry.value = current ∨ entry.value = factoryDefault

section

variable {around : Int → UInt8} {state : ParamState} {current : SysParam}
  {writes next : Fin 2 → FlashWrite}

theorem reset_wellFormed (damages : ∀ index, (writes index).Damages around)
    (wellFormed : WellFormed around state.partition) :
    WellFormed around (tlsParamToDefault writes state).2.partition := by
  rw [(tlsParamToDefault_eq writes state).2]
  exact writeDefaults_wellFormed damages wellFormed

theorem reset_first_done (damages : ∀ index, (writes index).Damages around)
    (nextDamages : ∀ index, (next index).Damages around)
    (wellFormed : WellFormed around state.partition) (done : writes 0 = .done) :
    ((tlsParamToDefault writes state).2.boot around next).2.Loads factoryDefault := by
  have prevails := @writeDefaults_prevails _ _ state damages done
  rw [← (tlsParamToDefault_eq writes state).2] at prevails
  exact boot_loads (reset_wellFormed damages wellFormed) nextDamages prevails

/-- A cut in the first write leaves partition 1 to decide. -/
theorem reset_first_cut (damages : ∀ index, (writes index).Damages around)
    (nextDamages : ∀ index, (next index).Damages around)
    (wellFormed : WellFormed around state.partition) {left : ParamFlash}
    (cut : writes 0 = .cut left) :
    ((tlsParamToDefault writes state).2.boot around next).2.Loads
      (match slotsOf around state.partition 1 with
        | some entry => entry.value
        | none => factoryDefault) := by
  have slots := @writeDefaults_slots _ _ state damages
  rw [← (tlsParamToDefault_eq writes state).2, cut] at slots
  have first : slotsOf around (tlsParamToDefault writes state).2.partition 0 = none := by
    rw [slots]
    rfl
  have second : slotsOf around (tlsParamToDefault writes state).2.partition 1 =
      slotsOf around state.partition 1 := by
    rw [slots]
    rfl
  have stays := reset_wellFormed damages wellFormed
  cases survivor : slotsOf around state.partition 1 with
  | none => exact boot_loads_default stays (newest_eq_none.mpr ⟨first, second.trans survivor⟩)
  | some entry =>
      refine boot_loads stays nextDamages ⟨second.trans survivor, ?_⟩
      intro rival beside
      exact absurd (first.symm.trans beside) (by simp)

theorem resetsAtomically_iff_of_wellFormed (damages : ∀ index, (writes index).Damages around)
    (nextDamages : ∀ index, (next index).Damages around)
    (wellFormed : WellFormed around state.partition) :
    ResetsAtomically around state current writes next ↔
      ((writes 0).IsCut → SafeSurvivor around state current) := by
  have status := @writeDefaults_status writes state
  rw [← (tlsParamToDefault_eq writes state).1] at status
  cases ends : writes 0 with
  | done =>
      have loads := reset_first_done damages nextDamages wellFormed ends
      exact iff_of_true ⟨fun _ => loads, fun _ => .inr loads⟩ False.elim
  | failed left =>
      rw [ends] at status
      refine iff_of_true ⟨?_, ?_⟩ False.elim
      · rw [status]
        exact fun ok => absurd ok (by simp [FlashWrite.status])
      · rw [status]
        exact fun lost => absurd lost (by simp [FlashWrite.status])
  | cut left =>
      have loads := reset_first_cut damages nextDamages wellFormed ends
      rw [ends] at status
      have reduced : ResetsAtomically around state current writes next ↔
          ((tlsParamToDefault writes state).2.boot around next).2.Loads current ∨
            ((tlsParamToDefault writes state).2.boot around next).2.Loads factoryDefault := by
        simp [ResetsAtomically, status, FlashWrite.status]
      rw [reduced]
      cases survivor : slotsOf around state.partition 1 with
      | none =>
          rw [survivor] at loads
          refine iff_of_true (.inr loads) ?_
          intro _ entry holds
          exact absurd (survivor.symm.trans holds) (by simp)
      | some entry =>
          rw [survivor] at loads
          constructor
          · intro either _ other holds
            obtain rfl := Option.some.inj (survivor.symm.trans holds)
            rcases either with here | here
            · exact .inl (loads.1.symm.trans here.1)
            · exact .inr (loads.1.symm.trans here.1)
          · intro safe
            rcases safe trivial entry survivor with same | same
            · exact .inl (same ▸ loads)
            · exact .inr (same ▸ loads)

end

/-- In every state that any run of calls and reboots reaches, however its writes end: the
reset is atomic unless the cut is in its first write and partition 1 holds an older set. -/
theorem resetsAtomically_iff (around : Int → UInt8) (blank : ParamState)
    (damaged : ∀ index, Damaged around (blank.partition index)) (ops : List ParamOp)
    (opsDamage : ∀ op ∈ ops, op.Damages around) (writes next : Fin 2 → FlashWrite)
    (damages : ∀ index, (writes index).Damages around)
    (nextDamages : ∀ index, (next index).Damages around) :
    let start : ParamDevice := ⟨blank, false⟩
    let state := (start.after around ops).state
    let current := lastCurrent around start ops
    ResetsAtomically around state current writes next ↔
      ((writes 0).IsCut → SafeSurvivor around state current) := by
  intro start state current
  have wellFormed : WellFormed around state.partition :=
    @after_wellFormed _ start ops opsDamage fun index => .inl (damaged index)
  exact resetsAtomically_iff_of_wellFormed damages nextDamages wellFormed

theorem resetsAtomically_iff_first :
    let start : ParamDevice := ⟨blankState, false⟩
    let ops : List ParamOp := [.reboot fun _ => .done]
    let state := (start.after (fun _ => 0) ops).state
    let current := lastCurrent (fun _ => 0) start ops
    ResetsAtomically (fun _ => 0) state current (fun _ => .done) (fun _ => .done) ↔
      (FlashWrite.done.IsCut → SafeSurvivor (fun _ => 0) state current) := by
  refine resetsAtomically_iff (fun _ => 0) blankState (fun _ => zero_damaged _) _ ?_ (fun _ => .done)
    (fun _ => .done) (fun _ => trivial) (fun _ => trivial)
  intro op member
  rw [List.mem_singleton.mp member]
  exact fun _ => trivial

theorem lastCurrent_save {around : Int → UInt8} {blank : ParamState}
    (damaged : ∀ index, Damaged around (blank.partition index)) {saves : List (Int × List UInt8)}
    {save : Int × List UInt8}
    (valid : ∀ other ∈ saves ++ [save], (ParamId.ofCode other.1).isSome = true) :
    lastCurrent around ⟨blank, false⟩
        ((.reboot fun _ => .done) :: (saves ++ [save]).map saveOp) =
      savedSet around blank (saves ++ [save]) := by
  have counted := counted_after damaged fun other member =>
    valid other (List.mem_append_left [save] member)
  obtain ⟨current, -, number, -⟩ := counted.slots
  obtain ⟨param, here⟩ := Option.isSome_iff_exists.mp (valid save (by simp))
  have stored := @paramToFlash_saves around .done _ _ here trivial
    ((afterSaves around blank saves).state.assign param save.2) _ number
  have run : (saveOp save).run around (afterSaves around blank saves).state =
      paramToFlash .done save.1 (-1) (-1)
        ((afterSaves around blank saves).state.assign param save.2) := by
    simp only [saveOp, ParamOp.run]
    rw [tlsParamSet_valid here _ _ _ counted.updp, if_pos rfl]
  have split : (.reboot fun _ => .done) :: (saves ++ [save]).map saveOp =
      ((.reboot fun _ => .done) :: saves.map saveOp) ++ [saveOp save] := by simp
  rw [lastCurrent, split, Runs.watch_append, savedSet, afterSaves_concat]
  have chosen : currentBy around (afterSaves around blank saves) (saveOp save) =
      fun _ => ((saveOp save).run around (afterSaves around blank saves).state).2.flashParam.parameters := by
    funext before
    have taken : (afterSaves around blank saves).powered = true ∧
        ((saveOp save).run around (afterSaves around blank saves).state).1 = some .ok := by
      rw [run]
      exact ⟨counted.powered, stored.status⟩
    exact if_pos taken
  refine (congrFun chosen _).trans ?_
  rw [ParamDevice.step, counted.powered, Bool.true_or, if_pos rfl]

/-- Regions 3, 5 and 7 are saved, the last one into partition 0; the power goes when the reset
writes that partition, and region 5 is back. -/
theorem cut_reset_loads_older :
    let start : ParamDevice := ⟨blankState, false⟩
    let ops := (.reboot fun _ => .done) :: [(9, [3]), (9, [5]), (9, [7])].map saveOp
    ¬ResetsAtomically (fun _ => 0) (start.after (fun _ => 0) ops).state
      (lastCurrent (fun _ => 0) start ops) (fun _ => .cut .zero) (fun _ => .done) := by
  intro start ops
  let around : Int → UInt8 := fun _ => 0
  have damaged (index : Fin 2) : Damaged around (blankState.partition index) := zero_damaged around
  have valid : ∀ save ∈ [((9 : Int), [(3 : UInt8)]), (9, [5]), (9, [7])],
      (ParamId.ofCode save.1).isSome = true := by decide
  have early : ∀ save ∈ [((9 : Int), [(3 : UInt8)]), (9, [5])],
      (ParamId.ofCode save.1).isSome = true := by decide
  have counted := counted_after damaged valid
  obtain ⟨current, parity, -, -, beside⟩ := counted.slots
  obtain rfl : current = 0 := by
    apply Fin.ext
    exact parity
  have survivor := @savedSet_region around blankState [(9, [3])] damaged (by decide) 5
  have last := savedSet_region damaged early 7
  have now : lastCurrent around start ops =
      savedSet around blankState ([(9, [3]), (9, [5])] ++ [(9, [7])]) :=
    @lastCurrent_save around blankState damaged [(9, [3]), (9, [5])] (9, [7]) valid
  intro atomic
  have safe := (@resetsAtomically_iff_of_wellFormed around _ _ (fun _ => .cut .zero)
    (fun _ => .done) (fun _ => zero_damaged around) (fun _ => trivial) counted.wellFormed).mp atomic
  rcases safe trivial _ beside with same | same
  · have seen := congrFun same 54
    rw [now, last] at seen
    exact absurd (survivor.symm.trans seen) (by decide)
  · have seen := congrFun same 54
    exact absurd (survivor.symm.trans seen) (by decide)

end SmartMeter
