import SmartMeter.Params.ParamDevice

/-!
Saves without any fault, counted over the life of the device. The counter has 16 bits: when
it comes round to zero, the copy before it is the one with the larger count.
-/

namespace SmartMeter

open TwinSlots

def saveOp (save : Int × List UInt8) : ParamOp :=
  .set save.1 save.2 true .done

def freshDevice (around : Int → UInt8) (blank : ParamState) : ParamDevice :=
  ParamDevice.step around ⟨blank, false⟩ (.reboot fun _ => .done)

def afterSaves (around : Int → UInt8) (blank : ParamState) (saves : List (Int × List UInt8)) :
    ParamDevice :=
  (freshDevice around blank).after around (saves.map saveOp)

structure Counted (around : Int → UInt8) (device : ParamDevice) (saves : Nat)
    (previous : SysParam) : Prop where
  powered : device.powered = true
  updp : device.state.updpMode = false
  wellFormed : WellFormed around device.state.partition
  count : device.state.flashParam.modifyCount.toNat = (saves + 1) % 65536
  slots : ∃ current : Fin 2, current.val = (saves + 1) % 2 ∧
    device.state.flashParam.partitionNum = UInt16.ofNat current ∧
    slotsOf around device.state.partition current =
      some ⟨(saves + 1) % 65536, device.state.flashParam.parameters⟩ ∧
    slotsOf around device.state.partition (current + 1) =
      some ⟨if saves = 0 then 1 else saves % 65536, previous⟩
  first : saves = 0 → previous = device.state.flashParam.parameters

section

variable {around : Int → UInt8} {device : ParamDevice} {saves : Nat} {previous : SysParam}

theorem counted_fresh {blank : ParamState}
    (damaged : ∀ index, Damaged around (blank.partition index)) :
    Counted around (freshDevice around blank) 0 factoryDefault := by
  have fresh := boot_firstStart damaged
  refine ⟨?_, fresh.updp, fresh.wellFormed, fresh.count, ⟨1, rfl, fresh.number, ?_, fresh.slots 0⟩,
    fun _ => fresh.mirror.symm⟩
  · exact (congrArg Option.isSome fresh.status)
  · refine (fresh.slots 1).trans ?_
    exact congrArg (fun value => some (Entry.mk 1 value)) fresh.mirror.symm

theorem step_saveOp (powered : device.powered = true) (updp : device.state.updpMode = false)
    {id : Int} {param : ParamId} (valid : ParamId.ofCode id = some param) (argv : List UInt8) :
    device.step around (saveOp (id, argv)) =
      ⟨(paramToFlash .done id (-1) (-1) (device.state.assign param argv)).2,
        (paramToFlash .done id (-1) (-1) (device.state.assign param argv)).1.isSome⟩ := by
  rw [ParamDevice.step, powered, Bool.true_or, if_pos rfl]
  simp only [saveOp, ParamOp.run]
  rw [tlsParamSet_valid valid _ _ _ updp, if_pos rfl]

theorem counted_step (counted : Counted around device saves previous) {save : Int × List UInt8}
    (valid : (ParamId.ofCode save.1).isSome = true) :
    Counted around (device.step around (saveOp save)) (saves + 1)
      device.state.flashParam.parameters := by
  obtain ⟨current, parity, number, holds, -⟩ := counted.slots
  obtain ⟨param, valid⟩ := Option.isSome_iff_exists.mp valid
  have stored := @paramToFlash_saves around .done _ _ valid trivial
    (device.state.assign param save.2) _ number
  have next : (device.state.flashParam.modifyCount + 1).toNat = (saves + 1 + 1) % 65536 := by
    rw [UInt16.toNat_add, counted.count]
    simp only [UInt16.reduceToNat]
    omega
  rw [step_saveOp counted.powered counted.updp valid]
  refine ⟨?_, stored.updp.trans counted.updp, stored.wellFormed counted.wellFormed,
    stored.count.trans next, ⟨current + 1, ?_, stored.number, ?_, ?_⟩, by omega⟩
  · rw [stored.status]
    rfl
  · omega
  · rw [stored.slots, stored.mirror, Function.update_self]
    exact congrArg (fun count => some (Entry.mk count _)) next
  · rw [stored.slots, beside_beside, Function.update_of_ne (beside_ne current).symm, if_neg (by omega)]
    exact holds

end

/-- The parameter set of the last of the saves; the factory defaults when there is none. -/
def savedSet (around : Int → UInt8) (blank : ParamState) (saves : List (Int × List UInt8)) :
    SysParam :=
  (afterSaves around blank saves).state.flashParam.parameters

section

variable {around : Int → UInt8} {blank : ParamState} {saves : List (Int × List UInt8)}

theorem afterSaves_concat (save : Int × List UInt8) :
    afterSaves around blank (saves ++ [save]) =
      (afterSaves around blank saves).step around (saveOp save) := by
  simp [afterSaves, ParamDevice.after]

theorem counted_after (damaged : ∀ index, Damaged around (blank.partition index))
    (valid : ∀ save ∈ saves, (ParamId.ofCode save.1).isSome = true) :
    Counted around (afterSaves around blank saves) saves.length
      (savedSet around blank saves.dropLast) := by
  induction saves using List.reverseRecOn with
  | nil =>
      have fresh := counted_fresh damaged
      rw [fresh.first rfl] at fresh
      exact fresh
  | append_singleton saves save ih =>
      have before := ih fun other member => valid other (List.mem_append_left [save] member)
      have here : (ParamId.ofCode save.1).isSome = true := valid save (by simp)
      rw [afterSaves_concat, List.length_append, List.dropLast_concat]
      exact counted_step before here

def loadedAfter (around : Int → UInt8) (blank : ParamState) (saves : List (Int × List UInt8)) :
    SysParam :=
  ((afterSaves around blank saves).state.boot around fun _ => .done).2.sramParam

theorem loadedAfter_eq (damaged : ∀ index, Damaged around (blank.partition index))
    (valid : ∀ save ∈ saves, (ParamId.ofCode save.1).isSome = true) :
    loadedAfter around blank saves =
      if (saves.length + 1) % 65536 = 0 then savedSet around blank saves.dropLast
      else savedSet around blank saves := by
  have counted := counted_after damaged valid
  obtain ⟨current, -, -, holds, beside⟩ := counted.slots
  have damages (_ : Fin 2) : FlashWrite.done.Damages around := trivial
  split
  next wraps =>
    have nonzero : ¬saves.length = 0 := by omega
    rw [if_neg nonzero] at beside
    refine (boot_loads counted.wellFormed damages ⟨beside, ?_⟩).1
    intro rival found
    rw [beside_beside, holds, wraps] at found
    left
    rw [← Option.some.inj found]
    show 0 < saves.length % 65536
    omega
  next below =>
    refine (boot_loads counted.wellFormed damages ⟨holds, ?_⟩).1
    intro rival found
    obtain rfl := Option.some.inj (beside.symm.trans found)
    by_cases first : saves.length = 0
    · right
      exact counted.first first
    · left
      show (if saves.length = 0 then 1 else saves.length % 65536) < (saves.length + 1) % 65536
      rw [if_neg first]
      omega

theorem savedSet_region (damaged : ∀ index, Damaged around (blank.partition index))
    (valid : ∀ save ∈ saves, (ParamId.ofCode save.1).isSome = true) (region : UInt8) :
    savedSet around blank (saves ++ [(9, [region])]) 54 = region := by
  have counted := counted_after damaged valid
  obtain ⟨current, -, number, -⟩ := counted.slots
  have stored := @paramToFlash_saves around .done 9 .countryRegion rfl trivial
    ((afterSaves around blank saves).state.assign .countryRegion [region]) _ number
  have saved : savedSet around blank (saves ++ [(9, [region])]) =
      copyFields (flashArm .countryRegion)
        ((afterSaves around blank saves).state.assign .countryRegion [region]).sramParam
        (afterSaves around blank saves).state.flashParam.parameters := by
    rw [savedSet, afterSaves_concat, step_saveOp counted.powered counted.updp rfl]
    exact stored.mirror
  rw [saved, copyFields_apply, if_pos ⟨.wirelessRegion, by simp [flashArm], by decide⟩]
  rfl

def regionSaves (count : Nat) : List (Int × List UInt8) :=
  List.replicate count (9, [1]) ++ [(9, [2])]

theorem regionSaves_length (count : Nat) : (regionSaves count).length = count + 1 := by
  rw [regionSaves, List.length_append, List.length_replicate, List.length_singleton]

theorem regionSaves_valid (count : Nat) :
    ∀ save ∈ regionSaves count, (ParamId.ofCode save.1).isSome = true := by
  intro save member
  rcases List.mem_append.mp member with early | last
  · rw [List.eq_of_mem_replicate early]
    rfl
  · rw [List.mem_singleton.mp last]
    rfl

theorem regionSaves_stale (damaged : ∀ index, Damaged around (blank.partition index)) {count : Nat}
    (wraps : (count + 1 + 1 + 1) % 65536 = 0) :
    loadedAfter around blank (regionSaves (count + 1)) ≠
      savedSet around blank (regionSaves (count + 1)) := by
  have early (save : Int × List UInt8) (member : save ∈ List.replicate count ((9 : Int), [(1 : UInt8)])) :
      (ParamId.ofCode save.1).isSome = true :=
    regionSaves_valid count save (List.mem_append_left _ member)
  have length : ((regionSaves (count + 1)).length + 1) % 65536 = 0 := by
    rw [regionSaves_length]
    exact wraps
  rw [loadedAfter_eq damaged (regionSaves_valid _), if_pos length]
  intro same
  have before : savedSet around blank (regionSaves (count + 1)).dropLast 54 = 1 := by
    rw [regionSaves, List.dropLast_concat, List.replicate_succ']
    exact savedSet_region damaged early 1
  have last : savedSet around blank (regionSaves (count + 1)) 54 = 2 := by
    refine savedSet_region damaged ?_ 2
    intro save member
    exact regionSaves_valid (count + 1) save (List.mem_append_left _ member)
  rw [same, last] at before
  exact absurd before (by decide)

end

/-- A start after `n` successful saves loads the set of the `n`-th, whatever was saved, unless
the counter, which starts at one, has just come round to zero. -/
theorem latest_copy_wins_iff (around : Int → UInt8) (blank : ParamState)
    (damaged : ∀ index, Damaged around (blank.partition index)) (n : Nat) :
    (∀ saves, saves.length = n → (∀ save ∈ saves, (ParamId.ofCode save.1).isSome = true) →
      loadedAfter around blank saves = savedSet around blank saves) ↔ (n + 1) % 65536 ≠ 0 := by
  constructor
  · intro wins wraps
    obtain ⟨count, rfl⟩ : ∃ count, n = count + 1 + 1 := ⟨n - 2, by omega⟩
    exact regionSaves_stale damaged wraps (wins _ (regionSaves_length _) (regionSaves_valid _))
  · rintro below saves rfl valid
    rw [loadedAfter_eq damaged valid, if_neg below]

theorem latest_copy_wins_iff_once :
    (∀ saves, saves.length = 1 → (∀ save ∈ saves, (ParamId.ofCode save.1).isSome = true) →
      loadedAfter (fun _ => 0) blankState saves = savedSet (fun _ => 0) blankState saves) ↔
        (1 + 1) % 65536 ≠ 0 :=
  latest_copy_wins_iff (fun _ => 0) blankState (fun _ => zero_damaged _) 1

/-- The 65535th save of a new device is not the one that is loaded. -/
theorem wrapped_copy_loses :
    (regionSaves 65534).length = 65535 ∧
      (∀ save ∈ regionSaves 65534, (ParamId.ofCode save.1).isSome = true) ∧
      loadedAfter (fun _ => 0) blankState (regionSaves 65534) ≠
        savedSet (fun _ => 0) blankState (regionSaves 65534) := by
  refine ⟨regionSaves_length 65534, regionSaves_valid _, ?_⟩
  exact regionSaves_stale (fun _ => zero_damaged _) (by decide : (65533 + 1 + 1 + 1) % 65536 = 0)

end SmartMeter
