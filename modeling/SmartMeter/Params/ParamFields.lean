import SmartMeter.Params.ParamStore

/-! What the three switches of `wm_param.c` do to the fields of a parameter set. -/

namespace SmartMeter

theorem copyFields_apply (fields : List Field) (src dest : SysParam) (index : Fin 704) :
    copyFields fields src dest index =
      if ∃ field ∈ fields, field.Covers index then src index else dest index := by
  induction fields generalizing dest with
  | nil => simp [copyFields]
  | cons field fields ih =>
      have step : copyFields (field :: fields) src dest =
          copyFields fields src (field.copy src dest) := rfl
      rw [step, ih]
      by_cases first : field.Covers index
      · simp [Field.copy, first]
      · simp [Field.copy, first]

/-- The two names are copied as strings; a longer one runs into the next field. -/
def ShortName (id : Int) (argv : List UInt8) : Prop :=
  ParamId.ofCode id = some .dnsname ∨ ParamId.ofCode id = some .devname →
    (cString argv).length < 32

theorem arms_agree (param : ParamId) :
    (∃ field, setArm param = .copy field ∧ field ∈ flashArm param) ∨
      ∃ field, setArm param = .strcpy field ∧ field ∈ flashArm param ∧ field.size = 32 ∧
        (param = .dnsname ∨ param = .devname) := by
  cases param <;> simp [setArm, flashArm, Field.localDnsname, Field.localDeviceName]

/-- Outside the fields that `param_to_flash` copies for an id, `tls_param_set` of that id
changes nothing, as long as a name fits. -/
theorem set_outside {id : Int} {param : ParamId} (valid : ParamId.ofCode id = some param)
    {argv : List UInt8} (short : ShortName id argv) (parameters : SysParam) {index : Fin 704}
    (outside : ¬∃ field ∈ flashArm param, field.Covers index) :
    (setArm param).set argv parameters index = parameters index := by
  rcases arms_agree param with ⟨field, arm, member⟩ | ⟨field, arm, member, size, name⟩
  · have notCovered : ¬field.Covers index := fun covered => outside ⟨field, member, covered⟩
    rw [arm]
    simp [FieldArm.set, Field.store, notCovered]
  · have length : (cString argv).length < 32 := by
      apply short
      rw [valid]
      rcases name with rfl | rfl
      · exact .inl rfl
      · exact .inr rfl
    have notCovered : ¬(Field.mk field.offset ((cString argv).length + 1)).Covers index := by
      rintro ⟨lower, upper⟩
      refine outside ⟨field, member, lower, ?_⟩
      simp only at upper
      omega
    rw [arm]
    simp [FieldArm.set, Field.strcpy, Field.store, notCovered]

theorem copyFields_set {id : Int} {param : ParamId} (valid : ParamId.ofCode id = some param)
    {argv : List UInt8} (short : ShortName id argv) (parameters : SysParam) :
    copyFields (flashArm param) ((setArm param).set argv parameters) parameters =
      (setArm param).set argv parameters := by
  funext index
  rw [copyFields_apply]
  split
  next => rfl
  next outside => exact (set_outside valid short parameters outside).symm

theorem copyFields_self (fields : List Field) (parameters : SysParam) :
    copyFields fields parameters parameters = parameters := by
  funext index
  rw [copyFields_apply]
  split
  · rfl
  · rfl

def ParamId.field (param : ParamId) : Field :=
  match setArm param with
  | .copy field => field
  | .strcpy field => field

/-- A value of the type of the field: its bytes, or the characters of a string. -/
def ParamId.Value (param : ParamId) (value : List UInt8) : Prop :=
  match setArm param with
  | .copy field => value.length = field.size
  | .strcpy _ => 0 ∉ value

/-- `tls_param_set` touches the field of its id and nothing else, in RAM, in the mirror and in
the stored copy. -/
structure NamesOneField (id : Int) (param : ParamId) (value : List UInt8) (before after : ParamState) :
    Prop where
  ram : tlsParamGet id false after = (.ok, some value)
  flash : tlsParamGet id true after = (.ok, some value)
  sramFrame : ∀ index : Fin 704, ¬param.field.Covers index →
    after.sramParam index = before.sramParam index
  mirrorFrame : ∀ index : Fin 704, ¬param.field.Covers index →
    after.flashParam.parameters index = before.flashParam.parameters index
  storedFrame : ∀ index : Fin 704, ¬param.field.Covers index →
    (after.partition (partitionIndex after.flashParam.partitionNum)).parameters index =
      before.flashParam.parameters index

/-- What a longer name writes behind its field is there already. -/
def NameFits (field : Field) (value : List UInt8) (param : SysParam) : Prop :=
  ∀ index, 32 ≤ index → index ≤ value.length → ∃ inside : field.offset + index < 704,
    param ⟨field.offset + index, inside⟩ = (value ++ [0]).getD index 0

def FitsField (param : ParamId) (value : List UInt8) (sram mirror : SysParam) : Prop :=
  match param with
  | .dnsname => NameFits .localDnsname value sram ∧ NameFits .localDnsname value mirror
  | .devname => NameFits .localDeviceName value sram ∧ NameFits .localDeviceName value mirror
  | .autoTriggerPeriod => ∀ index : Fin 704, Field.debugMode.Covers index →
      sram index = mirror index
  | _ => True

theorem load_length (field : Field) (param : SysParam) : (field.load param).length = field.size := by
  rw [Field.load, List.length_map, List.length_range]

theorem load_eq_iff {field : Field} (inside : field.offset + field.size ≤ 704) {value : List UInt8}
    (length : value.length = field.size) (param : SysParam) :
    field.load param = value ↔ ∀ index : Fin 704, field.Covers index →
      param index = value.getD (index - field.offset) 0 := by
  constructor
  · rintro rfl index ⟨lower, upper⟩
    have bound : index.val - field.offset < field.size := by omega
    have place : field.offset + (index.val - field.offset) = index.val := by omega
    simp [Field.load, bound, place]
  · intro same
    apply List.ext_getElem
    · rw [load_length, length]
    · intro index first second
      rw [load_length] at first
      have bound : field.offset + index < 704 := by omega
      have here := same ⟨field.offset + index, bound⟩ ⟨Nat.le_add_right _ _, by simp; omega⟩
      simp only [Nat.add_sub_cancel_left] at here
      simp only [Field.load, List.getElem_map, List.getElem_range, bound, dif_pos]
      rw [here, List.getD_eq_getElem?_getD, List.getElem?_eq_getElem second, Option.getD_some]

theorem load_store {field : Field} (inside : field.offset + field.size ≤ 704) {value : List UInt8}
    (length : value.length = field.size) (param : SysParam) :
    field.load (field.store value param) = value := by
  rw [load_eq_iff inside length]
  intro index covered
  rw [Field.store, if_pos covered]

theorem readString_list {rest value : List UInt8} (noZero : 0 ∉ value) :
    (if 0 ∈ rest then some (cString rest) else none) = some value ↔ value ++ [0] <+: rest := by
  induction rest generalizing value with
  | nil => simp
  | cons byte rest ih =>
      by_cases zero : byte = 0
      · subst zero
        cases value with
        | nil => simp [cString]
        | cons first value =>
            have nonzero : first ≠ 0 := fun same => noZero (same ▸ List.mem_cons_self ..)
            simp [cString, nonzero]
      · have front : cString (byte :: rest) = byte :: cString rest := by simp [cString, zero]
        have later : 0 ∈ byte :: rest ↔ 0 ∈ rest := by simp [Ne.symm zero]
        simp only [front, later]
        cases value with
        | nil =>
            refine iff_of_false ?_ ?_
            · split
              · simp
              · simp
            · simp [Ne.symm zero]
        | cons first value =>
            rw [List.cons_append, List.cons_prefix_cons,
              ← ih fun member => noZero (List.mem_cons_of_mem first member)]
            by_cases ends : 0 ∈ rest
            · simp [ends, eq_comm]
            · simp [ends]

/-- Where the bytes of the string and its zero are, in the structure. -/
theorem readString_eq_iff {field : Field} (begins : field.offset ≤ 704) {value : List UInt8}
    (noZero : 0 ∉ value) (param : SysParam) :
    field.readString param = some value ↔ ∀ index, index ≤ value.length →
      ∃ inside : field.offset + index < 704,
        param ⟨field.offset + index, inside⟩ = (value ++ [0]).getD index 0 := by
  have length : (value ++ [0]).length = value.length + 1 := by simp
  have byte (index : Nat) (inside : field.offset + index < 704) :
      ((Field.mk field.offset (704 - field.offset)).load param)[index]? =
        some (param ⟨field.offset + index, inside⟩) := by
    have bound : index < 704 - field.offset := by omega
    simp [Field.load, bound, inside]
  have expected (index : Nat) (bound : index < (value ++ [0]).length) :
      (value ++ [0]).getD index 0 = (value ++ [0])[index] := by
    rw [List.getD_eq_getElem?_getD, List.getElem?_eq_getElem bound, Option.getD_some]
  rw [Field.readString, readString_list noZero, List.prefix_iff_getElem?]
  constructor
  · intro same index bound
    have within : index < (value ++ [0]).length := by omega
    have here := same index within
    have inside : field.offset + index < 704 := by
      obtain ⟨bound, -⟩ := List.getElem?_eq_some_iff.mp here
      rw [load_length] at bound
      simp only at bound
      omega
    refine ⟨inside, ?_⟩
    rw [byte index inside] at here
    rw [expected index within]
    exact Option.some.inj here
  · intro same index within
    obtain ⟨inside, here⟩ := same index (by omega)
    rw [byte index inside, here, expected index within]

structure FieldNamed (param : ParamId) (value : List UInt8) (sram mirror : SysParam) : Prop where
  ram : (getArm param).get ((setArm param).set value sram) = some value
  flash : (getArm param).get
    (copyFields (flashArm param) ((setArm param).set value sram) mirror) = some value
  sramFrame : ∀ index : Fin 704, ¬param.field.Covers index →
    (setArm param).set value sram index = sram index
  mirrorFrame : ∀ index : Fin 704, ¬param.field.Covers index →
    copyFields (flashArm param) ((setArm param).set value sram) mirror index = mirror index

def ParamId.Plain (param : ParamId) : Prop :=
  param ≠ .dnsname ∧ param ≠ .devname ∧ param ≠ .autoTriggerPeriod

theorem plain_arms {param : ParamId} (plain : param.Plain) :
    setArm param = .copy param.field ∧ getArm param = .copy param.field ∧
      flashArm param = [param.field] ∧ param.field.offset + param.field.size ≤ 704 := by
  obtain ⟨dns, dev, period⟩ := plain
  cases param with
  | dnsname => exact absurd rfl dns
  | devname => exact absurd rfl dev
  | autoTriggerPeriod => exact absurd rfl period
  | _ => exact ⟨rfl, rfl, rfl, by decide⟩

section

variable {param : ParamId} {value : List UInt8} {sram mirror : SysParam}

theorem copied_ram (field : Field) (index : Fin 704) (outside : ¬field.Covers index) :
    field.store value sram index = sram index := by
  rw [Field.store, if_neg outside]

/-- The field is read back from the mirror if it is among the fields that are copied. -/
theorem copied_flash {field : Field} (inside : field.offset + field.size ≤ 704)
    (length : value.length = field.size) {fields : List Field} (member : field ∈ fields) :
    field.load (copyFields fields (field.store value sram) mirror) = value := by
  rw [load_eq_iff inside length]
  intro index covered
  rw [copyFields_apply, if_pos ⟨field, member, covered⟩, Field.store, if_pos covered]

theorem fieldNamed_plain (plain : param.Plain) (isValue : param.Value value) :
    FieldNamed param value sram mirror := by
  obtain ⟨set, get, flash, inside⟩ := plain_arms plain
  have length : value.length = param.field.size := by
    rw [ParamId.Value, set] at isValue
    exact isValue
  refine ⟨?_, ?_, ?_, ?_⟩
  · rw [set, get]
    exact congrArg some (load_store inside length sram)
  · rw [set, get, flash]
    exact congrArg some (copied_flash inside length (List.mem_singleton_self _))
  · intro index outside
    rw [set]
    exact copied_ram param.field index outside
  · intro index outside
    rw [set, flash, copyFields_apply, if_neg]
    rintro ⟨field, member, covered⟩
    rw [List.mem_singleton.mp member] at covered
    exact outside covered

theorem fieldNamed_autoTriggerPeriod (isValue : ParamId.autoTriggerPeriod.Value value) :
    FieldNamed .autoTriggerPeriod value sram mirror ↔
      ∀ index : Fin 704, Field.debugMode.Covers index → sram index = mirror index := by
  have length : value.length = Field.transparentTriggerPeriod.size := isValue
  have inside : Field.transparentTriggerPeriod.offset + Field.transparentTriggerPeriod.size ≤
      704 := by decide
  have apart {index : Fin 704} (covered : Field.debugMode.Covers index) :
      ¬Field.transparentTriggerPeriod.Covers index := by
    rintro ⟨-, upper⟩
    obtain ⟨lower, -⟩ := covered
    simp only [Field.debugMode, Field.transparentTriggerPeriod] at lower upper
    omega
  constructor
  · intro named index covered
    have kept := named.mirrorFrame index (apart covered)
    rw [copyFields_apply, if_pos ⟨.debugMode, by simp [flashArm], covered⟩] at kept
    exact (copied_ram _ index (apart covered)).symm.trans kept
  · intro same
    refine ⟨congrArg some (load_store inside length sram),
      congrArg some (copied_flash inside length (by simp [flashArm])),
      copied_ram Field.transparentTriggerPeriod, ?_⟩
    intro index outside
    rw [copyFields_apply]
    split
    next copied =>
      obtain ⟨field, member, covered⟩ := copied
      simp only [flashArm, List.mem_cons, List.not_mem_nil, or_false] at member
      rcases member with rfl | rfl
      · exact absurd covered outside
      · exact (copied_ram _ index outside).trans (same index covered)
    next => rfl

theorem cString_noZero (noZero : 0 ∉ value) : cString value = value := by
  induction value with
  | nil => rfl
  | cons byte value ih =>
      have nonzero : byte ≠ 0 := fun same => noZero (same ▸ List.mem_cons_self ..)
      have rest := ih fun member => noZero (List.mem_cons_of_mem byte member)
      rw [cString] at rest ⊢
      rw [List.takeWhile_cons_of_pos (by simpa using nonzero), rest]

theorem strcpy_inside (noZero : 0 ∉ value) (field : Field) {index : Nat}
    (bound : index ≤ value.length) (inside : field.offset + index < 704) :
    field.strcpy value sram ⟨field.offset + index, inside⟩ = (value ++ [0]).getD index 0 := by
  have covered : (Field.mk field.offset (value.length + 1)).Covers (field.offset + index) :=
    ⟨Nat.le_add_right _ _, by simp only; omega⟩
  rw [Field.strcpy, cString_noZero noZero, Field.store, if_pos covered]
  simp only [Nat.add_sub_cancel_left]

theorem strcpy_outside (noZero : 0 ∉ value) {field : Field} {index : Fin 704}
    (outside : index.val < field.offset ∨ field.offset + value.length < index.val) :
    field.strcpy value sram index = sram index := by
  have uncovered : ¬(Field.mk field.offset (value.length + 1)).Covers index := by
    rintro ⟨lower, upper⟩
    simp only at lower upper
    omega
  rw [Field.strcpy, cString_noZero noZero, Field.store, if_neg uncovered]

theorem name_ram (noZero : 0 ∉ value) {field : Field} (begins : field.offset ≤ 704) :
    field.readString (field.strcpy value sram) = some value ↔
      field.offset + value.length < 704 := by
  rw [readString_eq_iff begins noZero]
  constructor
  · intro whole
    exact (whole value.length (Nat.le_refl _)).1
  · intro ends index bound
    have inside : field.offset + index < 704 := by omega
    exact ⟨inside, strcpy_inside noZero field bound inside⟩

theorem name_flash (noZero : 0 ∉ value) {field : Field} (size : field.size = 32)
    (within : field.offset + 32 ≤ 704) :
    field.readString (copyFields [field] (field.strcpy value sram) mirror) = some value ↔
      NameFits field value mirror := by
  rw [readString_eq_iff (by omega) noZero]
  have copied (index : Nat) (inside : field.offset + index < 704) :
      copyFields [field] (field.strcpy value sram) mirror ⟨field.offset + index, inside⟩ =
        if index < 32 then field.strcpy value sram ⟨field.offset + index, inside⟩
        else mirror ⟨field.offset + index, inside⟩ := by
    have covers : (∃ other ∈ [field], other.Covers (field.offset + index)) ↔ index < 32 := by
      simp only [List.mem_singleton, exists_eq_left, Field.Covers, size]
      omega
    rw [copyFields_apply]
    simp only [covers]
  constructor
  · intro whole index lower upper
    obtain ⟨inside, here⟩ := whole index upper
    rw [copied index inside, if_neg (by omega)] at here
    exact ⟨inside, here⟩
  · intro fits index bound
    by_cases own : index < 32
    · have inside : field.offset + index < 704 := by omega
      refine ⟨inside, ?_⟩
      rw [copied index inside, if_pos own]
      exact strcpy_inside noZero field bound inside
    · obtain ⟨inside, here⟩ := fits index (by omega) bound
      refine ⟨inside, ?_⟩
      rw [copied index inside, if_neg own, here]

theorem name_sramFrame (noZero : 0 ∉ value) {field : Field} (size : field.size = 32)
    (ends : field.offset + value.length < 704) :
    (∀ index : Fin 704, ¬field.Covers index → field.strcpy value sram index = sram index) ↔
      NameFits field value sram := by
  constructor
  · intro frame index lower upper
    have inside : field.offset + index < 704 := by omega
    have outside : ¬field.Covers (field.offset + index) := by
      rintro ⟨-, above⟩
      omega
    refine ⟨inside, ?_⟩
    rw [← frame _ outside]
    exact strcpy_inside noZero field upper inside
  · intro fits index outside
    by_cases behind : field.offset + 32 ≤ index.val ∧ index.val ≤ field.offset + value.length
    · obtain ⟨offset, place⟩ : ∃ offset, index.val = field.offset + offset :=
        ⟨index.val - field.offset, by omega⟩
      obtain ⟨inside, here⟩ := fits offset (by omega) (by omega)
      obtain rfl : index = ⟨field.offset + offset, inside⟩ := Fin.ext place
      rw [here]
      exact strcpy_inside noZero field (by omega) inside
    · apply strcpy_outside noZero
      rw [Field.Covers, size] at outside
      omega

theorem fieldNamed_name {field : Field} (set : setArm param = .strcpy field)
    (get : getArm param = .strcpy field) (flash : flashArm param = [field])
    (size : field.size = 32) (within : field.offset + 32 ≤ 704) (isValue : param.Value value) :
    FieldNamed param value sram mirror ↔
      NameFits field value sram ∧ NameFits field value mirror := by
  have noZero : 0 ∉ value := by
    rw [ParamId.Value, set] at isValue
    exact isValue
  have named : param.field = field := by rw [ParamId.field, set]
  constructor
  · rintro ⟨ram, mirrored, frame, -⟩
    rw [set, get] at ram
    rw [set, get, flash] at mirrored
    rw [set, named] at frame
    have ends := (name_ram noZero (by omega)).mp ram
    exact ⟨(name_sramFrame noZero size ends).mp frame, (name_flash noZero size within).mp mirrored⟩
  · rintro ⟨fits, fitsMirror⟩
    have ends : field.offset + value.length < 704 := by
      by_cases long : 32 ≤ value.length
      · exact (fits value.length long (Nat.le_refl _)).1
      · omega
    refine ⟨?_, ?_, ?_, ?_⟩
    · rw [set, get]
      exact (name_ram noZero (by omega)).mpr ends
    · rw [set, get, flash]
      exact (name_flash noZero size within).mpr fitsMirror
    · rw [set, named]
      exact (name_sramFrame noZero size ends).mpr fits
    · intro index outside
      rw [named] at outside
      rw [flash, copyFields_apply, if_neg]
      rintro ⟨other, member, covered⟩
      exact outside (List.mem_singleton.mp member ▸ covered)

theorem fieldNamed_iff (isValue : param.Value value) :
    FieldNamed param value sram mirror ↔ FitsField param value sram mirror := by
  by_cases dns : param = .dnsname
  · subst dns
    exact fieldNamed_name rfl rfl rfl rfl (by decide) isValue
  by_cases dev : param = .devname
  · subst dev
    exact fieldNamed_name rfl rfl rfl rfl (by decide) isValue
  by_cases period : param = .autoTriggerPeriod
  · subst period
    exact fieldNamed_autoTriggerPeriod isValue
  refine iff_of_true (fieldNamed_plain ⟨dns, dev, period⟩ isValue) ?_
  cases param with
  | dnsname => exact absurd rfl dns
  | devname => exact absurd rfl dev
  | autoTriggerPeriod => exact absurd rfl period
  | _ => trivial

theorem tlsParamGet_valid {id : Int} (valid : ParamId.ofCode id = some param) (fromFlash : Bool)
    (state : ParamState) :
    tlsParamGet id fromFlash state = (.ok, (getArm param).get
      (if fromFlash then state.flashParam.parameters else state.sramParam)) := by
  rw [tlsParamGet, if_neg (ofCode_range valid), valid]

/-- What the call makes of the state, as the two parameter sets. -/
theorem namesOneField_iff_fieldNamed {id : Int} (valid : ParamId.ofCode id = some param)
    {state : ParamState} (updp : state.updpMode = false) (write : FlashWrite) :
    ((tlsParamSet write id value true state).1 = some .ok →
        NamesOneField id param value state (tlsParamSet write id value true state).2) ↔
      (write = .done → FieldNamed param value state.sramParam state.flashParam.parameters) := by
  rw [tlsParamSet_valid valid write value true updp, if_pos rfl, paramToFlash_valid valid]
  cases write with
  | failed left => exact iff_of_true (fun ok => absurd ok (by simp [ParamState.write])) (by simp)
  | cut left => exact iff_of_true (fun ok => absurd ok (by simp [ParamState.write])) (by simp)
  | done =>
      constructor
      · intro named _
        obtain ⟨ram, flash, sramFrame, mirrorFrame, -⟩ := named rfl
        rw [tlsParamGet_valid valid] at ram flash
        exact ⟨(Prod.mk.inj ram).2, (Prod.mk.inj flash).2, sramFrame, mirrorFrame⟩
      · intro named _
        obtain ⟨ram, flash, sramFrame, mirrorFrame⟩ := named rfl
        refine ⟨?_, ?_, sramFrame, mirrorFrame, ?_⟩
        · rw [tlsParamGet_valid valid]
          exact congrArg (Prod.mk ParamStatus.ok) ram
        · rw [tlsParamGet_valid valid]
          exact congrArg (Prod.mk ParamStatus.ok) flash
        · intro index outside
          simp only [ParamState.write, Function.update_self]
          exact mirrorFrame index outside

end

/-- For every id, value and state: a call that succeeds sets the field of the id and no other,
unless a name is too long for its field or the missing `break` carries another
`debug_mode` into the mirror. -/
theorem namesOneField_iff (id : Int) (param : ParamId) (valid : ParamId.ofCode id = some param)
    (value : List UInt8) (isValue : param.Value value) (state : ParamState)
    (updp : state.updpMode = false) (write : FlashWrite) :
    ((tlsParamSet write id value true state).1 = some .ok →
        NamesOneField id param value state (tlsParamSet write id value true state).2) ↔
      (write = .done → FitsField param value state.sramParam state.flashParam.parameters) := by
  rw [namesOneField_iff_fieldNamed valid updp write, fieldNamed_iff isValue]

def debugState : ParamState :=
  ⟨.zero, Field.debugMode.store [1, 0, 0, 0] fun _ => 0, fun _ => 0, false, fun _ => .zero⟩

theorem namesOneField_iff_debugMode :
    ((tlsParamSet .done 17 [2, 0, 0, 0] true debugState).1 = some .ok →
        NamesOneField 17 .debugMode [2, 0, 0, 0] debugState
          (tlsParamSet .done 17 [2, 0, 0, 0] true debugState).2) ↔
      (FlashWrite.done = .done → FitsField .debugMode [2, 0, 0, 0] debugState.sramParam
        debugState.flashParam.parameters) :=
  namesOneField_iff 17 .debugMode rfl [2, 0, 0, 0] rfl debugState rfl .done

/-- Setting the trigger period saves a debug mode that was never to be saved. -/
theorem triggerPeriod_saves_debugMode :
    ¬((tlsParamSet .done 28 [5, 0] true debugState).1 = some .ok →
      NamesOneField 28 .autoTriggerPeriod [5, 0] debugState
        (tlsParamSet .done 28 [5, 0] true debugState).2) := by
  have isValue : ParamId.autoTriggerPeriod.Value [5, 0] := rfl
  rw [namesOneField_iff_fieldNamed rfl rfl, fieldNamed_autoTriggerPeriod isValue]
  intro same
  have first := same rfl 360 (by decide)
  exact absurd first (by decide)

end SmartMeter
