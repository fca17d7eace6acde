import SmartMeter.Atcmd.ArgumentCore
import SmartMeter.Params.ParamFields

/-!
`wm_cmdp.c`: the settings that an AT command sets with `tls_cmd_set_X` and reads with
`tls_cmd_get_X`. All six getters read the mirror of the flash, which a setter changes only if it
is told to update the flash.
-/

namespace SmartMeter

structure CmdSsid where
  ssidLen : UInt8
  ssid : List UInt8
  ssid_length : ssid.length = 32

structure CmdKey where
  format : UInt8
  index : UInt8
  keyLen : UInt8
  key : List UInt8
  key_length : key.length = 64

def ieee80211ModeInfra : UInt8 := 1
def ieee80211ModeIbss : UInt8 := 2
def ieee80211ModeAp : UInt8 := 4

def wmodeOf (mode : UInt8) : Option UInt8 :=
  if mode = 0 then some ieee80211ModeInfra
  else if mode = 1 then some ieee80211ModeIbss
  else if mode = 2 then some ieee80211ModeAp
  else if mode = 3 then some (ieee80211ModeInfra ||| ieee80211ModeAp)
  else none

/-- A setter looks at nothing that `tls_param_set` returns. -/
def paramSet (write : FlashWrite) (id : Int) (argv : List UInt8) (updateFlash : UInt8)
    (state : ParamState) : ParamState :=
  (tlsParamSet write id argv (updateFlash ≠ 0) state).2

/-- What a getter finds in the variable it passes on. -/
def paramGet (id : Int) (fromFlash : Bool) (state : ParamState) : List UInt8 :=
  (tlsParamGet id fromFlash state).2.getD []

def tlsCmdSetWirelessMode (write : FlashWrite) (mode updateFlash : UInt8) (state : ParamState) :
    Int × ParamState :=
  match wmodeOf mode with
  | some wmode => (0, paramSet write 10 [wmode] updateFlash state)
  | none => (-1, state)

def tlsCmdGetWirelessMode (mode : UInt8) (state : ParamState) : Int × UInt8 :=
  let wmode := (paramGet 10 true state).getD 0 0
  if wmode = ieee80211ModeInfra then (0, 0)
  else if wmode = ieee80211ModeIbss then (0, 1)
  else if wmode = ieee80211ModeAp then (0, 2)
  else if wmode = ieee80211ModeInfra ||| ieee80211ModeAp then (0, 3)
  else (cmdErrNotAllow, mode)

/-- `params_ssid`; `stack` is what is in it where nothing is copied. -/
def paramsSsid (stack : Nat → UInt8) (ssid : CmdSsid) : List UInt8 :=
  ((List.range 32).map fun index =>
    if index < ssid.ssidLen.toNat then ssid.ssid.getD index 0 else stack index) ++
    [ssid.ssidLen, 0, 0, 0]

def tlsCmdSetSsid (write : FlashWrite) (stack : Nat → UInt8) (ssid : CmdSsid) (updateFlash : UInt8)
    (state : ParamState) : Int × ParamState :=
  if ssid.ssidLen > 32 then (-1, state)
  else (0, paramSet write 0 (paramsSsid stack ssid) updateFlash state)

/-- The length, and how much of `ssid->ssid` is written. -/
def tlsCmdGetSsid (state : ParamState) : Int × UInt8 × List UInt8 :=
  let paramsSsid := paramGet 0 true state
  let ssidLen := wordAt (fun index => paramsSsid.getD index 0) 32 4
  if ssidLen > 32 then (0, 0, []) else (0, UInt8.ofNat ssidLen, paramsSsid.take ssidLen)

/-- `res` is the last byte of `param_key`, which nothing writes. The SHA1 key is stored whatever
`update_flash` is. -/
def tlsCmdSetKey (writes : Nat → FlashWrite) (res : UInt8) (key : CmdKey) (updateFlash : UInt8)
    (state : ParamState) : Int × ParamState :=
  let state := paramSet (writes 0) 2 (key.key ++ [key.keyLen, key.index, key.format, res])
    updateFlash state
  let state := paramSet (writes 1) 38 (key.key ++ [key.keyLen, 0, 0, 0]) updateFlash state
  let state := paramSet (writes 2) 37 (List.replicate 33 0) 1 state
  (0, state)

/-- `memory` tells whether the heap has room for a `struct tls_cmd_key_t`. -/
def tlsCmdGetKey (memory : Bool) (state : ParamState) : Int × Option (UInt8 × UInt8 × UInt8 × List UInt8) :=
  if memory then
    let paramKey := paramGet 2 true state
    (0, some (paramKey.getD 66 0, paramKey.getD 65 0, paramKey.getD 64 0, paramKey.take 64))
  else (-1, none)

def tlsCmdSetChannellist (write : FlashWrite) (channellist : UInt16) (updateFlash : UInt8)
    (state : ParamState) : Int × ParamState :=
  (0, paramSet write 34 [byteOf channellist.toNat 0, byteOf channellist.toNat 1] updateFlash state)

def tlsCmdGetChannellist (state : ParamState) : Int × UInt16 :=
  (0, UInt16.ofNat (wordAt (fun index => (paramGet 34 true state).getD index 0) 0 2))

def tlsCmdSetWlPsMode (write : FlashWrite) (enable updateFlash : UInt8) (state : ParamState) :
    Int × ParamState :=
  (0, paramSet write 22 [enable] updateFlash state)

def tlsCmdGetWlPsMode (state : ParamState) : Int × UInt8 :=
  (0, (paramGet 22 true state).getD 0 0)

def tlsCmdSetWarc (write : FlashWrite) (autoretrycnt updateFlash : UInt8) (state : ParamState) :
    Int × ParamState :=
  (0, paramSet write 13 [autoretrycnt] updateFlash state)

def tlsCmdGetWarc (state : ParamState) : Int × UInt8 :=
  (0, (paramGet 13 true state).getD 0 0)

inductive CmdSetting
  | wirelessMode (mode : UInt8)
  | ssid (ssid : CmdSsid)
  | key (key : CmdKey)
  | channellist (channellist : UInt16)
  | wlPsMode (enable : UInt8)
  | warc (autoretrycnt : UInt8)

/-- How the calls around a setter and a getter end, and what uninitialised memory holds. -/
structure CmdHost where
  writes : Nat → FlashWrite
  stack : Nat → UInt8
  memory : Bool

namespace CmdSetting

def Valid : CmdSetting → Prop
  | .wirelessMode mode => mode < 4
  | .ssid value => value.ssidLen ≤ 32
  | _ => True

def set (host : CmdHost) (updateFlash : UInt8) (state : ParamState) : CmdSetting → Int × ParamState
  | .wirelessMode mode => tlsCmdSetWirelessMode (host.writes 0) mode updateFlash state
  | .ssid value => tlsCmdSetSsid (host.writes 0) host.stack value updateFlash state
  | .key value => tlsCmdSetKey host.writes (host.stack 67) value updateFlash state
  | .channellist list => tlsCmdSetChannellist (host.writes 0) list updateFlash state
  | .wlPsMode enable => tlsCmdSetWlPsMode (host.writes 0) enable updateFlash state
  | .warc autoretrycnt => tlsCmdSetWarc (host.writes 0) autoretrycnt updateFlash state

def Gets (host : CmdHost) (state : ParamState) : CmdSetting → Prop
  | .wirelessMode mode => ∀ before, tlsCmdGetWirelessMode before state = (0, mode)
  | .ssid value => tlsCmdGetSsid state = (0, value.ssidLen, value.ssid.take value.ssidLen.toNat)
  | .key value => tlsCmdGetKey host.memory state =
      (0, some (value.format, value.index, value.keyLen, value.key))
  | .channellist list => tlsCmdGetChannellist state = (0, list)
  | .wlPsMode enable => tlsCmdGetWlPsMode state = (0, enable)
  | .warc autoretrycnt => tlsCmdGetWarc state = (0, autoretrycnt)

def In (parameters : SysParam) : CmdSetting → Prop
  | .wirelessMode mode => ∃ wmode, wmodeOf mode = some wmode ∧
      Field.wirelessProtocol.load parameters = [wmode]
  | .ssid value =>
      let length := wordAt (fun index => (Field.ssid.load parameters).getD index 0) 32 4
      -- A length of more than 32 is read as 0.
      (length = value.ssidLen.toNat ∨ value.ssidLen = 0 ∧ 32 < length) ∧
        (Field.ssid.load parameters).take value.ssidLen.toNat = value.ssid.take value.ssidLen.toNat
  | .key value => (Field.key.load parameters).take 67 =
      value.key ++ [value.keyLen, value.index, value.format]
  | .channellist list => Field.channellist.load parameters =
      [byteOf list.toNat 0, byteOf list.toNat 1]
  | .wlPsMode enable => Field.autoPowersave.load parameters = [enable]
  | .warc autoretrycnt => Field.autoRetrycnt.load parameters = [autoretrycnt]

def Readable (host : CmdHost) : CmdSetting → Prop
  | .key _ => host.memory = true
  | _ => True

end CmdSetting

section

variable {id : Int} {param : ParamId} {argv : List UInt8} {updateFlash : UInt8} {state : ParamState}

theorem paramGet_flash (valid : ParamId.ofCode id = some param) (plain : param.Plain) :
    paramGet id true state = param.field.load state.flashParam.parameters := by
  rw [paramGet, tlsParamGet_valid valid, (plain_arms plain).2.1]
  rfl

/-- What the mirror holds after a call. -/
theorem paramSet_mirror (valid : ParamId.ofCode id = some param) (write : FlashWrite)
    (argv : List UInt8) (updateFlash : UInt8) (state : ParamState) :
    (paramSet write id argv updateFlash state).updpMode = state.updpMode ∧
      (paramSet write id argv updateFlash state).flashParam.parameters =
        if updateFlash ≠ 0 ∧ state.updpMode = false then
          copyFields (flashArm param) ((setArm param).set argv state.sramParam)
            state.flashParam.parameters
        else state.flashParam.parameters := by
  rw [paramSet]
  cases updp : state.updpMode with
  | true =>
      rw [if_neg (by simp), tlsParamSet, if_neg (ofCode_range valid), valid]
      dsimp only
      rw [if_pos updp]
      exact ⟨updp, rfl⟩
  | false =>
      rw [tlsParamSet_valid valid write argv _ updp]
      by_cases flash : updateFlash ≠ 0
      · rw [if_pos (by simpa using flash), if_pos ⟨flash, rfl⟩, paramToFlash_valid valid]
        obtain ⟨mirror, -, mode⟩ := @write_ram write _
        rw [mirror, mode]
        exact ⟨updp, rfl⟩
      · rw [if_neg (by simpa using flash), if_neg fun both => flash both.1]
        exact ⟨updp, rfl⟩

theorem paramSet_field (valid : ParamId.ofCode id = some param) (plain : param.Plain)
    (length : argv.length = param.field.size) (write : FlashWrite) :
    param.field.load (paramSet write id argv updateFlash state).flashParam.parameters =
      if updateFlash ≠ 0 ∧ state.updpMode = false then argv
      else param.field.load state.flashParam.parameters := by
  obtain ⟨set, -, flash, inside⟩ := plain_arms plain
  rw [(paramSet_mirror valid write argv updateFlash state).2, set, flash]
  split
  · exact copied_flash inside length (List.mem_singleton_self _)
  · rfl

theorem paramSet_other (valid : ParamId.ofCode id = some param) (plain : param.Plain) {field : Field}
    (apart : ∀ index, field.Covers index → ¬param.field.Covers index) (write : FlashWrite) :
    field.load (paramSet write id argv updateFlash state).flashParam.parameters =
      field.load state.flashParam.parameters := by
  obtain ⟨set, -, flash, inside⟩ := plain_arms plain
  rw [(paramSet_mirror valid write argv updateFlash state).2, set, flash]
  split
  · refine List.map_congr_left fun index member => ?_
    have bound : index < field.size := List.mem_range.mp member
    split
    · rw [copyFields_apply, if_neg]
      rintro ⟨other, isParam, covered⟩
      rw [List.mem_singleton.mp isParam] at covered
      exact apart _ ⟨Nat.le_add_right _ _, by omega⟩ covered
    · rfl
  · rfl

end

section

variable {host : CmdHost} {state : ParamState}

theorem load_one {field : Field} (one : field.size = 1) (parameters : SysParam) :
    ∃ byte, field.load parameters = [byte] := by
  have length := load_length field parameters
  rw [one] at length
  exact List.length_eq_one_iff.mp length

theorem wirelessMode_gets (mode : UInt8) : (CmdSetting.wirelessMode mode).Gets host state ↔
    (CmdSetting.wirelessMode mode).In state.flashParam.parameters := by
  obtain ⟨byte, here⟩ := load_one (by rfl : Field.wirelessProtocol.size = 1)
    state.flashParam.parameters
  have found : paramGet 10 true state = [byte] := by
    rw [paramGet_flash rfl ⟨by decide, by decide, by decide⟩]
    exact here
  simp only [CmdSetting.Gets, CmdSetting.In, here, tlsCmdGetWirelessMode, found, List.getD_cons_zero,
    List.cons.injEq, and_true, exists_eq_right']
  constructor
  · intro gets
    have got := gets (mode + 1)
    split at got
    · rename_i isInfra
      rw [isInfra, ← (Prod.mk.inj got).2]
      rfl
    · split at got
      · rename_i isIbss
        rw [isIbss, ← (Prod.mk.inj got).2]
        rfl
      · split at got
        · rename_i isAp
          rw [isAp, ← (Prod.mk.inj got).2]
          rfl
        · split at got
          · rename_i isBoth
            rw [isBoth, ← (Prod.mk.inj got).2]
            rfl
          · cases (Prod.mk.inj got).1
  · intro isMode before
    unfold wmodeOf at isMode
    split at isMode
    · cases isMode
      subst mode
      rfl
    · split at isMode
      · cases isMode
        subst mode
        rfl
      · split at isMode
        · cases isMode
          subst mode
          rfl
        · split at isMode
          · cases isMode
            subst mode
            rfl
          · cases isMode

theorem ssid_gets {value : CmdSsid} (valid : value.ssidLen ≤ 32) :
    (CmdSetting.ssid value).Gets host state ↔
      (CmdSetting.ssid value).In state.flashParam.parameters := by
  have found := @paramGet_flash 0 .ssid state rfl ⟨by decide, by decide, by decide⟩
  have bound : value.ssidLen.toNat ≤ 32 := UInt8.le_iff_toNat_le.mp valid
  have same : ParamId.field .ssid = Field.ssid := rfl
  have length := load_length Field.ssid state.flashParam.parameters
  rw [same] at found
  simp only [CmdSetting.Gets, CmdSetting.In, tlsCmdGetSsid, found]
  generalize Field.ssid.load state.flashParam.parameters = bytes at length
  generalize wordAt (fun index => bytes.getD index 0) 32 4 = word
  by_cases long : word > 32
  · rw [if_pos long]
    simp only [Prod.mk.injEq, true_and]
    constructor
    · rintro ⟨empty, -⟩
      rw [← empty]
      exact ⟨.inr ⟨rfl, long⟩, rfl⟩
    · rintro ⟨whole | ⟨empty, -⟩, -⟩
      · omega
      · rw [empty]
        exact ⟨rfl, rfl⟩
  · rw [if_neg long]
    simp only [Prod.mk.injEq, true_and]
    constructor
    · rintro ⟨count, text⟩
      have exactly : word = value.ssidLen.toNat := by
        rw [← count, UInt8.toNat_ofNat']
        omega
      rw [exactly] at text
      exact ⟨.inl exactly, text⟩
    · rintro ⟨exactly | ⟨-, beyond⟩, text⟩
      · rw [exactly]
        exact ⟨UInt8.ofNat_toNat, text⟩
      · omega

theorem key_gets {value : CmdKey} : (CmdSetting.key value).Gets host state ↔
    host.memory = true ∧ (CmdSetting.key value).In state.flashParam.parameters := by
  have found := @paramGet_flash 2 .key state rfl ⟨by decide, by decide, by decide⟩
  have same : ParamId.field .key = Field.key := rfl
  have length : (Field.key.load state.flashParam.parameters).length = 68 :=
    load_length Field.key state.flashParam.parameters
  have keyLength := value.key_length
  rw [same] at found
  simp only [CmdSetting.Gets, CmdSetting.In, tlsCmdGetKey, found]
  generalize Field.key.load state.flashParam.parameters = bytes at length
  cases host.memory with
  | false => simp
  | true =>
      have front : bytes.take 67 = bytes.take 64 ++ [bytes.getD 64 0, bytes.getD 65 0,
          bytes.getD 66 0] := by
        rw [show 67 = 64 + 1 + 1 + 1 from rfl]
        simp only [List.take_add_one, List.getD_eq_getElem?_getD]
        simp [length]
      simp only [if_true, true_and, Prod.mk.injEq, Option.some.injEq]
      rw [front]
      constructor
      · rintro ⟨format, index, keyLen, text⟩
        rw [format, index, keyLen, text]
      · intro all
        have sizes : (bytes.take 64).length = value.key.length := by
          rw [List.length_take, length, keyLength]
          rfl
        obtain ⟨text, rest⟩ := List.append_inj all sizes
        simp only [List.cons.injEq, and_true] at rest
        exact ⟨rest.2.2, rest.2.1, rest.1, text⟩

theorem channellist_gets {list : UInt16} : (CmdSetting.channellist list).Gets host state ↔
    (CmdSetting.channellist list).In state.flashParam.parameters := by
  have found := @paramGet_flash 34 .channelList state rfl ⟨by decide, by decide, by decide⟩
  have same : ParamId.field .channelList = Field.channellist := rfl
  have length : (Field.channellist.load state.flashParam.parameters).length = 2 :=
    load_length Field.channellist state.flashParam.parameters
  rw [same] at found
  simp only [CmdSetting.Gets, CmdSetting.In, tlsCmdGetChannellist, found]
  generalize Field.channellist.load state.flashParam.parameters = bytes at length
  obtain ⟨low, high, rfl⟩ := List.length_eq_two.mp length
  have listBound := list.toNat_lt
  have lowBound := low.toNat_lt
  have highBound := high.toNat_lt
  have word : wordAt (fun index => [low, high].getD index 0) 0 2 = low.toNat + 256 * high.toNat := by
    simp only [wordAt, List.range, List.range.loop, List.foldr]
    simp
    omega
  rw [word]
  simp only [Prod.mk.injEq, true_and, List.cons.injEq, and_true]
  rw [← UInt16.toNat_inj, ← UInt8.toNat_inj, ← UInt8.toNat_inj, byteOf_toNat, byteOf_toNat,
    UInt16.toNat_ofNat']
  omega

theorem byte_gets {field : Field} (one : field.size = 1) {parameters : SysParam} {value : UInt8} :
    ((0 : Int), (field.load parameters).getD 0 0) = (0, value) ↔ field.load parameters = [value] := by
  obtain ⟨byte, here⟩ := load_one one parameters
  rw [here]
  simp

theorem gets_iff {setting : CmdSetting} (valid : setting.Valid) : setting.Gets host state ↔
    setting.Readable host ∧ setting.In state.flashParam.parameters := by
  cases setting with
  | wirelessMode mode => exact (wirelessMode_gets mode).trans (Iff.of_eq (true_and _)).symm
  | ssid value => exact (ssid_gets valid).trans (Iff.of_eq (true_and _)).symm
  | key value => exact key_gets
  | channellist list => exact channellist_gets.trans (Iff.of_eq (true_and _)).symm
  | wlPsMode enable =>
      refine Iff.trans ?_ (Iff.of_eq (true_and _)).symm
      rw [CmdSetting.Gets, tlsCmdGetWlPsMode,
        paramGet_flash rfl ⟨by decide, by decide, by decide⟩]
      exact byte_gets rfl
  | warc autoretrycnt =>
      refine Iff.trans ?_ (Iff.of_eq (true_and _)).symm
      rw [CmdSetting.Gets, tlsCmdGetWarc, paramGet_flash rfl ⟨by decide, by decide, by decide⟩]
      exact byte_gets rfl

/-- What is stored holds the value, what was there before may. -/
theorem stored_or (holds : List UInt8 → Prop) {bytes argv before : List UInt8} {stored : Prop}
    [Decidable stored] (after : bytes = if stored then argv else before) (fits : holds argv) :
    holds bytes ↔ stored ∨ holds before := by
  subst after
  by_cases isStored : stored
  · rw [if_pos isStored]
    exact iff_of_true fits (.inl isStored)
  · rw [if_neg isStored]
    exact ⟨.inr, fun either => either.resolve_left isStored⟩

theorem keyField_kept {id : Int} {param : ParamId} (valid : ParamId.ofCode id = some param)
    (plain : param.Plain) (behind : 132 ≤ param.field.offset) (write : FlashWrite)
    (argv : List UInt8) (updateFlash : UInt8) (state : ParamState) :
    Field.key.load (paramSet write id argv updateFlash state).flashParam.parameters =
      Field.key.load state.flashParam.parameters := by
  refine paramSet_other valid plain ?_ write
  rintro index ⟨-, upper⟩ ⟨lower, -⟩
  simp only [Field.key] at upper
  omega

theorem wmodeOf_valid {mode : UInt8} (valid : mode < 4) : ∃ wmode, wmodeOf mode = some wmode := by
  have bound : mode.toNat < 4 := UInt8.lt_iff_toNat_lt.mp valid
  unfold wmodeOf
  split
  · exact ⟨_, rfl⟩
  · split
    · exact ⟨_, rfl⟩
    · split
      · exact ⟨_, rfl⟩
      · split
        · exact ⟨_, rfl⟩
        · simp only [← UInt8.toNat_inj, UInt8.reduceToNat] at *
          omega

theorem paramsSsid_holds {value : CmdSsid} (valid : value.ssidLen ≤ 32) (stack : Nat → UInt8) :
    (paramsSsid stack value).length = 36 ∧
      wordAt (fun index => (paramsSsid stack value).getD index 0) 32 4 = value.ssidLen.toNat ∧
      (paramsSsid stack value).take value.ssidLen.toNat = value.ssid.take value.ssidLen.toNat := by
  have bound : value.ssidLen.toNat ≤ 32 := UInt8.le_iff_toNat_le.mp valid
  refine ⟨by simp [paramsSsid], ?_, ?_⟩
  · rw [wordAt_four]
    simp [paramsSsid, List.getD_eq_getElem?_getD]
  · rw [paramsSsid, List.take_append_of_le_length (by simpa using bound)]
    apply List.ext_getElem
    · simp [value.ssid_length]
    · intro index first second
      have inside : index < value.ssidLen.toNat := by
        rw [List.length_take] at first
        omega
      have within : index < value.ssid.length := by
        rw [value.ssid_length]
        omega
      simp [inside, List.getD_eq_getElem?_getD, List.getElem?_eq_getElem within]

/-- The setter is done, and the mirror holds the value if it was stored or was there already. -/
theorem set_in {setting : CmdSetting} (valid : setting.Valid) (updateFlash : UInt8) :
    (setting.set host updateFlash state).1 = 0 ∧
      (setting.In (setting.set host updateFlash state).2.flashParam.parameters ↔
        (updateFlash ≠ 0 ∧ state.updpMode = false) ∨ setting.In state.flashParam.parameters) := by
  cases setting with
  | wirelessMode mode =>
      obtain ⟨wmode, isMode⟩ := wmodeOf_valid valid
      have stored := @paramSet_field 10 .wprotocol [wmode] updateFlash state rfl
        ⟨by decide, by decide, by decide⟩ rfl (host.writes 0)
      rw [CmdSetting.set, tlsCmdSetWirelessMode, isMode]
      exact ⟨rfl, stored_or (fun bytes => ∃ wmode, wmodeOf mode = some wmode ∧ bytes = [wmode])
        stored ⟨wmode, isMode, rfl⟩⟩
  | ssid value =>
      have short : ¬value.ssidLen > 32 := by
        rw [gt_iff_lt, UInt8.not_lt]
        exact valid
      obtain ⟨size, length, text⟩ := paramsSsid_holds valid host.stack
      have stored := @paramSet_field 0 .ssid (paramsSsid host.stack value) updateFlash state rfl
        ⟨by decide, by decide, by decide⟩ size (host.writes 0)
      rw [CmdSetting.set, tlsCmdSetSsid, if_neg short]
      exact ⟨rfl, stored_or (fun bytes =>
        let length := wordAt (fun index => bytes.getD index 0) 32 4
        (length = value.ssidLen.toNat ∨ value.ssidLen = 0 ∧ 32 < length) ∧
          bytes.take value.ssidLen.toNat = value.ssid.take value.ssidLen.toNat)
        stored ⟨.inl length, text⟩⟩
  | key value =>
      have keyLength := value.key_length
      have stored := @paramSet_field 2 .key
        (value.key ++ [value.keyLen, value.index, value.format, host.stack 67]) updateFlash state rfl
        ⟨by decide, by decide, by decide⟩ (by simp [ParamId.field, setArm, Field.key, keyLength])
        (host.writes 0)
      rw [CmdSetting.set, tlsCmdSetKey]
      refine ⟨rfl, ?_⟩
      rw [CmdSetting.In, keyField_kept rfl ⟨by decide, by decide, by decide⟩ (by decide),
        keyField_kept rfl ⟨by decide, by decide, by decide⟩ (by decide)]
      refine stored_or (fun bytes => bytes.take 67 =
        value.key ++ [value.keyLen, value.index, value.format]) stored ?_
      simp [List.take_append, keyLength]
  | channellist list =>
      have stored := @paramSet_field 34 .channelList
        [byteOf list.toNat 0, byteOf list.toNat 1] updateFlash state rfl
        ⟨by decide, by decide, by decide⟩ rfl (host.writes 0)
      exact ⟨rfl, stored_or (fun bytes => bytes = [byteOf list.toNat 0, byteOf list.toNat 1])
        stored rfl⟩
  | wlPsMode enable =>
      have stored := @paramSet_field 22 .psm [enable] updateFlash state rfl
        ⟨by decide, by decide, by decide⟩ rfl (host.writes 0)
      exact ⟨rfl, stored_or (fun bytes => bytes = [enable]) stored rfl⟩
  | warc autoretrycnt =>
      have stored := @paramSet_field 13 .autoRetryCnt [autoretrycnt] updateFlash state rfl
        ⟨by decide, by decide, by decide⟩ rfl (host.writes 0)
      exact ⟨rfl, stored_or (fun bytes => bytes = [autoretrycnt]) stored rfl⟩

end

structure SettingReadBack (host : CmdHost) (updateFlash : UInt8) (state : ParamState)
    (setting : CmdSetting) : Prop where
  status : (setting.set host updateFlash state).1 = 0
  gets : setting.Gets host (setting.set host updateFlash state).2

/-- For every valid value, persistence mode and state: the getter returns what was set if the
setter changed the mirror of the flash, or if the mirror held the value before. -/
theorem settingReadBack_iff (setting : CmdSetting) (valid : setting.Valid) (host : CmdHost)
    (updateFlash : UInt8) (state : ParamState) :
    SettingReadBack host updateFlash state setting ↔ setting.Readable host ∧
      ((updateFlash ≠ 0 ∧ state.updpMode = false) ∨ setting.In state.flashParam.parameters) := by
  obtain ⟨status, inside⟩ := @set_in host state setting valid updateFlash
  have gets := @gets_iff host (setting.set host updateFlash state).2 setting valid
  rw [inside] at gets
  exact ⟨fun back => gets.mp back.gets, fun holds => ⟨status, gets.mpr holds⟩⟩

def factoryState : ParamState :=
  let flash := { ParamFlash.zero with magic := tlsParamMagic, parameters := factoryDefault }
  ⟨flash, factoryDefault, fun _ => 0, false, fun _ => flash⟩

def plainHost : CmdHost := ⟨fun _ => .done, fun _ => 0, true⟩

theorem settingReadBack_iff_warc :
    SettingReadBack plainHost 1 factoryState (.warc 5) ↔ (CmdSetting.warc 5).Readable plainHost ∧
      (((1 : UInt8) ≠ 0 ∧ factoryState.updpMode = false) ∨
        (CmdSetting.warc 5).In factoryState.flashParam.parameters) :=
  settingReadBack_iff (.warc 5) trivial plainHost 1 factoryState

/-- A retry count that is only set in RAM is not what the getter returns. -/
theorem ram_setting_not_read_back : ¬SettingReadBack plainHost 0 factoryState (.warc 5) := by
  intro back
  have got : tlsCmdGetWarc ((CmdSetting.warc 5).set plainHost 0 factoryState).2 = (0, 255) := by decide
  exact absurd (got.symm.trans back.gets) (by decide)

end SmartMeter
