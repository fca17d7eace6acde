import SmartMeter.Library.TwinSlots
import SmartMeter.Params.ParamLayout

/-!
`wm_param.c`: the parameter set in RAM, its mirror `flash_param` and the two partitions of
the flash that hold copies of it.
-/

namespace SmartMeter

inductive ParamStatus
  | ok
  | einvalid
  | emem
  | eio
  | eperm
  | einvalidid
deriving DecidableEq

/-- How one write of a partition ends: programmed and read back the same, refused by
`tls_fls_write` or by the verification, or cut short by the loss of power. The last two
leave some bytes in the partition. -/
inductive FlashWrite
  | done
  | failed (left : ParamFlash)
  | cut (left : ParamFlash)

structure ParamState where
  flashParam : ParamFlash
  sramParam : SysParam
  userDefaultParam : SysParam
  updpMode : Bool
  partition : Fin 2 → ParamFlash

abbrev ParamReturn := Option ParamStatus × ParamState

def partitionIndex (partitionNum : UInt16) : Fin 2 :=
  if partitionNum = 0 then 0 else 1

namespace ParamFlash

/-- What `param_to_flash` does to `flash_param` after the switch; a negative count is counted
up, a negative number alternates. -/
def stamp (modifyCount partitionNum : Int) (flash : ParamFlash) : ParamFlash :=
  let flash := { flash with
    magic := tlsParamMagic
    length := UInt16.ofNat sizeofParamFlash
    modifyCount := if modifyCount < 0 then flash.modifyCount + 1
      else UInt16.ofNat modifyCount.toNat
    partitionNum := if partitionNum < 0 then (flash.partitionNum + 1) &&& 1
      else UInt16.ofNat partitionNum.toNat
    resv1 := 0
    resv2 := 0 }
  { flash with crc32 := getCrc32 flash.byte (sizeofParamFlash - 4) }

end ParamFlash

def ParamState.write (write : FlashWrite) (state : ParamState) : ParamReturn :=
  let index := partitionIndex state.flashParam.partitionNum
  match write with
  | .done => (some .ok, { state with
      partition := Function.update state.partition index state.flashParam })
  | .failed left => (some .eio, { state with
      partition := Function.update state.partition index left })
  | .cut left => (none, { state with partition := Function.update state.partition index left })

def paramToFlash (write : FlashWrite) (id modifyCount partitionNum : Int) (state : ParamState) :
    ParamReturn :=
  if id < -1 ∨ 51 ≤ id then (some .einvalid, state)
  else match ParamId.ofCode id with
    | none => (some .einvalidid, state)
    | some param =>
        let parameters :=
          copyFields (flashArm param) state.sramParam state.flashParam.parameters
        let flashParam :=
          { state.flashParam with parameters }.stamp modifyCount partitionNum
        ParamState.write write { state with flashParam }

/-- `tls_param_load_factory_default`, as the bytes that it stores into a cleared set. -/
def factoryStores : List (Field × List UInt8) := [
  (.hardwareVersion, [0x48, 1, 0, 0, 0, 0, 0, 0]),
  (.wirelessRegion, [1]),
  (.channel, [1]),
  (.channellist, [0xFF, 0x3F]),
  (.wbgr, [2, 25, 0, 0]),
  (.ssidBroadcastEnable, [1]),
  (.encry, [0]),
  (.wirelessProtocol, [1]),
  (.autoRetrycnt, [255]),
  (.autoRoam, [0]),
  (.autoPowersave, [0]),
  (.autoReconnect, [0]),
  (.autoMode, [0]),
  (.transparentTriggerLength, [0x00, 0x02]),
  (.uartCfg, [0x00, 0xC2, 0x01, 0x00, 0, 0, 0, 0]),
  (.userPortMode, [0]),
  (.ipcfg, [1, 0, 0, 0, 192, 168, 1, 1, 255, 255, 255, 0, 192, 168, 1, 1, 192, 168, 1, 1,
    192, 168, 1, 1]),
  (.localDnsname, [0x6C, 0x6F, 0x63, 0x61, 0x6C, 0x2E, 0x77, 0x69, 0x6E, 0x6E, 0x65, 0x72, 0x6D,
    0x69, 0x63, 0x72, 0x6F]),
  (.localDeviceName, [0x74, 0x6C, 0x6E, 0x31, 0x33, 0x73, 0x70, 0x30, 0x31]),
  (.remoteSocketCfg, [0, 1, 0x60, 0xEA]),
  (.escapeChar, [0x2B]),
  (.escapePeriod, [200, 0]),
  (.websCfg, [1, 0, 80, 0]),
  (.debugMode, [0, 0, 0, 0]),
  (.passWord, [0x30, 0x30, 0x30, 0x30, 0x30, 0x30]),
  (.channel4softap, [11]),
  (.encry4softap, [0]),
  (.ipcfg4softap, [1, 0, 0, 0, 192, 168, 0, 1, 255, 255, 255, 0, 192, 168, 0, 1, 192, 168, 0, 1,
    0, 0, 0, 0]),
  (.wbgr4softap, [0, 9, 0, 0])]

def factoryDefault : SysParam :=
  factoryStores.foldl (fun param entry => entry.1.store entry.2 param) fun _ => 0

/-- A range of bytes that `tls_param_init` touches, relative to a `struct tls_param_flash`. -/
structure Access where
  offset : Int
  size : Nat
deriving DecidableEq

/-- The bytes in and around the buffer that `tls_param_init` reads a partition into. -/
def bufferByte (around : Int → UInt8) (flash : ParamFlash) (offset : Int) : UInt8 :=
  if 0 ≤ offset ∧ offset < sizeofParamFlash then flash.byte offset.toNat else around offset

/-- `flash->length - 4` is an `int` that is passed on as an unsigned number. -/
def frontSize (length : UInt16) : Nat :=
  (length.toUInt32 - 4).toNat

def crcOffset (length : UInt16) : Int :=
  (length.toNat : Int) - 4

def crcMatches (around : Int → UInt8) (flash : ParamFlash) : Bool :=
  getCrc32 (fun offset => bufferByte around flash offset) (frontSize flash.length) =
    UInt32.ofNat (wordAt (fun index =>
      bufferByte around flash (crcOffset flash.length + index)) 0 4)

structure Loading where
  flashParam : ParamFlash
  sramParam : SysParam
  isDamage : Fin 2 → Bool
  damaged : Nat
  accesses : List Access

def loadPartition (around : Int → UInt8) (flash : ParamFlash) (i : Fin 2) (loading : Loading) :
    Loading :=
  if flash.magic ≠ tlsParamMagic then
    { loading with
      isDamage := Function.update loading.isDamage i true
      damaged := loading.damaged + 1 }
  else
    let summed := loading.accesses ++
      [⟨0, frontSize flash.length⟩, ⟨crcOffset flash.length, 4⟩]
    if crcMatches around flash = false then
      { loading with
        isDamage := Function.update loading.isDamage i true
        damaged := loading.damaged + 1
        accesses := summed }
    else if loading.flashParam.magic = 0 ∨ loading.flashParam.modifyCount < flash.modifyCount then
      if flash.length ≠ UInt16.ofNat sizeofParamFlash then
        let flashParam := ParamFlash.copyFront (frontSize flash.length) flash loading.flashParam
        { loading with
          flashParam
          sramParam := flashParam.parameters
          accesses := summed ++ [⟨0, frontSize flash.length⟩] }
      else
        { loading with
          flashParam := flash
          sramParam := flash.parameters
          accesses := summed ++ [⟨0, sizeofParamFlash⟩] }
    else { loading with accesses := summed }

def loadPartitions (around : Int → UInt8) (partition : Fin 2 → ParamFlash) : Loading :=
  loadPartition around (partition 1) 1 (loadPartition around (partition 0) 0
    ⟨.zero, fun _ => 0, fun _ => false, 0, []⟩)

structure InitMemory where
  semaphore : Bool
  buffer : Bool

/-- The statuses of `param_to_flash` are reported as `TLS_PARAM_STATUS_EIO`. -/
def initStatus : ParamReturn → ParamReturn
  | (some .ok, state) => (some .ok, state)
  | (some _, state) => (some .eio, state)
  | (none, state) => (none, state)

/-- `writes i` is how the write of partition `i` ends, if there is one. -/
def tlsParamInit (around : Int → UInt8) (memory : InitMemory) (writes : Fin 2 → FlashWrite)
    (state : ParamState) : ParamReturn × List Access :=
  if state.flashParam.magic = tlsParamMagic then ((some .eperm, state), [])
  else if memory.semaphore = false then ((some .emem, state), [])
  else
    let cleared := { state with flashParam := .zero, sramParam := fun _ => 0 }
    if memory.buffer = false then ((some .emem, cleared), [])
    else
      let loading := loadPartitions around state.partition
      let loaded :=
        { cleared with flashParam := loading.flashParam, sramParam := loading.sramParam }
      let result :=
        if 2 ≤ loading.damaged then
          let first := paramToFlash (writes 0) (-1) 1 0 { loaded with sramParam := factoryDefault }
          match first.1 with
          | some .ok => initStatus (paramToFlash (writes 1) (-1) 1 1 first.2)
          | _ => initStatus first
        else if loading.isDamage 0 then
          let first := paramToFlash (writes 0) (-1) (-1) 0 loaded
          match first.1 with
          | some .ok =>
              if loading.isDamage 1 then
                initStatus (paramToFlash (writes 1) (-1) (-1) 1 first.2)
              else first
          | _ => initStatus first
        else if loading.isDamage 1 then initStatus (paramToFlash (writes 1) (-1) (-1) 1 loaded)
        else (some .ok, loaded)
      (result, loading.accesses)

def tlsParamSet (write : FlashWrite) (id : Int) (argv : List UInt8) (toFlash : Bool)
    (state : ParamState) : ParamReturn :=
  if id < -1 ∨ 51 ≤ id then (some .einvalid, state)
  else match ParamId.ofCode id with
    | none => (some .einvalidid, state)
    | some param =>
        if state.updpMode then
          (some .ok, { state with
            userDefaultParam := (setArm param).set argv state.userDefaultParam })
        else
          let state := { state with sramParam := (setArm param).set argv state.sramParam }
          if toFlash then paramToFlash write id (-1) (-1) state else (some .ok, state)

def tlsParamGet (id : Int) (fromFlash : Bool) (state : ParamState) :
    ParamStatus × Option (List UInt8) :=
  if id < -1 ∨ 51 ≤ id then (.einvalid, none)
  else match ParamId.ofCode id with
    | none => (.einvalidid, none)
    | some param =>
        let src := if fromFlash then state.flashParam.parameters else state.sramParam
        (.ok, (getArm param).get src)

def tlsParamToFlash (write : FlashWrite) (id : Int) (state : ParamState) : ParamReturn :=
  if id = -1 ∧ state.sramParam = state.flashParam.parameters then (some .ok, state)
  else paramToFlash write id (-1) (-1) state

def tlsParamToDefault (writes : Fin 2 → FlashWrite) (state : ParamState) : ParamReturn :=
  let first := paramToFlash (writes 0) (-1) 1 0 { state with sramParam := factoryDefault }
  match first.1 with
  | some .ok =>
      let second := paramToFlash (writes 1) (-1) 1 1 first.2
      (second.1, { second.2 with flashParam := { second.2.flashParam with magic := 0 } })
  | _ => first

def ParamState.powerOn (state : ParamState) : ParamState :=
  { state with
    flashParam := .zero
    sramParam := fun _ => 0
    userDefaultParam := fun _ => 0
    updpMode := false }

end SmartMeter
