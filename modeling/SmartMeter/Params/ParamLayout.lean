import Mathlib.Algebra.Group.Nat.Defs
import Mathlib.Data.Fintype.Basic

/-!
The layout of `struct tls_sys_param` and `struct tls_param_flash`, byte for byte, the
checksum over them and the fields that the switches of `wm_param.c` name.
-/

namespace SmartMeter

/-- `crc_out[i]` as the bits of the data byte and of the running value that are added up. -/
def crcTaps : List (List Nat × List Nat) := [
  ([1, 7], [30, 24]),
  ([0, 1, 6, 7], [31, 30, 25, 24]),
  ([0, 1, 5, 6, 7], [31, 30, 26, 25, 24]),
  ([0, 4, 5, 6], [31, 27, 26, 25]),
  ([1, 3, 4, 5, 7], [30, 28, 27, 26, 24]),
  ([0, 1, 2, 3, 4, 6, 7], [31, 30, 29, 28, 27, 25, 24]),
  ([0, 1, 2, 3, 5, 6], [31, 30, 29, 28, 26, 25]),
  ([0, 2, 4, 5, 7], [31, 29, 27, 26, 24]),
  ([3, 4, 6, 7], [28, 27, 25, 24, 0]),
  ([2, 3, 5, 6], [29, 28, 26, 25, 1]),
  ([2, 4, 5, 7], [29, 27, 26, 24, 2]),
  ([3, 4, 6, 7], [28, 27, 25, 24, 3]),
  ([1, 2, 3, 5, 6, 7], [30, 29, 28, 26, 25, 24, 4]),
  ([0, 1, 2, 4, 5, 6], [31, 30, 29, 27, 26, 25, 5]),
  ([0, 1, 3, 4, 5], [31, 30, 28, 27, 26, 6]),
  ([0, 2, 3, 4], [31, 29, 28, 27, 7]),
  ([2, 3, 7], [29, 28, 24, 8]),
  ([1, 2, 6], [30, 29, 25, 9]),
  ([0, 1, 5], [31, 30, 26, 10]),
  ([0, 4], [31, 27, 11]),
  ([3], [28, 12]),
  ([2], [29, 13]),
  ([7], [24, 14]),
  ([1, 6, 7], [30, 25, 24, 15]),
  ([0, 5, 6], [31, 26, 25, 16]),
  ([4, 5], [27, 26, 17]),
  ([1, 3, 4, 7], [30, 28, 27, 24, 18]),
  ([0, 2, 3, 6], [31, 29, 28, 25, 19]),
  ([1, 2, 5], [30, 29, 26, 20]),
  ([0, 1, 4], [31, 30, 27, 21]),
  ([0, 3], [31, 28, 22]),
  ([2], [23, 29])]

def xorBits (value : Nat) (bits : List Nat) : Bool :=
  bits.foldl (fun sum bit => sum ^^ value.testBit bit) false

def calCrc32 (crcResult : UInt32) (data8 : UInt8) : UInt32 :=
  (List.range 32).foldl (fun result i =>
    let taps := crcTaps.getD i ([], [])
    if xorBits data8.toNat taps.1 ^^ xorBits crcResult.toNat taps.2 then
      result ||| 1 <<< UInt32.ofNat i
    else result) 0

def crcLoop (data : Nat → UInt8) : Nat → UInt32
  | 0 => 0xFFFFFFFF
  | i + 1 => calCrc32 (crcLoop data i) (data i)

def getCrc32 (data : Nat → UInt8) (dataSize : Nat) : UInt32 :=
  let crcResult := crcLoop data dataSize
  ~~~(List.range 32).foldl (fun val i =>
    if (crcResult >>> UInt32.ofNat i) &&& 1 ≠ 0 then val ||| 1 <<< UInt32.ofNat (31 - i)
    else val) 0

def tlsParamMagic : UInt32 := 0x4947414D

abbrev SysParam := Fin 704 → UInt8

structure Field where
  offset : Nat
  size : Nat
deriving DecidableEq

def Field.Covers (field : Field) (index : Nat) : Prop :=
  field.offset ≤ index ∧ index < field.offset + field.size

instance (field : Field) (index : Nat) : Decidable (field.Covers index) :=
  inferInstanceAs (Decidable (_ ∧ _))

namespace Field

def all : Field := ⟨0, 704⟩
def hardwareVersion : Field := ⟨0, 8⟩
def bssid : Field := ⟨8, 8⟩
def ssid : Field := ⟨16, 36⟩
def channelEnable : Field := ⟨52, 1⟩
def channel : Field := ⟨53, 1⟩
def wirelessRegion : Field := ⟨54, 1⟩
def encry : Field := ⟨55, 1⟩
def wirelessProtocol : Field := ⟨56, 1⟩
def autoCreateAdhoc : Field := ⟨57, 1⟩
def autoRetrycnt : Field := ⟨58, 1⟩
def autoRoam : Field := ⟨59, 1⟩
def autoPowersave : Field := ⟨60, 1⟩
def ssidBroadcastEnable : Field := ⟨61, 1⟩
def channellist : Field := ⟨62, 2⟩
def key : Field := ⟨64, 68⟩
def wbgr : Field := ⟨132, 4⟩
def wps : Field := ⟨136, 12⟩
def ipcfg : Field := ⟨148, 24⟩
def localDnsname : Field := ⟨172, 32⟩
def localDeviceName : Field := ⟨204, 32⟩
def orayClientSetting : Field := ⟨236, 68⟩
def upnpEnable : Field := ⟨304, 1⟩
def userPortMode : Field := ⟨306, 1⟩
def uartCfg : Field := ⟨308, 8⟩
def autoMode : Field := ⟨316, 1⟩
def transparentTriggerLength : Field := ⟨318, 2⟩
def transparentTriggerPeriod : Field := ⟨320, 2⟩
def remoteSocketCfg : Field := ⟨322, 36⟩
def debugMode : Field := ⟨360, 4⟩
def escapeChar : Field := ⟨372, 1⟩
def escapePeriod : Field := ⟨374, 2⟩
def ioMode : Field := ⟨376, 1⟩
def cmdMode : Field := ⟨377, 1⟩
def passWord : Field := ⟨378, 6⟩
def websCfg : Field := ⟨384, 4⟩
def oneshotflag : Field := ⟨388, 1⟩
def psk : Field := ⟨391, 33⟩
def originalKey : Field := ⟨424, 68⟩
def originalSsid : Field := ⟨492, 36⟩
def autoReconnect : Field := ⟨528, 1⟩
def quickConnect : Field := ⟨532, 2⟩
def keyChanged : Field := ⟨534, 1⟩
def ssidChanged : Field := ⟨535, 1⟩
def apstaSsid : Field := ⟨536, 36⟩
def apstaPsk : Field := ⟨572, 33⟩
def channel4softap : Field := ⟨606, 1⟩
def encry4softap : Field := ⟨607, 1⟩
def key4softap : Field := ⟨608, 68⟩
def ipcfg4softap : Field := ⟨676, 24⟩
def wbgr4softap : Field := ⟨700, 4⟩

end Field

inductive ParamId
  | all
  | ssid
  | encry
  | key
  | ip
  | automode
  | defsocket
  | bssid
  | channel
  | channelEn
  | countryRegion
  | wprotocol
  | adhocAutocreate
  | roaming
  | autoRetryCnt
  | wbgr
  | usrintf
  | autoTriggerLength
  | debugMode
  | hardversion
  | brdssid
  | dnsname
  | devname
  | psm
  | orayClient
  | upnp
  | uart
  | wps
  | autoTriggerPeriod
  | escapeChar
  | escapePeriod
  | ioMode
  | cmdMode
  | password
  | channelList
  | websConfig
  | oneshotCfg
  | sha1
  | originKey
  | originSsid
  | autoReconnect
  | quickConnect
  | keyChange
  | ssidChange
  | softapSsid
  | softapPsk
  | softapEncry
  | softapKey
  | softapIp
  | softapChannel
  | softapWbgr
deriving DecidableEq

def ParamId.ofCode : Int → Option ParamId
  | -1 => some .all
  | 0 => some .ssid
  | 1 => some .encry
  | 2 => some .key
  | 3 => some .ip
  | 4 => some .automode
  | 5 => some .defsocket
  | 6 => some .bssid
  | 7 => some .channel
  | 8 => some .channelEn
  | 9 => some .countryRegion
  | 10 => some .wprotocol
  | 11 => some .adhocAutocreate
  | 12 => some .roaming
  | 13 => some .autoRetryCnt
  | 14 => some .wbgr
  | 15 => some .usrintf
  | 16 => some .autoTriggerLength
  | 17 => some .debugMode
  | 18 => some .hardversion
  | 19 => some .brdssid
  | 20 => some .dnsname
  | 21 => some .devname
  | 22 => some .psm
  | 23 => some .orayClient
  | 24 => some .upnp
  | 26 => some .uart
  | 27 => some .wps
  | 28 => some .autoTriggerPeriod
  | 29 => some .escapeChar
  | 30 => some .escapePeriod
  | 31 => some .ioMode
  | 32 => some .cmdMode
  | 33 => some .password
  | 34 => some .channelList
  | 35 => some .websConfig
  | 36 => some .oneshotCfg
  | 37 => some .sha1
  | 38 => some .originKey
  | 39 => some .originSsid
  | 40 => some .autoReconnect
  | 41 => some .quickConnect
  | 42 => some .keyChange
  | 43 => some .ssidChange
  | 44 => some .softapSsid
  | 45 => some .softapPsk
  | 46 => some .softapEncry
  | 47 => some .softapKey
  | 48 => some .softapIp
  | 49 => some .softapChannel
  | 50 => some .softapWbgr
  | _ => none

inductive FieldArm
  | copy (field : Field)
  | strcpy (field : Field)
deriving DecidableEq

def setArm : ParamId → FieldArm
  | .all => .copy .all
  | .ssid => .copy .ssid
  | .encry => .copy .encry
  | .key => .copy .key
  | .ip => .copy .ipcfg
  | .automode => .copy .autoMode
  | .defsocket => .copy .remoteSocketCfg
  | .bssid => .copy .bssid
  | .channel => .copy .channel
  | .channelList => .copy .channellist
  | .channelEn => .copy .channelEnable
  | .countryRegion => .copy .wirelessRegion
  | .wprotocol => .copy .wirelessProtocol
  | .adhocAutocreate => .copy .autoCreateAdhoc
  | .roaming => .copy .autoRoam
  | .autoRetryCnt => .copy .autoRetrycnt
  | .wbgr => .copy .wbgr
  | .usrintf => .copy .userPortMode
  | .autoTriggerLength => .copy .transparentTriggerLength
  | .autoTriggerPeriod => .copy .transparentTriggerPeriod
  | .escapeChar => .copy .escapeChar
  | .escapePeriod => .copy .escapePeriod
  | .ioMode => .copy .ioMode
  | .cmdMode => .copy .cmdMode
  | .password => .copy .passWord
  | .websConfig => .copy .websCfg
  | .debugMode => .copy .debugMode
  | .hardversion => .copy .hardwareVersion
  | .brdssid => .copy .ssidBroadcastEnable
  | .dnsname => .strcpy .localDnsname
  | .devname => .strcpy .localDeviceName
  | .psm => .copy .autoPowersave
  | .orayClient => .copy .orayClientSetting
  | .upnp => .copy .upnpEnable
  | .uart => .copy .uartCfg
  | .wps => .copy .wps
  | .oneshotCfg => .copy .oneshotflag
  | .sha1 => .copy .psk
  | .originKey => .copy .originalKey
  | .originSsid => .copy .originalSsid
  | .autoReconnect => .copy .autoReconnect
  | .quickConnect => .copy .quickConnect
  | .keyChange => .copy .keyChanged
  | .ssidChange => .copy .ssidChanged
  | .softapSsid => .copy .apstaSsid
  | .softapPsk => .copy .apstaPsk
  | .softapEncry => .copy .encry4softap
  | .softapKey => .copy .key4softap
  | .softapIp => .copy .ipcfg4softap
  | .softapChannel => .copy .channel4softap
  | .softapWbgr => .copy .wbgr4softap

def getArm : ParamId → FieldArm
  | .all => .copy .all
  | .ssid => .copy .ssid
  | .encry => .copy .encry
  | .key => .copy .key
  | .ip => .copy .ipcfg
  | .automode => .copy .autoMode
  | .defsocket => .copy .remoteSocketCfg
  | .bssid => .copy .bssid
  | .channel => .copy .channel
  | .channelList => .copy .channellist
  | .channelEn => .copy .channelEnable
  | .countryRegion => .copy .wirelessRegion
  | .wprotocol => .copy .wirelessProtocol
  | .adhocAutocreate => .copy .autoCreateAdhoc
  | .roaming => .copy .autoRoam
  | .autoRetryCnt => .copy .autoRetrycnt
  | .wbgr => .copy .wbgr
  | .usrintf => .copy .userPortMode
  | .autoTriggerLength => .copy .transparentTriggerLength
  | .autoTriggerPeriod => .copy .transparentTriggerPeriod
  | .escapeChar => .copy .escapeChar
  | .escapePeriod => .copy .escapePeriod
  | .ioMode => .copy .ioMode
  | .cmdMode => .copy .cmdMode
  | .password => .copy .passWord
  | .websConfig => .copy .websCfg
  | .debugMode => .copy .debugMode
  | .hardversion => .copy .hardwareVersion
  | .brdssid => .copy .ssidBroadcastEnable
  | .dnsname => .strcpy .localDnsname
  | .devname => .strcpy .localDeviceName
  | .psm => .copy .autoPowersave
  | .orayClient => .copy .orayClientSetting
  | .upnp => .copy .upnpEnable
  | .uart => .copy .uartCfg
  | .wps => .copy .wps
  | .oneshotCfg => .copy .oneshotflag
  | .sha1 => .copy .psk
  | .originKey => .copy .originalKey
  | .originSsid => .copy .originalSsid
  | .autoReconnect => .copy .autoReconnect
  | .quickConnect => .copy .quickConnect
  | .keyChange => .copy .keyChanged
  | .ssidChange => .copy .ssidChanged
  | .softapSsid => .copy .apstaSsid
  | .softapPsk => .copy .apstaPsk
  | .softapEncry => .copy .encry4softap
  | .softapKey => .copy .key4softap
  | .softapIp => .copy .ipcfg4softap
  | .softapChannel => .copy .channel4softap
  | .softapWbgr => .copy .wbgr4softap

/-- The switch of `param_to_flash`. The arm of `TLS_PARAM_ID_AUTO_TRIGGER_PERIOD` has no
`break` and runs on into the one of `TLS_PARAM_ID_DEBUG_MODE`. -/
def flashArm : ParamId → List Field
  | .all => [.all]
  | .ssid => [.ssid]
  | .encry => [.encry]
  | .key => [.key]
  | .ip => [.ipcfg]
  | .automode => [.autoMode]
  | .defsocket => [.remoteSocketCfg]
  | .bssid => [.bssid]
  | .channel => [.channel]
  | .channelEn => [.channelEnable]
  | .countryRegion => [.wirelessRegion]
  | .wprotocol => [.wirelessProtocol]
  | .adhocAutocreate => [.autoCreateAdhoc]
  | .roaming => [.autoRoam]
  | .autoRetryCnt => [.autoRetrycnt]
  | .wbgr => [.wbgr]
  | .usrintf => [.userPortMode]
  | .escapeChar => [.escapeChar]
  | .escapePeriod => [.escapePeriod]
  | .autoTriggerLength => [.transparentTriggerLength]
  | .autoTriggerPeriod => [.transparentTriggerPeriod, .debugMode]
  | .debugMode => [.debugMode]
  | .hardversion => [.hardwareVersion]
  | .brdssid => [.ssidBroadcastEnable]
  | .dnsname => [.localDnsname]
  | .devname => [.localDeviceName]
  | .psm => [.autoPowersave]
  | .orayClient => [.orayClientSetting]
  | .upnp => [.upnpEnable]
  | .uart => [.uartCfg]
  | .wps => [.wps]
  | .channelList => [.channellist]
  | .oneshotCfg => [.oneshotflag]
  | .sha1 => [.psk]
  | .originKey => [.originalKey]
  | .originSsid => [.originalSsid]
  | .autoReconnect => [.autoReconnect]
  | .ioMode => [.ioMode]
  | .cmdMode => [.cmdMode]
  | .password => [.passWord]
  | .websConfig => [.websCfg]
  | .quickConnect => [.quickConnect]
  | .keyChange => [.keyChanged]
  | .ssidChange => [.ssidChanged]
  | .softapSsid => [.apstaSsid]
  | .softapPsk => [.apstaPsk]
  | .softapEncry => [.encry4softap]
  | .softapKey => [.key4softap]
  | .softapIp => [.ipcfg4softap]
  | .softapChannel => [.channel4softap]
  | .softapWbgr => [.wbgr4softap]

/-- `MEMCPY` or an assignment of one field. Words are copied byte by byte, so that the
order of the bytes in them does not matter. -/
def Field.copy (field : Field) (src dest : SysParam) : SysParam :=
  fun index => if field.Covers index then src index else dest index

def copyFields (fields : List Field) (src dest : SysParam) : SysParam :=
  fields.foldl (fun dest field => field.copy src dest) dest

def Field.store (field : Field) (argv : List UInt8) (param : SysParam) : SysParam :=
  fun index => if field.Covers index then argv.getD (index - field.offset) 0 else param index

def Field.load (field : Field) (param : SysParam) : List UInt8 :=
  (List.range field.size).map fun index =>
    if inside : field.offset + index < 704 then param ⟨field.offset + index, inside⟩ else 0

def cString (bytes : List UInt8) : List UInt8 :=
  bytes.takeWhile (· ≠ 0)

/-- `strcpy` into the field writes the terminating zero as well and does not know where the
field ends. What is beyond the structure is not part of the model. -/
def Field.strcpy (field : Field) (argv : List UInt8) (param : SysParam) : SysParam :=
  (Field.mk field.offset ((cString argv).length + 1)).store (cString argv ++ [0]) param

/-- `strcpy` out of the field: `none` when no zero follows inside the structure and the copy
runs on into what lies behind it. -/
def Field.readString (field : Field) (param : SysParam) : Option (List UInt8) :=
  let rest := (Field.mk field.offset (704 - field.offset)).load param
  if 0 ∈ rest then some (cString rest) else none

def FieldArm.set : FieldArm → List UInt8 → SysParam → SysParam
  | .copy field => field.store
  | .strcpy field => field.strcpy

def FieldArm.get : FieldArm → SysParam → Option (List UInt8)
  | .copy field, param => some (field.load param)
  | .strcpy field, param => field.readString param

structure ParamFlash where
  magic : UInt32
  partitionNum : UInt16
  modifyCount : UInt16
  resv1 : UInt32
  resv2 : UInt16
  length : UInt16
  parameters : SysParam
  crc32 : UInt32
deriving DecidableEq

def sizeofParamFlash : Nat := 724

def byteOf (value index : Nat) : UInt8 :=
  UInt8.ofNat (value >>> (8 * index))

def wordAt (bytes : Nat → UInt8) (offset count : Nat) : Nat :=
  (List.range count).foldr (fun index word => word * 256 + (bytes (offset + index)).toNat) 0

theorem byteOf_toNat (value index : Nat) :
    (byteOf value index).toNat = value / 256 ^ index % 256 := by
  rw [byteOf, UInt8.toNat_ofNat', Nat.shiftRight_eq_div_pow, Nat.pow_mul]

theorem wordAt_four (bytes : Nat → UInt8) (offset : Nat) :
    wordAt bytes offset 4 = (bytes offset).toNat + 256 * ((bytes (offset + 1)).toNat +
      256 * ((bytes (offset + 2)).toNat + 256 * (bytes (offset + 3)).toNat)) := by
  simp only [wordAt, List.range, List.range.loop, List.foldr, Nat.add_zero]
  omega

theorem wordAt_congr {first second : Nat → UInt8} {offset other count : Nat}
    (same : ∀ index < count, first (offset + index) = second (other + index)) :
    wordAt first offset count = wordAt second other count := by
  unfold wordAt
  apply List.foldr_ext
  intro index member _
  rw [same index (List.mem_range.mp member)]

theorem wordAt_byteOf (value : UInt32) {bytes : Nat → UInt8} {offset : Nat}
    (same : ∀ index < 4, bytes (offset + index) = byteOf value.toNat index) :
    UInt32.ofNat (wordAt bytes offset 4) = value := by
  have bound := value.toNat_lt
  have word : wordAt bytes offset 4 = value.toNat := by
    rw [wordAt_four]
    have first := same 0 (by omega)
    rw [Nat.add_zero] at first
    rw [first, same 1 (by omega), same 2 (by omega), same 3 (by omega)]
    simp only [byteOf_toNat]
    omega
  rw [word, UInt32.ofNat_toNat]

namespace ParamFlash

def zero : ParamFlash :=
  ⟨0, 0, 0, 0, 0, 0, fun _ => 0, 0⟩

def byte (flash : ParamFlash) (offset : Nat) : UInt8 :=
  if offset < 4 then byteOf flash.magic.toNat offset
  else if offset < 6 then byteOf flash.partitionNum.toNat (offset - 4)
  else if offset < 8 then byteOf flash.modifyCount.toNat (offset - 6)
  else if offset < 12 then byteOf flash.resv1.toNat (offset - 8)
  else if offset < 14 then byteOf flash.resv2.toNat (offset - 12)
  else if offset < 16 then byteOf flash.length.toNat (offset - 14)
  else if inside : offset - 16 < 704 then flash.parameters ⟨offset - 16, inside⟩
  else byteOf flash.crc32.toNat (offset - 720)

def ofBytes (bytes : Nat → UInt8) : ParamFlash where
  magic := UInt32.ofNat (wordAt bytes 0 4)
  partitionNum := UInt16.ofNat (wordAt bytes 4 2)
  modifyCount := UInt16.ofNat (wordAt bytes 6 2)
  resv1 := UInt32.ofNat (wordAt bytes 8 4)
  resv2 := UInt16.ofNat (wordAt bytes 12 2)
  length := UInt16.ofNat (wordAt bytes 14 2)
  parameters := fun index => bytes (16 + index)
  crc32 := UInt32.ofNat (wordAt bytes 720 4)

/-- `MEMCPY` of the first `count` bytes; what it writes behind the structure is left out. -/
def copyFront (count : Nat) (src dest : ParamFlash) : ParamFlash :=
  ofBytes fun offset => if offset < count then src.byte offset else dest.byte offset

end ParamFlash

end SmartMeter
