import SmartMeter.Oneshot.OneshotCore
import SmartMeter.Params.ParamLayout

/-!
The fragments of the broadcast decoder of `wm_wifi_oneshot.c`: two bytes with the tag, the total,
the number and the length, up to four bytes of text and a checksum. One table for each tag keeps
the text of the fragments until the last one is there.
-/

namespace SmartMeter

def crc8Tbl : List UInt8 := [
  0x00, 0x91, 0xe3, 0x72, 0x07, 0x96, 0xe4, 0x75, 0x0e, 0x9f, 0xed, 0x7c, 0x09, 0x98, 0xea, 0x7b,
  0x1c, 0x8d, 0xff, 0x6e, 0x1b, 0x8a, 0xf8, 0x69, 0x12, 0x83, 0xf1, 0x60, 0x15, 0x84, 0xf6, 0x67,
  0x38, 0xa9, 0xdb, 0x4a, 0x3f, 0xae, 0xdc, 0x4d, 0x36, 0xa7, 0xd5, 0x44, 0x31, 0xa0, 0xd2, 0x43,
  0x24, 0xb5, 0xc7, 0x56, 0x23, 0xb2, 0xc0, 0x51, 0x2a, 0xbb, 0xc9, 0x58, 0x2d, 0xbc, 0xce, 0x5f,
  0x70, 0xe1, 0x93, 0x02, 0x77, 0xe6, 0x94, 0x05, 0x7e, 0xef, 0x9d, 0x0c, 0x79, 0xe8, 0x9a, 0x0b,
  0x6c, 0xfd, 0x8f, 0x1e, 0x6b, 0xfa, 0x88, 0x19, 0x62, 0xf3, 0x81, 0x10, 0x65, 0xf4, 0x86, 0x17,
  0x48, 0xd9, 0xab, 0x3a, 0x4f, 0xde, 0xac, 0x3d, 0x46, 0xd7, 0xa5, 0x34, 0x41, 0xd0, 0xa2, 0x33,
  0x54, 0xc5, 0xb7, 0x26, 0x53, 0xc2, 0xb0, 0x21, 0x5a, 0xcb, 0xb9, 0x28, 0x5d, 0xcc, 0xbe, 0x2f,
  0xe0, 0x71, 0x03, 0x92, 0xe7, 0x76, 0x04, 0x95, 0xee, 0x7f, 0x0d, 0x9c, 0xe9, 0x78, 0x0a, 0x9b,
  0xfc, 0x6d, 0x1f, 0x8e, 0xfb, 0x6a, 0x18, 0x89, 0xf2, 0x63, 0x11, 0x80, 0xf5, 0x64, 0x16, 0x87,
  0xd8, 0x49, 0x3b, 0xaa, 0xdf, 0x4e, 0x3c, 0xad, 0xd6, 0x47, 0x35, 0xa4, 0xd1, 0x40, 0x32, 0xa3,
  0xc4, 0x55, 0x27, 0xb6, 0xc3, 0x52, 0x20, 0xb1, 0xca, 0x5b, 0x29, 0xb8, 0xcd, 0x5c, 0x2e, 0xbf,
  0x90, 0x01, 0x73, 0xe2, 0x97, 0x06, 0x74, 0xe5, 0x9e, 0x0f, 0x7d, 0xec, 0x99, 0x08, 0x7a, 0xeb,
  0x8c, 0x1d, 0x6f, 0xfe, 0x8b, 0x1a, 0x68, 0xf9, 0x82, 0x13, 0x61, 0xf0, 0x85, 0x14, 0x66, 0xf7,
  0xa8, 0x39, 0x4b, 0xda, 0xaf, 0x3e, 0x4c, 0xdd, 0xa6, 0x37, 0x45, 0xd4, 0xa1, 0x30, 0x42, 0xd3,
  0xb4, 0x25, 0x57, 0xc6, 0xb3, 0x22, 0x50, 0xc1, 0xba, 0x2b, 0x59, 0xc8, 0xbd, 0x2c, 0x5e, 0xcf]

def getCrc8 (bytes : List UInt8) : UInt8 :=
  bytes.foldl (fun crc8 data => crc8Tbl.getD (crc8 ^^^ data).toNat 0) 0

/-- The statics that one of the three resolvers works on. `joined` is the string in `ssidData`,
`gaupwdData` or `customData`. -/
structure FragmentTable where
  seq : UInt8
  seqTotalTmp : UInt8
  slots : Nat → Option (List UInt8)
  joined : List UInt8
  stores : List Store

/-- What the tables differ in: where their entries and the joined text are kept, the size of the
block for a fragment, and whether an empty fragment is left out of the text. -/
structure FragmentKind where
  entries : Destination
  whole : Destination
  blockSize : Nat → Nat
  skipsEmpty : Bool

inductive FragmentOutcome where
  | refused
  | kept
  | complete (text : List UInt8)

namespace FragmentTable

variable (kind : FragmentKind)

def free (table : FragmentTable) : FragmentTable :=
  { table with
    slots := fun index =>
      if index < table.seqTotalTmp.toNat then none else table.slots index
    stores := table.stores ++
      ((List.range table.seqTotalTmp.toNat).filter fun index => (table.slots index).isSome).map
        fun index => ⟨kind.entries, index, 1⟩ }

def retarget (seqtotal : UInt8) (table : FragmentTable) : FragmentTable :=
  if table.seqTotalTmp = 0 then { table with seqTotalTmp := seqtotal }
  else if table.seqTotalTmp ≠ seqtotal then
    { table.free kind with seq := 0, seqTotalTmp := seqtotal }
  else table

def keep (data : List UInt8) (seqnum : UInt8) (table : FragmentTable) : FragmentTable :=
  let block := Destination.block (kind.blockSize data.length)
  { table with
    slots := Function.update table.slots seqnum.toNat (some data)
    seq := table.seq + 1
    stores := table.stores ++
      [⟨kind.entries, seqnum.toNat, 1⟩, ⟨block, 0, data.length⟩, ⟨block, data.length, 1⟩] }

def strcat (table : FragmentTable) (index : Nat) : FragmentTable :=
  let text := cString ((table.slots index).getD [])
  if kind.skipsEmpty && text.isEmpty then table
  else
    { table with
      joined := table.joined ++ text
      stores := table.stores ++ [⟨kind.whole, table.joined.length, text.length + 1⟩] }

def join (seqtotal : UInt8) (table : FragmentTable) : FragmentTable :=
  (List.range seqtotal.toNat).foldl (strcat kind) table

def finish (table : FragmentTable) : FragmentTable :=
  { table.free kind with
    joined := []
    seq := 0
    seqTotalTmp := 0
    stores := (table.free kind).stores ++ [⟨kind.whole, 0, kind.whole.size⟩] }

/-- `memory` is whether the allocation succeeds. -/
def place (memory : Bool) (data : List UInt8) (seqnum seqtotal : UInt8)
    (table : FragmentTable) : FragmentTable × FragmentOutcome :=
  if (table.slots seqnum.toNat).isSome then (table, .refused)
  else if memory then
    let table := table.keep kind data seqnum
    if table.seq = seqtotal then
      let table := table.join kind seqtotal
      (table.finish kind, .complete table.joined)
    else (table, .kept)
  else
    ({ table with stores := table.stores ++ [⟨kind.entries, seqnum.toNat, 1⟩] }, .refused)

/-- The common body of the resolvers up to what they do with the text of a complete table. -/
def resolve (memory : Bool) (data : List UInt8) (seqnum seqtotal : UInt8)
    (table : FragmentTable) : FragmentTable × FragmentOutcome :=
  (table.retarget kind seqtotal).place kind memory data seqnum seqtotal

end FragmentTable

/-- `tag_recved` as one flag for each bit. -/
structure FragmentState extends LsdState where
  tagRecved : Nat → Nat → Bool
  ssid : FragmentTable
  pwd : FragmentTable
  custom : FragmentTable

def ssidKind : FragmentKind :=
  ⟨.dataSsid, .ssidData, fun len => len / 2 + 1, false⟩

def pwdKind : FragmentKind :=
  ⟨.dataPwd, .gaupwdData, fun len => len + 1, true⟩

def customKind : FragmentKind :=
  ⟨.dataCustom, .customData, fun len => len + 1, true⟩

/-- The bytes of a text that are copied: all and the zero, or as many as `limit` allows. -/
def copiedBytes (limit : Nat) (text : List UInt8) : Nat :=
  if limit < text.length then limit else text.length + 1

def copyText (limit : Nat) (text : List UInt8) (buffer : Nat → UInt8) : Nat → UInt8 :=
  Buffer.copy buffer 0 (fun index => text.getD index 0) (copiedBytes limit text)

namespace FragmentState

def tlsWifiSsidResolve (memory : Bool) (data : List UInt8) (seqnum seqtotal : UInt8)
    (state : FragmentState) : FragmentState × Int :=
  match state.ssid.resolve ssidKind memory data seqnum seqtotal with
  | (ssid, .refused) => ({ state with ssid := ssid }, 1)
  | (ssid, .kept) => ({ state with ssid := ssid }, 0)
  | (ssid, .complete text) =>
      ({ state with
          ssid := ssid
          gucssidokflag := true
          gucssidData := copyText 32 text (Function.update state.gucssidData 0 0)
          stores := state.stores ++
            [⟨.gucssidData, 0, 1⟩, ⟨.gucssidData, 0, copiedBytes 32 text⟩] }, 0)

def tlsWifiPwdResolve (memory : Bool) (data : List UInt8) (seqnum seqtotal : UInt8)
    (state : FragmentState) : FragmentState × Int :=
  match state.pwd.resolve pwdKind memory data seqnum seqtotal with
  | (pwd, .refused) => ({ state with pwd := pwd }, 1)
  | (pwd, .kept) => ({ state with pwd := pwd }, 1)
  | (pwd, .complete text) =>
      ({ state with
          pwd := pwd
          gucpwdokflag := true
          gucpwdData := copyText 64 text state.gucpwdData
          stores := state.stores ++ [⟨.gucpwdData, 0, copiedBytes 64 text⟩] }, 0)

def tlsWifiCustomdataResolve (host : OneshotHost) (memory : Bool) (data : List UInt8)
    (seqnum seqtotal : UInt8) (state : FragmentState) : FragmentState × Int :=
  match state.custom.resolve customKind memory data seqnum seqtotal with
  | (custom, .refused) => ({ state with custom := custom }, 1)
  | (custom, .kept) => ({ state with custom := custom }, 0)
  | (custom, .complete text) =>
      ({ state with
          custom := custom
          gucCustomData := Function.update state.gucCustomData 0
            (Buffer.copy (Buffer.fill (state.gucCustomData 0) 0 65) 0
              (fun index => text.getD index 0) (text.length + 1))
          guconeshotflag := state.guconeshotflag && !host.gpfResult
          stores := state.stores ++
            [⟨.gucCustomData 0, 0, 65⟩, ⟨.gucCustomData 0, 0, text.length + 1⟩] }, 0)

end FragmentState

def tagId (datasave : Nat → UInt8) : Nat := (datasave 0 >>> 4 &&& 0xF).toNat

def seqTotal (datasave : Nat → UInt8) : UInt8 := (datasave 0 &&& 0xF) + 1

def seqNum (datasave : Nat → UInt8) : UInt8 := datasave 1 >>> 4 &&& 0xF

def fragmentLen (datasave : Nat → UInt8) : Nat := (datasave 1 &&& 0xF).toNat

def fragmentData (datasave : Nat → UInt8) : List UInt8 :=
  Buffer.toList (fun index => datasave (2 + index)) (fragmentLen datasave)

namespace FragmentState

def received (datasave : Nat → UInt8) (state : FragmentState) : Bool :=
  state.tagRecved (tagId datasave) (seqNum datasave).toNat

def markReceived (datasave : Nat → UInt8) (state : FragmentState) : FragmentState :=
  { state with
    tagRecved := Function.update state.tagRecved (tagId datasave)
      (Function.update (state.tagRecved (tagId datasave)) (seqNum datasave).toNat true) }

def tlsWifiOneshotPacketHeadResolve (datasave : Nat → UInt8) (state : FragmentState) : Int :=
  let len := fragmentLen datasave
  if 2 < tagId datasave then -1
  else if seqTotal datasave ≤ seqNum datasave then -1
  else if state.received datasave then -1
  else if 4 < len ∨ seqNum datasave + 1 ≠ seqTotal datasave ∧ len ≠ 4 then -1
  else if 1 < seqTotal datasave ∧ 0 < seqNum datasave ∧ len = 0 then -1
  else 0

def resolveTag (host : OneshotHost) (memory : Bool) (datasave : Nat → UInt8)
    (state : FragmentState) : FragmentState × Int :=
  let data := fragmentData datasave
  match tagId datasave with
  | 0 =>
      let state := state.markReceived datasave
      if state.gucssidokflag then (state, 1)
      else state.tlsWifiSsidResolve memory data (seqNum datasave) (seqTotal datasave)
  | 1 =>
      let state := state.markReceived datasave
      if state.gucpwdokflag then (state, 1)
      else state.tlsWifiPwdResolve memory data (seqNum datasave) (seqTotal datasave)
  | 2 =>
      (state.markReceived datasave).tlsWifiCustomdataResolve host memory data
        (seqNum datasave) (seqTotal datasave)
  | _ => (state, 1)

def tlsWifiOneshotinfoResolveUdp (host : OneshotHost) (memory : Bool)
    (datasave : Nat → UInt8) (state : FragmentState) : FragmentState × Int :=
  let len := fragmentLen datasave
  if state.received datasave then (state, -1)
  else if datasave (2 + len) = getCrc8 (Buffer.toList datasave (2 + len)) then
    state.resolveTag host memory datasave
  else (state, 1)

end FragmentState

end SmartMeter
