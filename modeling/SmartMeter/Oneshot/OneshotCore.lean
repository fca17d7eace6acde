import Mathlib.Algebra.GroupWithZero.Nat
import SmartMeter.Library.Buffer

/-!
The multicast decoder of `wm_wifi_oneshot.c`: a frame whose destination is 01:00:5e:i:a:b brings
two bytes of the message, and one to 01:00:5e:00:sync:len its length. `tls_wifi_lsd_oneshot`
works on the globals of the file; every store it makes into a buffer is recorded with its
destination.
-/

namespace SmartMeter

structure EtherAddr where
  b0 : UInt8
  b1 : UInt8
  b2 : UInt8
  b3 : UInt8
  b4 : UInt8
  b5 : UInt8
deriving DecidableEq

namespace EtherAddr

def zero : EtherAddr := ⟨0, 0, 0, 0, 0, 0⟩

def byte (addr : EtherAddr) : Nat → UInt8
  | 0 => addr.b0
  | 1 => addr.b1
  | 2 => addr.b2
  | 3 => addr.b3
  | 4 => addr.b4
  | _ => addr.b5

end EtherAddr

/-- `struct ieee80211_hdr` without the duration, which nothing here reads. -/
structure Ieee80211Hdr where
  frameControl : UInt16
  addr1 : EtherAddr
  addr2 : EtherAddr
  addr3 : EtherAddr
  seqCtrl : UInt16
  addr4 : EtherAddr

namespace Ieee80211Hdr

def hasTods (hdr : Ieee80211Hdr) : Bool := hdr.frameControl &&& 0x0100 != 0

def hasFromds (hdr : Ieee80211Hdr) : Bool := hdr.frameControl &&& 0x0200 != 0

def hasA4 (hdr : Ieee80211Hdr) : Bool := hdr.frameControl &&& 0x0300 == 0x0300

def getSA (hdr : Ieee80211Hdr) : EtherAddr :=
  if hdr.hasA4 then hdr.addr4 else if hdr.hasFromds then hdr.addr3 else hdr.addr2

def getDA (hdr : Ieee80211Hdr) : EtherAddr :=
  if hdr.hasTods then hdr.addr3 else hdr.addr1

def bssidMacAddr (hdr : Ieee80211Hdr) : Option EtherAddr :=
  if hdr.hasTods then some hdr.addr1 else if hdr.hasFromds then some hdr.addr2 else none

end Ieee80211Hdr

instance customRows_neZero : NeZero 3 := ⟨Nat.succ_ne_zero 2⟩

inductive Destination where
  | aulsddata
  | gucssidData
  | gucbssidData
  | gucpwdData
  | gucCustomData (row : Fin 3)
  | datasave (row : Fin 2)
  | dataSsid
  | dataPwd
  | dataCustom
  | ssidData
  | gaupwdData
  | customData
  | block (size : Nat)

/-- Bytes, for the tables of fragments their entries. -/
def Destination.size : Destination → Nat
  | aulsddata => 256
  | gucssidData => 33
  | gucbssidData => 6
  | gucpwdData => 65
  | gucCustomData _ => 65
  | datasave _ => 7
  | dataSsid => 8
  | dataPwd => 32
  | dataCustom => 32
  | ssidData => 33
  | gaupwdData => 65
  | customData => 65
  | block size => size

structure Store where
  destination : Destination
  offset : Nat
  count : Nat

def Store.Inside (store : Store) : Prop :=
  store.offset + store.count ≤ store.destination.size

/-- What `tls_wifi_decode_new_oneshot_data` returns and the bytes it stores through its out
pointers. -/
structure Decoded where
  ret : Int
  outKey : Nat → Option UInt8
  outBssid : Nat → Option UInt8
  outSsid : Nat → Option UInt8
  outCustData : Nat → Option UInt8

/-- The code around the decoder: `tls_wifi_decode_new_oneshot_data`, and whether a result
callback is registered. -/
structure OneshotHost where
  decode : List UInt8 → Decoded
  gpfResult : Bool

def outBytes (out : Nat → Option UInt8) (buffer : Nat → UInt8) (index : Nat) : UInt8 :=
  (out index).getD (buffer index)

structure LsdState where
  guconeshotflag : Bool
  gucssidokflag : Bool
  gucbssidokflag : Bool
  gucpwdokflag : Bool
  gucssidData : Nat → UInt8
  gucbssidData : Nat → UInt8
  gucpwdData : Nat → UInt8
  gucCustomData : Fin 3 → Nat → UInt8
  gSrcMac : EtherAddr
  guchandshakeflag : Bool
  gucHandShakeOk : Bool
  ullsddatavalid : Nat → Bool
  aulsddata : Option (Nat → UInt8)
  lsdhandshakecnt : UInt8
  uclsddatalen : UInt8
  uclsdsyncode : UInt8
  stores : List Store

namespace LsdState

/-- `memset(ullsddatavalid, 0, 8)` clears the first two of the eight words. -/
def clearOneshotData (iscleardata : Bool) (state : LsdState) : LsdState :=
  let state := { state with lsdhandshakecnt := 0 }
  let state :=
    if iscleardata then
      { state with
        ullsddatavalid := fun index => if index < 64 then false else state.ullsddatavalid index
        aulsddata := state.aulsddata.map fun data => Buffer.fill data 0 256
        stores := state.stores ++ if state.aulsddata.isSome then [⟨.aulsddata, 0, 256⟩] else [] }
    else state
  { state with
    uclsddatalen := 0xFF
    gucbssidokflag := false
    gucssidokflag := false
    gucpwdokflag := false }

def compareMacAddr (macaddr : EtherAddr) (state : LsdState) : Bool × LsdState :=
  if state.gSrcMac = .zero then (false, { state with gSrcMac := macaddr })
  else (state.gSrcMac = macaddr, state)

/-- A frame with data: the pair of bytes is kept if that pair is not there yet. -/
def saveData (dst : EtherAddr) (state : LsdState) : LsdState :=
  if 0 < dst.b3 then
    let index := (dst.b3 - 1).toNat
    if state.ullsddatavalid index then state
    else
      { state with
        aulsddata := state.aulsddata.map fun data =>
          Function.update (Function.update data (2 * index) dst.b4) (2 * index + 1) dst.b5
        ullsddatavalid := Function.update state.ullsddatavalid index true
        stores := state.stores ++ [⟨.aulsddata, 2 * index, 1⟩, ⟨.aulsddata, 2 * index + 1, 1⟩] }
  else state

def dropPair (index : Nat) (state : LsdState) : LsdState :=
  if state.ullsddatavalid index then
    { state with
      aulsddata := state.aulsddata.map fun data =>
        Function.update (Function.update data (2 * index) 0) (2 * index + 1) 0
      ullsddatavalid := Function.update state.ullsddatavalid index false
      stores := state.stores ++ [⟨.aulsddata, 2 * index, 1⟩, ⟨.aulsddata, 2 * index + 1, 1⟩] }
  else state

def dropPairs : Nat → LsdState → LsdState
  | 0, state => state
  | count + 1, state => dropPair count (dropPairs count state)

/-- A frame with the length: another length than the one known throws pairs away. -/
def saveLength (dst : EtherAddr) (state : LsdState) : LsdState :=
  if dst.b3 = 0 ∧ dst.b4 = state.uclsdsyncode ∧
      (state.uclsddatalen = 0xFF ∨ dst.b5 ≠ state.uclsddatalen) then
    let state :=
      if dst.b5 ≠ state.uclsddatalen ∧ state.uclsddatalen ≠ 0xFF then
        dropPairs state.uclsddatalen.toNat state
      else state
    { state with uclsddatalen := dst.b5 }
  else state

def copyBssid (hdr : Ieee80211Hdr) (state : LsdState) : LsdState :=
  match hdr.bssidMacAddr with
  | some mac =>
      { state with
        gucbssidData := Buffer.copy state.gucbssidData 0 mac.byte 6
        stores := state.stores ++ [⟨.gucbssidData, 0, 6⟩] }
  | none => state

def countSync (hdr : Ieee80211Hdr) (state : LsdState) : LsdState :=
  if hdr.getDA.b3 = 0 ∧ state.uclsdsyncode = hdr.getDA.b4 then
    { state with lsdhandshakecnt := state.lsdhandshakecnt + 1 }
  else state

def startSync (hdr : Ieee80211Hdr) (state : LsdState) : LsdState :=
  if state.lsdhandshakecnt = 1 then
    { state with gSrcMac := hdr.getSA, gucHandShakeOk := false }
  else state

def finishSync (hdr : Ieee80211Hdr) (state : LsdState) : LsdState :=
  if 3 ≤ state.lsdhandshakecnt then
    let state := copyBssid hdr { state with guchandshakeflag := true }
    { state with gSrcMac := hdr.getSA }
  else state

def synchronise (hdr : Ieee80211Hdr) (state : LsdState) : LsdState :=
  finishSync hdr (startSync hdr (countSync hdr state))

def countHandshake (hdr : Ieee80211Hdr) (state : LsdState) : LsdState :=
  let lsdhandshakecnt :=
    if hdr.getDA.b4 ≤ 5 ∧ state.uclsdsyncode = hdr.getDA.b5 then state.lsdhandshakecnt + 1
    else state.lsdhandshakecnt
  { state with
    lsdhandshakecnt := lsdhandshakecnt
    gucHandShakeOk := state.gucHandShakeOk || decide (13 ≤ lsdhandshakecnt) }

def pairs (state : LsdState) : Nat := (state.uclsddatalen.toNat + 1) / 2

def complete (state : LsdState) : Bool :=
  state.uclsddatalen != 0 && state.uclsddatalen != 0xFF &&
    (List.range state.pairs).all state.ullsddatavalid

def bssidIsZero (state : LsdState) : Bool :=
  (List.range 6).all fun index => state.gucbssidData index == 0

def connect (state : LsdState) : LsdState :=
  { state with guconeshotflag := false }

def connectIfKnown (state : LsdState) : LsdState :=
  if (state.gucssidokflag || state.gucbssidokflag) && state.gucpwdokflag then
    if state.gucbssidokflag && state.gucssidokflag then state.connect
    else if state.gucssidokflag && state.gucssidData 0 != 0 then state.connect
    else state
  else state

def acceptDecoded (host : OneshotHost) (state : LsdState) : LsdState :=
  let state :=
    if !state.bssidIsZero && state.gucssidData 0 != 0 then
      { state with gucbssidokflag := true, gucssidokflag := true, gucpwdokflag := true }
    else if state.gucssidData 0 != 0 then
      { state with gucssidokflag := true, gucbssidokflag := false, gucpwdokflag := true }
    else if state.gucCustomData 0 0 != 0 then
      let state := { clearOneshotData true state with guchandshakeflag := false }
      if host.gpfResult then { state with guconeshotflag := false } else state
    else state
  connectIfKnown state

def prepareDecode (hdr : Ieee80211Hdr) (state : LsdState) : LsdState :=
  let state :=
    { state with
      gucssidokflag := false
      gucbssidokflag := true
      gucpwdokflag := false
      gucssidData := Buffer.fill state.gucssidData 0 33
      gucbssidData := Buffer.fill state.gucbssidData 0 6
      gucpwdData := Buffer.fill state.gucpwdData 0 65
      stores := state.stores ++
        [⟨.gucssidData, 0, 33⟩, ⟨.gucbssidData, 0, 6⟩, ⟨.gucpwdData, 0, 65⟩] }
  let state := copyBssid hdr state
  { state with
    aulsddata := state.aulsddata.map fun data =>
      Function.update data state.uclsddatalen.toNat 0
    stores := state.stores ++ [⟨.aulsddata, state.uclsddatalen.toNat, 1⟩] }

def message (state : LsdState) : List UInt8 :=
  match state.aulsddata with
  | some data => Buffer.toList data (state.uclsddatalen.toNat + 1)
  | none => []

def fillDecoded (decoded : Decoded) (state : LsdState) : LsdState :=
  { state with
    gucpwdData := outBytes decoded.outKey state.gucpwdData
    gucbssidData := outBytes decoded.outBssid state.gucbssidData
    gucssidData := outBytes decoded.outSsid state.gucssidData
    gucCustomData := Function.update state.gucCustomData 0
      (outBytes decoded.outCustData (state.gucCustomData 0)) }

def decodeMessage (host : OneshotHost) (hdr : Ieee80211Hdr) (state : LsdState) :
    LsdState × List UInt8 :=
  let state := prepareDecode hdr state
  let passed := state.message
  let decoded := host.decode passed
  let state := fillDecoded decoded state
  if decoded.ret = 0 then (acceptDecoded host state, passed)
  else ({ clearOneshotData true state with guchandshakeflag := false }, passed)

def dataHandle (host : OneshotHost) (hdr : Ieee80211Hdr) (state : LsdState) :
    LsdState × Option (List UInt8) :=
  let (same, state) := compareMacAddr hdr.getSA state
  let state := if same then countHandshake hdr state else state
  if state.complete then
    let (state, passed) := decodeMessage host hdr state
    (state, some passed)
  else (state, none)

def listens (hdr : Ieee80211Hdr) (state : LsdState) : Bool :=
  hdr.getDA.b0 == 0x01 && hdr.getDA.b1 == 0x00 && hdr.getDA.b2 == 0x5e &&
    !(hdr.getDA.b3 == 0 && state.uclsdsyncode != hdr.getDA.b4) && state.aulsddata.isSome

/-- The frame's data or length is taken in if it comes from the recorded source. -/
def gather (hdr : Ieee80211Hdr) (state : LsdState) : LsdState :=
  let (same, state) := compareMacAddr hdr.getSA state
  if same then saveLength hdr.getDA (saveData hdr.getDA state) else state

/-- With the bytes that a call of `tls_wifi_decode_new_oneshot_data` is given. -/
def tlsWifiLsdOneshot (host : OneshotHost) (hdr : Ieee80211Hdr) (state : LsdState) :
    LsdState × Option (List UInt8) :=
  if listens hdr state then
    let state := gather hdr state
    if state.guchandshakeflag then dataHandle host hdr state
    else (synchronise hdr state, none)
  else (state, none)

def tlsOneshotStopClearData (state : LsdState) : LsdState :=
  let state := { state with guchandshakeflag := false, gSrcMac := .zero }
  let state := clearOneshotData true state
  { state with
    aulsddata := none
    gucssidokflag := false
    gucbssidokflag := false
    gucpwdokflag := false }

/-- `memory` is what `tls_mem_alloc(256)` gives, `none` for `NULL`. -/
def tlsOneshotInitData (memory : Option (Nat → UInt8)) (state : LsdState) : LsdState :=
  let state :=
    { state with
      gucssidokflag := false
      gucbssidokflag := false
      gucpwdokflag := false
      gucssidData := Buffer.fill state.gucssidData 0 33
      gucbssidData := Buffer.fill state.gucbssidData 0 6
      gucpwdData := Buffer.fill state.gucpwdData 0 65
      stores := state.stores ++
        [⟨.gucssidData, 0, 33⟩, ⟨.gucbssidData, 0, 6⟩, ⟨.gucpwdData, 0, 65⟩]
      guchandshakeflag := false
      gSrcMac := .zero
      aulsddata := state.aulsddata.orElse fun _ => memory }
  clearOneshotData true state

end LsdState

end SmartMeter
