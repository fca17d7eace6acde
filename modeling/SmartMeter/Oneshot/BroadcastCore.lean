import SmartMeter.Oneshot.FragmentCore

/-!
The rest of what `tls_wifi_dataframe_recv` of `wm_wifi_oneshot.c` does with a frame: the probe
frames that carry a whole configuration, and the broadcast decoder, to which the length of a
frame is half a byte of a fragment.
-/

namespace SmartMeter

/-- A received frame: `body` is what lies behind the 30 bytes of `struct ieee80211_hdr`. -/
structure DataFrame where
  hdr : Ieee80211Hdr
  body : Nat → UInt8
  dataLen : UInt32

namespace Ieee80211Hdr

def isData (hdr : Ieee80211Hdr) : Bool := hdr.frameControl &&& 0x000c == 0x0008

def isDataQos (hdr : Ieee80211Hdr) : Bool := hdr.frameControl &&& 0x008c == 0x0088

def hasRetry (hdr : Ieee80211Hdr) : Bool := hdr.frameControl &&& 0x0800 != 0

def isProbe (hdr : Ieee80211Hdr) : Bool := hdr.frameControl &&& 0x0073 == 0x0073

end Ieee80211Hdr

def EtherAddr.isBroadcast (addr : EtherAddr) : Bool :=
  addr.b0 &&& addr.b1 &&& addr.b2 &&& addr.b3 &&& addr.b4 &&& addr.b5 == 0xFF

namespace DataFrame

def u16 (frame : DataFrame) (offset : Nat) : UInt16 :=
  (frame.body offset).toUInt16 + (frame.body (offset + 1)).toUInt16 <<< 8

def tagid (frame : DataFrame) : UInt16 := frame.u16 6

def hasType (frame : DataFrame) (i : Nat) : Bool := (frame.u16 8).toNat.testBit i

def readTypelen (frame : DataFrame) (found : (Nat → UInt16) × Nat) (i : Nat) :
    (Nat → UInt16) × Nat :=
  if frame.hasType i then
    (Function.update found.1 i (frame.u16 found.2), found.2 + 2)
  else found

/-- `typelen` and the offset behind the lengths. -/
def typelens (frame : DataFrame) : (Nat → UInt16) × Nat :=
  (List.range 6).foldl frame.readTypelen (fun _ => 0, 10)

def typelen (frame : DataFrame) (i : Nat) : Nat := (frame.typelens.1 i).toNat

/-- `frm_len`: a QoS frame has two bytes more. -/
def frmLen (frame : DataFrame) : UInt32 :=
  if frame.hdr.isDataQos then frame.dataLen - 2 else frame.dataLen

end DataFrame

/-- `strncpy` stops reading at a zero and goes on writing zeros. -/
def strncpySource (source : Nat → UInt8) (index : Nat) : UInt8 :=
  if (List.range index).any fun before => source before == 0 then 0 else source index

structure ProbeCopy where
  tmpLen : Nat
  ret : Bool
  state : LsdState

namespace LsdState

def clearCredentials (state : LsdState) : LsdState :=
  { state with
    gucssidokflag := false
    gucbssidokflag := false
    gucpwdokflag := false
    gucssidData := Buffer.fill state.gucssidData 0 33
    gucbssidData := Buffer.fill state.gucbssidData 0 6
    gucpwdData := Buffer.fill state.gucpwdData 0 65
    stores := state.stores ++
      [⟨.gucssidData, 0, 33⟩, ⟨.gucbssidData, 0, 6⟩, ⟨.gucpwdData, 0, 65⟩] }

def copyPwd (data : Nat → UInt8) (len : Nat) (state : LsdState) : LsdState :=
  { state with
    gucpwdData := Buffer.copy state.gucpwdData 0 (strncpySource data) len
    gucpwdokflag := true
    stores := state.stores ++ [⟨.gucpwdData, 0, len⟩] }

def copyBssidType (data : Nat → UInt8) (len : Nat) (state : LsdState) : LsdState :=
  { state with
    gucbssidData := Buffer.copy state.gucbssidData 0 data len
    gucbssidokflag := true
    stores := state.stores ++ [⟨.gucbssidData, 0, len⟩] }

def copySsid (data : Nat → UInt8) (len : Nat) (state : LsdState) : LsdState :=
  { state with
    gucssidData := Buffer.copy (Function.update state.gucssidData 0 0) 0 data len
    gucssidokflag := true
    stores := state.stores ++ [⟨.gucssidData, 0, 1⟩, ⟨.gucssidData, 0, len⟩] }

def copyCustom (host : OneshotHost) (row : Fin 3) (data : Nat → UInt8) (len : Nat)
    (state : LsdState) : LsdState :=
  { state with
    gucCustomData := Function.update state.gucCustomData row
      (Function.update (Buffer.copy (state.gucCustomData row) 0 data len) len 0)
    guconeshotflag := state.guconeshotflag && !host.gpfResult
    stores := state.stores ++ [⟨.gucCustomData row, 0, len⟩, ⟨.gucCustomData row, len, 1⟩] }

def copyType (host : OneshotHost) (i : Nat) (data : Nat → UInt8) (len : Nat)
    (state : LsdState) : LsdState :=
  match i with
  | 0 => copyPwd data len state
  | 1 => copyBssidType data len state
  | 2 => copySsid data len state
  | row + 3 => copyCustom host (Fin.ofNat 3 row) data len state

def copyNext (host : OneshotHost) (frame : DataFrame) (progress : ProbeCopy) (i : Nat) :
    ProbeCopy :=
  if frame.hasType i then
    { tmpLen := progress.tmpLen + frame.typelen i
      ret := i < 3
      state := copyType host i (fun index => frame.body (progress.tmpLen + index))
        (frame.typelen i) progress.state }
  else progress

/-- The frame's raw length is read but only used in the access point mode. -/
def tlsWifiDecryptData (host : OneshotHost) (frame : DataFrame) (state : LsdState) :
    LsdState × Bool :=
  if frame.tagid = 0xA55A then
    let progress := (List.range 6).foldl (copyNext host frame)
      ⟨frame.typelens.2 + 2, false, clearCredentials state⟩
    (progress.state, progress.ret)
  else (state, false)

def connectProbed (state : LsdState) : LsdState :=
  if (state.gucssidokflag || state.gucbssidokflag) && state.gucpwdokflag then
    if state.gucbssidokflag && state.gucssidokflag then state.connect
    else if state.gucssidokflag then state.connect
    else if state.bssidIsZero then state
    else state.connect
  else state

def tlsWifiLsdProbe (host : OneshotHost) (frame : DataFrame) (state : LsdState) : LsdState :=
  if frame.hdr.isProbe then
    let (state, ret) := tlsWifiDecryptData host frame state
    if ret then connectProbed state else state
  else state

def connectIfComplete (state : LsdState) : LsdState :=
  if state.gucssidokflag && state.gucpwdokflag then
    if state.gucbssidokflag && state.gucssidokflag then state.connect
    else if state.gucssidokflag && state.gucssidData 0 != 0 then state.connect
    else state
  else state

end LsdState

/-- `shift` is what the processor makes of a shift by a count outside 0 to 31, which C leaves
undefined. -/
structure BroadcastHost extends OneshotHost where
  shift : UInt32 → Int8 → UInt32

def smtcfg1array : List UInt8 := [61, 69, 77, 81]

/-- The index of the arrays of two is whether the frame is to the distribution system. -/
structure BroadcastState extends FragmentState where
  smtcfgArray : UInt16
  bdhandshakecnt : Nat → UInt8
  databitcnt : Bool → Int8
  datasave : Bool → Nat → UInt8
  datacnt : Bool → UInt8
  syncnum : Bool
  seqnum : Bool → UInt32

/-- What `tls_wifi_lsd_broadcast` did with a frame: it returned at once, it took it in, or the
fragment is complete. -/
inductive FrameOutcome where
  | returned
  | stored
  | complete (datasave : Nat → UInt8)

def FragmentTable.drop (kind : FragmentKind) (table : FragmentTable) : FragmentTable :=
  { table.free kind with seq := 0, seqTotalTmp := 0 }

def datasaveOf (dsflag : Bool) : Destination :=
  .datasave ⟨dsflag.toNat, Bool.toNat_lt dsflag⟩

namespace BroadcastState

def onLsd (change : LsdState → LsdState) (state : BroadcastState) : BroadcastState :=
  { state with
    toFragmentState := { state.toFragmentState with toLsdState := change state.toLsdState } }

def compareMacAddr (macaddr : EtherAddr) (state : BroadcastState) : Bool × BroadcastState :=
  ((state.toLsdState.compareMacAddr macaddr).1,
    state.onLsd fun lsd => (lsd.compareMacAddr macaddr).2)

def clearOneshotInfo (cleardata : Bool) (state : BroadcastState) : BroadcastState :=
  let state := { state with bdhandshakecnt := fun _ => 0, tagRecved := fun _ _ => false }
  if cleardata then
    { state with pwd := state.pwd.drop pwdKind, ssid := state.ssid.drop ssidKind }
  else state

def startBroadcast (hdr : Ieee80211Hdr) (i : Nat) (state : BroadcastState) : BroadcastState :=
  let mac := if hdr.hasFromds then hdr.addr2 else hdr.addr1
  { state with
    smtcfgArray := (smtcfg1array.getD i 0).toUInt16 + 1
    syncnum := false
    datacnt := fun _ => 0
    databitcnt := fun _ => 4
    seqnum := fun _ => 0
    gucHandShakeOk := false
    gucbssidData := Buffer.copy state.gucbssidData 0 mac.byte 6
    gucbssidokflag := true
    guchandshakeflag := true
    stores := state.stores ++ [⟨.gucbssidData, 0, 6⟩] }

def countBroadcast (frame : DataFrame) (state : BroadcastState) (i : Nat) : BroadcastState :=
  if frame.frmLen = (smtcfg1array.getD i 0).toUInt32 then
    let (same, state) := state.compareMacAddr frame.hdr.getSA
    if same then
      let state :=
        { state with
          bdhandshakecnt :=
            Function.update state.bdhandshakecnt i (state.bdhandshakecnt i + 1) }
      if 8 ≤ state.bdhandshakecnt i then state.startBroadcast frame.hdr i else state
    else state
  else state

/-- The lengths are different, so the `break` of the loop changes nothing. -/
def handshake (frame : DataFrame) (state : BroadcastState) : BroadcastState :=
  (List.range 4).foldl (countBroadcast frame) state

def nibbleAt (host : BroadcastHost) (value : UInt32) (count : Int8) : UInt8 :=
  (if 0 ≤ count ∧ count < 32 then value <<< count.toNatClampNeg.toUInt32
    else host.shift value count).toUInt8

def saveNibble (host : BroadcastHost) (dsflag : Bool) (value : UInt32) (state : BroadcastState) :
    BroadcastState :=
  let position := (state.datacnt dsflag).toNat
  let nibble := nibbleAt host value (state.databitcnt dsflag)
  { state with
    datasave := Function.update state.datasave dsflag
      (Function.update (state.datasave dsflag) position
        (state.datasave dsflag position ||| nibble))
    databitcnt := Function.update state.databitcnt dsflag (state.databitcnt dsflag - 4)
    stores := state.stores ++ [⟨datasaveOf dsflag, position, 1⟩] }

def restart (dsflag : Bool) (state : BroadcastState) : BroadcastState :=
  { state with
    syncnum := false
    datasave := Function.update state.datasave dsflag (Buffer.fill (state.datasave dsflag) 0 7)
    datacnt := Function.update state.datacnt dsflag 0
    stores := state.stores ++ [⟨datasaveOf dsflag, 0, 7⟩] }

def startTag (dsflag : Bool) (tag : UInt8) (state : BroadcastState) : BroadcastState :=
  let position := (state.datacnt dsflag).toNat
  { state with
    datasave := Function.update state.datasave dsflag
      (Function.update (state.datasave dsflag) position (tag <<< 4))
    databitcnt := Function.update state.databitcnt dsflag 0
    datacnt := Function.update state.datacnt dsflag 0
    syncnum := true
    stores := state.stores ++ [⟨datasaveOf dsflag, position, 1⟩] }

def syncTag (frmLen : UInt32) (dsflag : Bool) (state : BroadcastState) : BroadcastState :=
  let smtcfg := state.smtcfgArray.toUInt32
  if frmLen = smtcfg ∧ state.gucssidokflag = false then state.startTag dsflag 0
  else if frmLen = smtcfg + 1 ∧ state.gucpwdokflag = false then state.startTag dsflag 1
  else if frmLen = smtcfg + 2 then state.startTag dsflag 2
  else state

/-- A frame one shorter than the shortest with data ends the fragment early. -/
def endFragment (host : BroadcastHost) (dsflag : Bool) (state : BroadcastState) :
    BroadcastState × FrameOutcome :=
  let state := state.saveNibble host dsflag 0xF
  let datacnt := state.datacnt dsflag
  if datacnt < 3 then (state.restart dsflag, .returned)
  else if datacnt < (state.datasave dsflag 1 &&& 0xF) + 3 then (state.restart dsflag, .returned)
  else
    ({ state with databitcnt := Function.update state.databitcnt dsflag 4 },
      .complete (state.datasave dsflag))

def nextByte (dsflag : Bool) (state : BroadcastState) : BroadcastState :=
  { state with
    databitcnt := Function.update state.databitcnt dsflag 4
    datacnt := Function.update state.datacnt dsflag (state.datacnt dsflag + 1) }

def takeNibble (host : BroadcastHost) (frmLen : UInt32) (dsflag : Bool) (state : BroadcastState) :
    BroadcastState × FrameOutcome :=
  let state := state.saveNibble host dsflag (frmLen - state.smtcfgArray.toUInt32)
  if state.databitcnt dsflag < 0 then
    let state := state.nextByte dsflag
    if state.datacnt dsflag = 2 ∧
        state.tlsWifiOneshotPacketHeadResolve (state.datasave dsflag) ≠ 0 then
      (state.restart dsflag, .stored)
    else if state.datacnt dsflag = 7 then (state, .complete (state.datasave dsflag))
    else (state, .stored)
  else (state, .stored)

def acceptsLength (frmLen : UInt32) (state : BroadcastState) : Bool :=
  let smtcfg := state.smtcfgArray.toUInt32
  !(smtcfg == 0 || decide (frmLen < smtcfg) && frmLen != smtcfg - 1 || decide (smtcfg + 15 < frmLen))

def takeData (host : BroadcastHost) (frame : DataFrame) (state : BroadcastState) :
    BroadcastState × FrameOutcome :=
  let dsflag := frame.hdr.hasTods
  if !state.acceptsLength frame.frmLen then (state, .returned)
  else if frame.hdr.hasRetry && state.seqnum dsflag == frame.hdr.seqCtrl.toUInt32 then
    (state, .returned)
  else
    let state :=
      { state with
        seqnum := Function.update state.seqnum dsflag frame.hdr.seqCtrl.toUInt32 }
    if !state.syncnum then (state.syncTag frame.frmLen dsflag, .returned)
    else if frame.frmLen = state.smtcfgArray.toUInt32 - 1 then state.endFragment host dsflag
    else state.takeNibble host frame.frmLen dsflag

def resolve (host : BroadcastHost) (memory : Bool) (datasave : Nat → UInt8)
    (state : BroadcastState) : BroadcastState :=
  { state with
    toFragmentState := (state.toFragmentState.tlsWifiOneshotinfoResolveUdp host.toOneshotHost
      memory datasave).1 }

/-- `memory` is whether an allocation for this frame succeeds. -/
def tlsWifiLsdBroadcast (host : BroadcastHost) (memory : Bool) (frame : DataFrame)
    (state : BroadcastState) : BroadcastState :=
  if frame.hdr.getDA.isBroadcast then
    if state.guchandshakeflag then
      let (same, state) := state.compareMacAddr frame.hdr.getSA
      if same then
        match state.takeData host frame with
        | (state, .returned) => state
        | (state, .stored) => state.onLsd LsdState.connectIfComplete
        | (state, .complete datasave) =>
            ((state.resolve host memory datasave).restart frame.hdr.hasTods).onLsd
              LsdState.connectIfComplete
      else state.onLsd LsdState.connectIfComplete
    else (state.handshake frame).onLsd LsdState.connectIfComplete
  else state

def tlsWifiDataframeRecv (host : BroadcastHost) (memory : Bool) (frame : DataFrame)
    (state : BroadcastState) : BroadcastState :=
  if !state.guconeshotflag then state
  else if !frame.hdr.isData then state
  else
    let state := state.onLsd (LsdState.tlsWifiLsdProbe host.toOneshotHost frame)
    let state := state.onLsd fun lsd => (lsd.tlsWifiLsdOneshot host.toOneshotHost frame.hdr).1
    state.tlsWifiLsdBroadcast host memory frame

def tlsOneshotStopClearData (state : BroadcastState) : BroadcastState :=
  let state := state.onLsd LsdState.tlsOneshotStopClearData
  { state with smtcfgArray := 0 }.clearOneshotInfo true

def tlsOneshotInitData (memory : Option (Nat → UInt8)) (state : BroadcastState) :
    BroadcastState :=
  let state := state.onLsd (LsdState.tlsOneshotInitData memory)
  { state with smtcfgArray := 0 }.clearOneshotInfo true

end BroadcastState

end SmartMeter
