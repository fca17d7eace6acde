import SmartMeter.Oneshot.BufferSafety

/-!
Where the broadcast decoder stores the halves of a byte: the position and the shift of each
direction, over every run.
-/

namespace SmartMeter

open Runs

/-- What the decoder takes a frame for. A handshake is `start` with its last frame. -/
inductive FrameUse where
  | nothing
  | start
  | tag (dsflag : Bool)
  | nibble (dsflag : Bool)
  | endMark (dsflag : Bool)
deriving DecidableEq

namespace BroadcastState

def heard (host : BroadcastHost) (frame : DataFrame) (state : BroadcastState) : BroadcastState :=
  (state.onLsd (LsdState.tlsWifiLsdProbe host.toOneshotHost frame)).onLsd fun lsd =>
    (lsd.tlsWifiLsdOneshot host.toOneshotHost frame.hdr).1

def repeats (frame : DataFrame) (state : BroadcastState) : Bool :=
  frame.hdr.hasRetry && state.seqnum frame.hdr.hasTods == frame.hdr.seqCtrl.toUInt32

/-- The frame is from the phone, of a length that says something, and no copy of the last one. -/
def takesIn (frame : DataFrame) (state : BroadcastState) : Bool :=
  (state.compareMacAddr frame.hdr.getSA).1 && state.acceptsLength frame.frmLen &&
    !state.repeats frame

def wantsTag (frmLen : UInt32) (state : BroadcastState) : Prop :=
  let smtcfg := state.smtcfgArray.toUInt32
  frmLen = smtcfg ∧ state.gucssidokflag = false ∨
    frmLen = smtcfg + 1 ∧ state.gucpwdokflag = false ∨ frmLen = smtcfg + 2

instance (frmLen : UInt32) (state : BroadcastState) : Decidable (state.wantsTag frmLen) :=
  inferInstanceAs (Decidable (_ ∨ _ ∨ _))

def useOfData (frame : DataFrame) (state : BroadcastState) : FrameUse :=
  if !state.syncnum then
    if state.wantsTag frame.frmLen then .tag frame.hdr.hasTods else .nothing
  else if frame.frmLen = state.smtcfgArray.toUInt32 - 1 then .endMark frame.hdr.hasTods
  else .nibble frame.hdr.hasTods

def use (frame : DataFrame) (state : BroadcastState) : FrameUse :=
  if frame.hdr.getDA.isBroadcast then
    if state.guchandshakeflag then
      if state.takesIn frame then state.useOfData frame else .nothing
    else if (state.handshake frame).guchandshakeflag then .start else .nothing
  else .nothing

def useOf (host : BroadcastHost) (state : BroadcastState) : ProvisionEvent → FrameUse
  | .frame _ frame =>
      if state.guconeshotflag && frame.hdr.isData then (state.heard host frame).use frame
      else .nothing
  | _ => .nothing

/-- The fragment of a direction has fewer bytes than its head says. -/
def Short (dsflag : Bool) (state : BroadcastState) : Prop :=
  state.datacnt dsflag < 3 ∨ state.datacnt dsflag < (state.datasave dsflag 1 &&& 0xF) + 3

instance (dsflag : Bool) (state : BroadcastState) : Decidable (state.Short dsflag) :=
  inferInstanceAs (Decidable (_ ∨ _))

/-- The position and the shift with which a frame's half byte is stored. -/
def StoresWell (host : BroadcastHost) (state : BroadcastState) (event : ProvisionEvent) : Prop :=
  match state.useOf host event with
  | .nibble dsflag | .endMark dsflag =>
      state.datacnt dsflag < 7 ∧ (state.databitcnt dsflag = 0 ∨ state.databitcnt dsflag = 4)
  | _ => True

end BroadcastState

/-- A run is watched for the directions whose fragment was cut off within a byte. -/
structure NibbleWatch where
  state : BroadcastState
  cutOff : Bool → Bool

/-- An end mark cuts a fragment off where it comes early and the upper half of a byte is there; a
tag in the same direction, or a handshake, begins anew. -/
def FrameUse.cut (state : BroadcastState) (cutOff : Bool → Bool) : FrameUse → Bool → Bool
  | .nothing => cutOff
  | .start => fun _ => false
  | .tag dsflag => Function.update cutOff dsflag false
  | .nibble _ => cutOff
  | .endMark dsflag =>
      if state.databitcnt dsflag = 0 ∧ state.Short dsflag then Function.update cutOff dsflag true
      else cutOff

namespace NibbleWatch

def boot : NibbleWatch := ⟨.boot, fun _ => false⟩

def step (host : BroadcastHost) (watched : NibbleWatch) (event : ProvisionEvent) : NibbleWatch where
  state := watched.state.provision host event
  cutOff := (watched.state.useOf host event).cut watched.state watched.cutOff

/-- Nothing is stored in a direction that is cut off. -/
def Whole (host : BroadcastHost) (watched : NibbleWatch) (event : ProvisionEvent) : Prop :=
  match watched.state.useOf host event with
  | .nibble dsflag | .endMark dsflag => watched.cutOff dsflag = false
  | _ => True

def StoresWell (host : BroadcastHost) (watched : NibbleWatch) (event : ProvisionEvent) : Prop :=
  watched.state.StoresWell host event

end NibbleWatch

/-! What each use does to the positions and the shifts. -/

def FrameUse.Moves (before after : BroadcastState) : FrameUse → Prop
  | .nothing => after.databitcnt = before.databitcnt ∧ after.datacnt = before.datacnt
  | .start => (∀ dsflag, after.databitcnt dsflag = 4) ∧ ∀ dsflag, after.datacnt dsflag = 0
  | .tag dsflag =>
      after.databitcnt = Function.update before.databitcnt dsflag 0 ∧
        after.datacnt = Function.update before.datacnt dsflag 0
  | .nibble dsflag =>
      let shift := before.databitcnt dsflag - 4
      after.databitcnt = Function.update before.databitcnt dsflag (if shift < 0 then 4 else shift) ∧
        ∃ count, after.datacnt = Function.update before.datacnt dsflag count ∧
          (before.datacnt dsflag < 7 → count < 7)
  | .endMark dsflag =>
      after.databitcnt = Function.update before.databitcnt dsflag
        (if before.Short dsflag then before.databitcnt dsflag - 4 else 4) ∧
        after.datacnt = Function.update before.datacnt dsflag 0

namespace BroadcastState

variable {host : BroadcastHost} {memory : Bool} {frame : DataFrame} {state : BroadcastState}

def Shaking (before state : BroadcastState) : Prop :=
  state.guchandshakeflag = false ∧ FrameUse.nothing.Moves before state ∨
    state.guchandshakeflag = true ∧ FrameUse.start.Moves before state

theorem countBroadcast_shaking {before : BroadcastState} (shaking : Shaking before state)
    (frame : DataFrame) (i : Nat) : Shaking before (countBroadcast frame state i) := by
  have flag :
      (state.compareMacAddr frame.hdr.getSA).2.guchandshakeflag = state.guchandshakeflag := by
    change (state.toLsdState.compareMacAddr _).2.guchandshakeflag = _
    rw [LsdState.compareMacAddr]
    split <;> rfl
  have compared : Shaking before (state.compareMacAddr frame.hdr.getSA).2 := by
    rw [Shaking, flag]
    exact shaking
  rw [countBroadcast]
  split
  · dsimp only
    split
    · split
      · exact .inr ⟨rfl, fun _ => rfl, fun _ => rfl⟩
      · exact compared
    · exact compared
  · exact shaking

theorem countAll_shaking {before : BroadcastState} (shaking : Shaking before state)
    (frame : DataFrame) (indices : List Nat) :
    Shaking before (indices.foldl (countBroadcast frame) state) := by
  induction indices generalizing state with
  | nil => exact shaking
  | cons i rest ih => exact ih (countBroadcast_shaking shaking frame i)

theorem handshake_moves (frame : DataFrame) (idle : state.guchandshakeflag = false) :
    (if (state.handshake frame).guchandshakeflag then FrameUse.start else .nothing).Moves state
      (state.handshake frame) := by
  have shaking : Shaking state state := .inl ⟨idle, rfl, rfl⟩
  rcases countAll_shaking shaking frame (List.range 4) with ⟨flag, moves⟩ | ⟨flag, moves⟩
  · rw [handshake, flag]
    exact moves
  · rw [handshake, flag]
    exact moves

theorem syncTag_moves (frmLen : UInt32) (dsflag : Bool) (state : BroadcastState) :
    (if state.wantsTag frmLen then FrameUse.tag dsflag else .nothing).Moves state
      (state.syncTag frmLen dsflag) := by
  rw [syncTag]
  by_cases first : frmLen = state.smtcfgArray.toUInt32 ∧ state.gucssidokflag = false
  · have wants : state.wantsTag frmLen := .inl first
    rw [if_pos first, if_pos wants]
    exact ⟨rfl, rfl⟩
  by_cases second : frmLen = state.smtcfgArray.toUInt32 + 1 ∧ state.gucpwdokflag = false
  · have wants : state.wantsTag frmLen := .inr (.inl second)
    rw [if_neg first, if_pos second, if_pos wants]
    exact ⟨rfl, rfl⟩
  by_cases third : frmLen = state.smtcfgArray.toUInt32 + 2
  · have wants : state.wantsTag frmLen := .inr (.inr third)
    rw [if_neg first, if_neg second, if_pos third, if_pos wants]
    exact ⟨rfl, rfl⟩
  · have refuses : ¬state.wantsTag frmLen := by
      rintro (tag | tag | tag)
      · exact first tag
      · exact second tag
      · exact third tag
    rw [if_neg first, if_neg second, if_neg third, if_neg refuses]
    exact ⟨rfl, rfl⟩

def afterOutcome (dsflag : Bool) (result : BroadcastState × FrameOutcome) : BroadcastState :=
  match result.2 with
  | .complete _ => result.1.restart dsflag
  | _ => result.1

theorem saveNibble_databitcnt (dsflag : Bool) (value : UInt32) :
    (state.saveNibble host dsflag value).databitcnt =
      Function.update state.databitcnt dsflag (state.databitcnt dsflag - 4) := rfl

theorem saveNibble_datacnt (dsflag : Bool) (value : UInt32) :
    (state.saveNibble host dsflag value).datacnt = state.datacnt := rfl

/-- The last half byte does not change what the head says of the length. -/
theorem saveNibble_short (dsflag : Bool) (value : UInt32) :
    (state.saveNibble host dsflag value).Short dsflag ↔ state.Short dsflag := by
  rw [Short, Short, saveNibble_datacnt]
  by_cases few : state.datacnt dsflag < 3
  · exact iff_of_true (.inl few) (.inl few)
  · have behind : 1 ≠ (state.datacnt dsflag).toNat := by
      rw [UInt8.lt_iff_toNat_lt] at few
      change ¬_ < 3 at few
      omega
    have kept :
        (state.saveNibble host dsflag value).datasave dsflag 1 = state.datasave dsflag 1 := by
      simp [saveNibble, behind]
    rw [kept]

/-- An end mark drops a fragment that is short, and passes any other on. -/
theorem endFragment_cases {dsflag : Bool} {saved : BroadcastState}
    (kept : state.saveNibble host dsflag 0xF = saved) :
    saved.Short dsflag ∧ state.endFragment host dsflag = (saved.restart dsflag, .returned) ∨
    ¬saved.Short dsflag ∧ state.endFragment host dsflag =
      ({ saved with databitcnt := Function.update saved.databitcnt dsflag 4 },
        .complete (saved.datasave dsflag)) := by
  rw [endFragment, kept]
  by_cases few : saved.datacnt dsflag < 3
  · rw [if_pos few]
    exact .inl ⟨.inl few, rfl⟩
  by_cases early : saved.datacnt dsflag < (saved.datasave dsflag 1 &&& 0xF) + 3
  · rw [if_neg few, if_pos early]
    exact .inl ⟨.inr early, rfl⟩
  · rw [if_neg few, if_neg early]
    exact .inr ⟨fun short => short.elim few early, rfl⟩

theorem endFragment_moves (host : BroadcastHost) (dsflag : Bool) (state : BroadcastState) :
    (FrameUse.endMark dsflag).Moves state
      (afterOutcome dsflag (state.endFragment host dsflag)) := by
  have same := @saveNibble_short host state dsflag 0xF
  generalize kept : state.saveNibble host dsflag 0xF = saved at same
  have shift : saved.databitcnt =
      Function.update state.databitcnt dsflag (state.databitcnt dsflag - 4) := by rw [← kept]; rfl
  have count : saved.datacnt = state.datacnt := by rw [← kept]; rfl
  rw [FrameUse.Moves]
  rcases endFragment_cases kept with ⟨short, dropped⟩ | ⟨whole, passed⟩
  · rw [dropped, if_pos (same.mp short)]
    exact ⟨shift, congrArg (Function.update · dsflag 0) count⟩
  · rw [passed, if_neg fun short => whole (same.mpr short)]
    refine ⟨?_, congrArg (Function.update · dsflag 0) count⟩
    change Function.update saved.databitcnt dsflag 4 = _
    rw [shift, Function.update_idem]

/-- What a half byte can do, by the state in which it is saved and the one behind the byte. -/
theorem takeNibble_cases {frmLen : UInt32} {dsflag : Bool} {saved next : BroadcastState}
    (kept : state.saveNibble host dsflag (frmLen - state.smtcfgArray.toUInt32) = saved)
    (after : saved.nextByte dsflag = next) :
    ¬saved.databitcnt dsflag < 0 ∧ state.takeNibble host frmLen dsflag = (saved, .stored) ∨
    saved.databitcnt dsflag < 0 ∧
      ((next.datacnt dsflag = 2 ∧ next.tlsWifiOneshotPacketHeadResolve (next.datasave dsflag) ≠ 0 ∧
          state.takeNibble host frmLen dsflag = (next.restart dsflag, .stored)) ∨
        next.datacnt dsflag = 7 ∧
          state.takeNibble host frmLen dsflag = (next, .complete (next.datasave dsflag)) ∨
        (next.datacnt dsflag = 2 → next.tlsWifiOneshotPacketHeadResolve (next.datasave dsflag) = 0) ∧
          next.datacnt dsflag ≠ 7 ∧ state.takeNibble host frmLen dsflag = (next, .stored)) := by
  rw [takeNibble, kept, after]
  by_cases last : saved.databitcnt dsflag < 0
  · refine .inr ⟨last, ?_⟩
    rw [if_pos last]
    by_cases refused : next.datacnt dsflag = 2 ∧
        next.tlsWifiOneshotPacketHeadResolve (next.datasave dsflag) ≠ 0
    · rw [if_pos refused]
      exact .inl ⟨refused.1, refused.2, rfl⟩
    · rw [if_neg refused]
      by_cases full : next.datacnt dsflag = 7
      · rw [if_pos full]
        exact .inr (.inl ⟨full, rfl⟩)
      · rw [if_neg full]
        refine .inr (.inr ⟨fun two => ?_, full, rfl⟩)
        exact Classical.byContradiction fun other => refused ⟨two, other⟩
  · rw [if_neg last]
    exact .inl ⟨last, rfl⟩

theorem takeNibble_moves (host : BroadcastHost) (frmLen : UInt32) (dsflag : Bool)
    (state : BroadcastState) : (FrameUse.nibble dsflag).Moves state
      (afterOutcome dsflag (state.takeNibble host frmLen dsflag)) := by
  have cases_ := @takeNibble_cases host state frmLen dsflag _ _ rfl rfl
  generalize kept : state.saveNibble host dsflag (frmLen - state.smtcfgArray.toUInt32) = saved
    at cases_
  have shift : saved.databitcnt =
      Function.update state.databitcnt dsflag (state.databitcnt dsflag - 4) := by rw [← kept]; rfl
  have count : saved.datacnt = state.datacnt := by rw [← kept]; rfl
  have next : (saved.nextByte dsflag).databitcnt = Function.update state.databitcnt dsflag 4 := by
    rw [nextByte, shift, Function.update_idem]
  have position : (saved.nextByte dsflag).datacnt =
      Function.update state.datacnt dsflag (state.datacnt dsflag + 1) := by
    rw [nextByte, count]
  have again : ((saved.nextByte dsflag).restart dsflag).datacnt =
      Function.update state.datacnt dsflag 0 := by
    change Function.update (saved.nextByte dsflag).datacnt dsflag 0 = _
    rw [position, Function.update_idem]
  rw [FrameUse.Moves]
  rw [shift, Function.update_self] at cases_
  rcases cases_ with ⟨upper, taken⟩ | ⟨lower, ⟨-, -, taken⟩ | ⟨-, taken⟩ | ⟨-, unfinished, taken⟩⟩
  · rw [taken, if_neg upper]
    refine ⟨shift, state.datacnt dsflag, ?_, id⟩
    rw [Function.update_eq_self]
    exact count
  · rw [taken, if_pos lower]
    exact ⟨next, 0, again, fun _ => by decide⟩
  · rw [taken, if_pos lower]
    exact ⟨next, 0, again, fun _ => by decide⟩
  · rw [taken, if_pos lower]
    refine ⟨next, _, position, fun below => ?_⟩
    rw [position, Function.update_self] at unfinished
    have apart : (state.datacnt dsflag + 1).toNat ≠ 7 := fun seven =>
      unfinished (UInt8.toNat_inj.mp seven)
    rw [UInt8.lt_iff_toNat_lt] at below ⊢
    rw [UInt8.toNat_add] at apart ⊢
    change _ < 7 at below
    change (_ + 1) % 256 ≠ 7 at apart
    change (_ + 1) % 256 < 7
    omega

def noted (frame : DataFrame) (state : BroadcastState) : BroadcastState :=
  { state with
    seqnum := Function.update state.seqnum frame.hdr.hasTods frame.hdr.seqCtrl.toUInt32 }

theorem takeData_eq (host : BroadcastHost) (frame : DataFrame) (state : BroadcastState) :
    state.takeData host frame =
      if state.acceptsLength frame.frmLen && !state.repeats frame then
        let state := state.noted frame
        if !state.syncnum then (state.syncTag frame.frmLen frame.hdr.hasTods, .returned)
        else if frame.frmLen = state.smtcfgArray.toUInt32 - 1 then
          state.endFragment host frame.hdr.hasTods
        else state.takeNibble host frame.frmLen frame.hdr.hasTods
      else (state, .returned) := by
  have copies : (frame.hdr.hasRetry && state.seqnum frame.hdr.hasTods ==
      frame.hdr.seqCtrl.toUInt32) = state.repeats frame := rfl
  rw [takeData, copies]
  cases state.acceptsLength frame.frmLen with
  | false => rfl
  | true =>
      cases state.repeats frame with
      | true => rfl
      | false => rfl

theorem takeData_moves (host : BroadcastHost) (frame : DataFrame) (state : BroadcastState) :
    (if state.acceptsLength frame.frmLen && !state.repeats frame then state.useOfData frame
      else .nothing).Moves state
        (afterOutcome frame.hdr.hasTods (state.takeData host frame)) := by
  rw [takeData_eq]
  by_cases taken : (state.acceptsLength frame.frmLen && !state.repeats frame) = true
  · rw [if_pos taken, if_pos taken, useOfData]
    change FrameUse.Moves (state.noted frame) _ (if !(state.noted frame).syncnum then _ else _)
    dsimp only
    by_cases waits : (!(state.noted frame).syncnum) = true
    · rw [if_pos waits, if_pos waits]
      exact syncTag_moves frame.frmLen frame.hdr.hasTods (state.noted frame)
    · rw [if_neg waits, if_neg waits]
      by_cases ends : frame.frmLen = (state.noted frame).smtcfgArray.toUInt32 - 1
      · rw [if_pos ends]
        have mark : frame.frmLen = state.smtcfgArray.toUInt32 - 1 := ends
        rw [if_pos mark]
        exact endFragment_moves host frame.hdr.hasTods (state.noted frame)
      · rw [if_neg ends]
        have data : ¬frame.frmLen = state.smtcfgArray.toUInt32 - 1 := ends
        rw [if_neg data]
        exact takeNibble_moves host frame.frmLen frame.hdr.hasTods (state.noted frame)
  · rw [if_neg taken, if_neg taken]
    exact ⟨rfl, rfl⟩

/-- A sender that is known changes nothing. -/
theorem compareMacAddr_same {macaddr : EtherAddr} (same : (state.compareMacAddr macaddr).1 = true) :
    (state.compareMacAddr macaddr).2 = state := by
  by_cases unknown : state.gSrcMac = .zero
  · have refused : (state.compareMacAddr macaddr).1 = false := by
      simp only [compareMacAddr, LsdState.compareMacAddr, if_pos unknown]
    rw [refused] at same
    cases same
  · simp only [compareMacAddr, LsdState.compareMacAddr, if_neg unknown, onLsd]

def settle (host : BroadcastHost) (memory : Bool) (dsflag : Bool) :
    BroadcastState × FrameOutcome → BroadcastState
  | (state, .returned) => state
  | (state, .stored) => state.onLsd LsdState.connectIfComplete
  | (state, .complete datasave) =>
      ((state.resolve host memory datasave).restart dsflag).onLsd LsdState.connectIfComplete

/-- A frame from the phone, once the handshake is over. -/
theorem tlsWifiLsdBroadcast_known (broadcast : frame.hdr.getDA.isBroadcast = true)
    (shaken : state.guchandshakeflag = true)
    (same : (state.compareMacAddr frame.hdr.getSA).1 = true) :
    state.tlsWifiLsdBroadcast host memory frame =
      settle host memory frame.hdr.hasTods (state.takeData host frame) := by
  rw [tlsWifiLsdBroadcast, if_pos broadcast, if_pos shaken]
  dsimp only
  rw [if_pos same, compareMacAddr_same same]
  rfl

theorem tlsWifiLsdBroadcast_stranger (broadcast : frame.hdr.getDA.isBroadcast = true)
    (shaken : state.guchandshakeflag = true)
    (other : (state.compareMacAddr frame.hdr.getSA).1 = false) :
    state.tlsWifiLsdBroadcast host memory frame =
      (state.compareMacAddr frame.hdr.getSA).2.onLsd LsdState.connectIfComplete := by
  rw [tlsWifiLsdBroadcast, if_pos broadcast, if_pos shaken]
  dsimp only
  rw [if_neg (by rw [other]; exact Bool.false_ne_true)]

theorem takesIn_eq (same : (state.compareMacAddr frame.hdr.getSA).1 = true) :
    state.takesIn frame = (state.acceptsLength frame.frmLen && !state.repeats frame) := by
  rw [takesIn, same, Bool.true_and]

theorem moves_onLsd {before after : BroadcastState} {use : FrameUse}
    (moves : use.Moves before after) (change : LsdState → LsdState) :
    use.Moves before (after.onLsd change) := by
  cases use <;> exact moves

theorem moves_resolve {before after : BroadcastState} {use : FrameUse} {dsflag : Bool}
    (moves : use.Moves before (after.restart dsflag)) (datasave : Nat → UInt8) :
    use.Moves before ((after.resolve host memory datasave).restart dsflag) := by
  cases use <;> exact moves

theorem tlsWifiLsdBroadcast_moves (host : BroadcastHost) (memory : Bool) (frame : DataFrame)
    (state : BroadcastState) :
    (state.use frame).Moves state (state.tlsWifiLsdBroadcast host memory frame) := by
  have still : FrameUse.nothing.Moves state state := ⟨rfl, rfl⟩
  rw [use]
  by_cases broadcast : frame.hdr.getDA.isBroadcast = true
  · rw [if_pos broadcast]
    cases shaken : state.guchandshakeflag with
    | false =>
        rw [tlsWifiLsdBroadcast, if_pos broadcast, shaken, if_neg Bool.false_ne_true,
          if_neg Bool.false_ne_true]
        exact moves_onLsd (handshake_moves frame shaken) _
    | true =>
        rw [if_pos rfl]
        cases same : (state.compareMacAddr frame.hdr.getSA).1 with
        | true =>
            have moves := takeData_moves host frame state
            rw [tlsWifiLsdBroadcast_known broadcast shaken same, takesIn_eq same]
            generalize state.takeData host frame = result at moves
            obtain ⟨after, outcome⟩ := result
            cases outcome with
            | returned => exact moves
            | stored => exact moves_onLsd moves _
            | complete datasave => exact moves_onLsd (moves_resolve moves datasave) _
        | false =>
            have refuses : state.takesIn frame = false := by
              rw [takesIn, same, Bool.false_and, Bool.false_and]
            rw [tlsWifiLsdBroadcast_stranger broadcast shaken same, refuses,
              if_neg Bool.false_ne_true]
            exact still
  · rw [if_neg broadcast, tlsWifiLsdBroadcast, if_neg broadcast]
    exact still

theorem provision_moves (host : BroadcastHost) (event : ProvisionEvent) (state : BroadcastState) :
    (state.useOf host event).Moves state (state.provision host event) := by
  have still : FrameUse.nothing.Moves state state := ⟨rfl, rfl⟩
  cases event with
  | frame memory frame =>
      have moves := tlsWifiLsdBroadcast_moves host memory frame (state.heard host frame)
      rw [useOf, provision, tlsWifiDataframeRecv]
      cases state.guconeshotflag with
      | false => exact still
      | true =>
          cases frame.hdr.isData with
          | false => exact still
          | true => exact moves
  | stop => exact still
  | start memory => exact still

end BroadcastState

namespace FrameUse

variable {before after : BroadcastState} {use : FrameUse} {cutOff : Bool → Bool}

/-- Positions stay inside `datasave`. -/
theorem Moves.inside (moves : use.Moves before after)
    (inside : ∀ dsflag, before.datacnt dsflag < 7) (dsflag : Bool) : after.datacnt dsflag < 7 := by
  have updated (direction : Bool) {count : UInt8} (below : count < 7) :
      Function.update before.datacnt direction count dsflag < 7 :=
    (Function.forall_update_iff before.datacnt fun _ count => count < 7).mpr
      ⟨below, fun other _ => inside other⟩ dsflag
  cases use with
  | nothing =>
      rw [moves.2]
      exact inside dsflag
  | start =>
      rw [moves.2]
      decide
  | tag direction =>
      rw [moves.2]
      exact updated direction (by decide)
  | nibble direction =>
      obtain ⟨-, count, same, below⟩ := moves
      rw [same]
      exact updated direction (below (inside direction))
  | endMark direction =>
      rw [moves.2]
      exact updated direction (by decide)

/-- A shift is that of one of the halves, or, where the fragment was cut off, below both. -/
def ShiftOf (cutOff : Bool) (databitcnt : Int8) : Prop :=
  if cutOff then databitcnt = -4 else databitcnt = 0 ∨ databitcnt = 4

theorem shiftOf_whole_iff {cut : Bool} {databitcnt : Int8} (shift : ShiftOf cut databitcnt) :
    databitcnt = 0 ∨ databitcnt = 4 ↔ cut = false := by
  cases cut with
  | false => exact iff_of_true shift rfl
  | true =>
      have below : databitcnt = -4 := shift
      subst below
      decide

theorem shiftOf_update {databitcnt : Bool → Int8} {direction cut : Bool} {shift : Int8}
    (shifts : ∀ dsflag, ShiftOf (cutOff dsflag) (databitcnt dsflag)) (fits : ShiftOf cut shift)
    (dsflag : Bool) : ShiftOf (Function.update cutOff direction cut dsflag)
      (Function.update databitcnt direction shift dsflag) := by
  refine (Function.forall_update_iff databitcnt fun dsflag =>
    ShiftOf (Function.update cutOff direction cut dsflag)).mpr ⟨?_, ?_⟩ dsflag
  · rwa [Function.update_self]
  · intro other apart
    rw [Function.update_of_ne apart]
    exact shifts other

/-- A direction that is not cut off gets the shift of a half and stays as it is. -/
theorem shiftOf_update_whole {databitcnt : Bool → Int8} {direction : Bool} {shift : Int8}
    (shifts : ∀ dsflag, ShiftOf (cutOff dsflag) (databitcnt dsflag))
    (clear : cutOff direction = false) (half : shift = 0 ∨ shift = 4) (dsflag : Bool) :
    ShiftOf (cutOff dsflag) (Function.update databitcnt direction shift dsflag) := by
  refine (Function.forall_update_iff databitcnt fun dsflag => ShiftOf (cutOff dsflag)).mpr
    ⟨?_, fun other _ => shifts other⟩ dsflag
  rw [clear]
  exact half

/-- An end mark resets the shift, or leaves it between the halves where it cuts a fragment off. -/
theorem Moves.shifts_endMark {direction : Bool}
    (moves : (FrameUse.endMark direction).Moves before after)
    (shifts : ∀ dsflag, ShiftOf (cutOff dsflag) (before.databitcnt dsflag))
    (clear : cutOff direction = false) (dsflag : Bool) :
    ShiftOf ((FrameUse.endMark direction).cut before cutOff dsflag) (after.databitcnt dsflag) := by
  have half := (shiftOf_whole_iff (shifts direction)).mpr clear
  have same := moves.1
  rw [cut]
  by_cases short : before.Short direction
  · rw [if_pos short] at same
    rw [same]
    rcases half with low | high
    · rw [if_pos ⟨low, short⟩, low]
      exact @shiftOf_update cutOff _ direction true _ shifts rfl dsflag
    · rw [if_neg fun both => absurd (high.symm.trans both.1) (by decide), high]
      exact shiftOf_update_whole shifts clear (.inl rfl) dsflag
  · rw [if_neg short] at same
    rw [same, if_neg fun both => short both.2]
    exact shiftOf_update_whole shifts clear (.inr rfl) dsflag

/-- A store in a direction that is not cut off leaves the shifts as the watch says. -/
theorem Moves.shifts (moves : use.Moves before after)
    (shifts : ∀ dsflag, ShiftOf (cutOff dsflag) (before.databitcnt dsflag))
    (whole : ∀ dsflag, use = .nibble dsflag ∨ use = .endMark dsflag → cutOff dsflag = false)
    (dsflag : Bool) : ShiftOf (use.cut before cutOff dsflag) (after.databitcnt dsflag) := by
  cases use with
  | nothing =>
      rw [moves.1]
      exact shifts dsflag
  | start =>
      rw [moves.1]
      exact .inr rfl
  | tag direction =>
      rw [moves.1]
      exact @shiftOf_update cutOff _ direction false 0 shifts (.inl rfl) dsflag
  | nibble direction =>
      have clear := whole direction (.inl rfl)
      rw [moves.1]
      refine shiftOf_update_whole shifts clear ?_ dsflag
      rcases (shiftOf_whole_iff (shifts direction)).mpr clear with low | high
      · rw [low]
        exact .inr (by decide)
      · rw [high]
        exact .inl (by decide)
  | endMark direction => exact moves.shifts_endMark shifts (whole direction (.inr rfl)) dsflag

end FrameUse

namespace NibbleWatch

variable {host : BroadcastHost} {watched : NibbleWatch}

theorem foldl_state (host : BroadcastHost) (events : List ProvisionEvent) (watched : NibbleWatch) :
    (events.foldl (step host) watched).state =
      events.foldl (BroadcastState.provision host) watched.state := by
  induction events generalizing watched with
  | nil => rfl
  | cons event rest ih => exact ih (watched.step host event)

structure Consistent (watched : NibbleWatch) : Prop where
  inside : ∀ dsflag, watched.state.datacnt dsflag < 7
  shifts : ∀ dsflag, FrameUse.ShiftOf (watched.cutOff dsflag) (watched.state.databitcnt dsflag)

theorem boot_inside (dsflag : Bool) : BroadcastState.boot.datacnt dsflag < 7 :=
  (by decide : (0 : UInt8) < 7)

theorem consistent_boot : boot.Consistent :=
  ⟨boot_inside, fun _ => .inr rfl⟩

theorem Consistent.step (consistent : watched.Consistent) {event : ProvisionEvent}
    (whole : watched.Whole host event) : (watched.step host event).Consistent := by
  have moves := BroadcastState.provision_moves host event watched.state
  refine ⟨moves.inside consistent.inside, moves.shifts consistent.shifts ?_⟩
  intro dsflag stores
  rw [Whole] at whole
  rcases stores with nibble | endMark
  · rwa [nibble] at whole
  · rwa [endMark] at whole

theorem storesWell_iff (consistent : watched.Consistent) (event : ProvisionEvent) :
    watched.StoresWell host event ↔ watched.Whole host event := by
  rw [StoresWell, BroadcastState.StoresWell, Whole]
  have stores (dsflag : Bool) : (watched.state.datacnt dsflag < 7 ∧
      (watched.state.databitcnt dsflag = 0 ∨ watched.state.databitcnt dsflag = 4)) ↔
        watched.cutOff dsflag = false := by
    rw [and_iff_right (consistent.inside dsflag)]
    exact FrameUse.shiftOf_whole_iff (consistent.shifts dsflag)
  cases watched.state.useOf host event with
  | nibble dsflag => exact stores dsflag
  | endMark dsflag => exact stores dsflag
  | _ => exact Iff.rfl

/-- Every half byte of a run is stored at a position and a shift of its buffer if and only if none
is stored in a direction that is cut off. -/
theorem storesWell_along_iff (host : BroadcastHost) (events : List ProvisionEvent) :
    Along (step host) (StoresWell host) boot events ↔
      Along (step host) (Whole host) boot events := by
  refine @along_iff_along_of_invariant _ _ (step host) Consistent _ _ ?_ ?_ _ consistent_boot events
  · exact fun _ event consistent => storesWell_iff consistent event
  · exact fun _ _ consistent whole => consistent.step whole

end NibbleWatch

theorem BroadcastState.datacnt_lt (host : BroadcastHost) (events : List ProvisionEvent)
    (dsflag : Bool) : (events.foldl (provision host) boot).datacnt dsflag < 7 := by
  have kept (state : BroadcastState) (event : ProvisionEvent)
      (inside : ∀ dsflag, state.datacnt dsflag < 7) :
      ∀ dsflag, (state.provision host event).datacnt dsflag < 7 :=
    (provision_moves host event state).inside inside
  exact reached_of_invariant kept NibbleWatch.boot_inside events dsflag

end SmartMeter
