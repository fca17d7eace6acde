import SmartMeter.Library.Runs
import SmartMeter.Oneshot.DecoderSafety
import SmartMeter.Oneshot.TableSafety

/-!
The frames that keep every store of the provisioning code inside its buffer, in any run.
-/

namespace SmartMeter

namespace FragmentState

structure Safe (state : FragmentState) : Prop where
  lsd : state.toLsdState.Safe
  ssid : state.ssid.Unused
  pwd : state.pwd.Safe 16
  custom : state.custom.Safe 16

variable {memory : Bool} {datasave : Nat → UInt8} {state : FragmentState}

theorem tlsWifiSsidResolve_safe (safe : state.Safe) {data : List UInt8} {seqnum seqtotal : UInt8}
    (entry : seqnum.toNat < 8) (single : memory = true → data = [] ∧ seqnum = 0 ∧ seqtotal = 1) :
    (state.tlsWifiSsidResolve memory data seqnum seqtotal).1.Safe := by
  obtain ⟨unused, short⟩ := FragmentTable.resolve_unused safe.ssid entry single
  rw [tlsWifiSsidResolve]
  split
  · rename_i same
    rw [same] at unused
    exact ⟨safe.lsd, unused, safe.pwd, safe.custom⟩
  · rename_i same
    rw [same] at unused
    exact ⟨safe.lsd, unused, safe.pwd, safe.custom⟩
  · rename_i text same
    rw [same] at unused
    refine ⟨safe.lsd.extend rfl rfl ?_, unused, safe.pwd, safe.custom⟩
    intro store member
    simp only [List.mem_cons, List.not_mem_nil, or_false] at member
    obtain rfl | rfl := member
    · decide
    · have copied := copiedBytes_le 32 text
      change 0 + copiedBytes 32 text ≤ 33
      omega

theorem tlsWifiPwdResolve_safe (safe : state.Safe) {data : List UInt8} {seqnum seqtotal : UInt8}
    (number : seqnum < seqtotal) (bound : seqtotal.toNat ≤ 16) (short : data.length ≤ 4) :
    (state.tlsWifiPwdResolve memory data seqnum seqtotal).1.Safe := by
  have resolved := (FragmentTable.resolve_safe memory pwdKind_fits safe.pwd number bound
    short fun _ => Nat.lt_succ_self _).1
  rw [tlsWifiPwdResolve]
  split
  · rename_i same
    rw [same] at resolved
    exact ⟨safe.lsd, safe.ssid, resolved, safe.custom⟩
  · rename_i same
    rw [same] at resolved
    exact ⟨safe.lsd, safe.ssid, resolved, safe.custom⟩
  · rename_i text same
    rw [same] at resolved
    refine ⟨safe.lsd.extend rfl rfl ?_, safe.ssid, resolved, safe.custom⟩
    intro store member
    have copied := copiedBytes_le 64 text
    rw [List.mem_singleton.mp member]
    change 0 + copiedBytes 64 text ≤ 65
    omega

theorem tlsWifiCustomdataResolve_safe (host : OneshotHost) (safe : state.Safe) {data : List UInt8}
    {seqnum seqtotal : UInt8} (number : seqnum < seqtotal) (bound : seqtotal.toNat ≤ 16)
    (short : data.length ≤ 4) :
    (state.tlsWifiCustomdataResolve host memory data seqnum seqtotal).1.Safe := by
  obtain ⟨resolved, fits⟩ := FragmentTable.resolve_safe memory customKind_fits
    safe.custom number bound short fun _ => Nat.lt_succ_self _
  rw [tlsWifiCustomdataResolve]
  split
  · rename_i same
    rw [same] at resolved
    exact ⟨safe.lsd, safe.ssid, safe.pwd, resolved⟩
  · rename_i same
    rw [same] at resolved
    exact ⟨safe.lsd, safe.ssid, safe.pwd, resolved⟩
  · rename_i text same
    rw [same] at resolved fits
    refine ⟨safe.lsd.extend rfl rfl ?_, safe.ssid, safe.pwd, resolved⟩
    intro store member
    have length := fits text rfl
    simp only [List.mem_cons, List.not_mem_nil, or_false] at member
    obtain rfl | rfl := member
    · change 0 + 65 ≤ 65
      omega
    · change 0 + (text.length + 1) ≤ 65
      omega

/-- A fragment of the name that will be stored has no text, or finds no memory and an entry. -/
def RoomForFragment (memory : Bool) (datasave : Nat → UInt8) (state : FragmentState) : Prop :=
  tagId datasave = 0 → state.received datasave = false → state.gucssidokflag = false →
    datasave (2 + fragmentLen datasave) =
      getCrc8 (Buffer.toList datasave (2 + fragmentLen datasave)) →
    (memory = true → fragmentLen datasave = 0) ∧ seqNum datasave < 8

theorem empty_fragment (head : WellFormedHead datasave) (empty : fragmentLen datasave = 0) :
    fragmentData datasave = [] ∧ seqNum datasave = 0 ∧ seqTotal datasave = 1 := by
  have last : seqNum datasave + 1 = seqTotal datasave := by
    by_contra inner
    have full := head.whole inner
    omega
  have total := seqTotal_le datasave
  have number := UInt8.lt_iff_toNat_lt.mp head.number
  have first : seqNum datasave = 0 := by
    by_contra later
    have positive : 0 < seqNum datasave := UInt8.pos_iff_ne_zero.mpr later
    refine head.nonempty ?_ positive empty
    rw [UInt8.lt_iff_toNat_lt] at positive ⊢
    change 0 < _ at positive
    change 1 < _
    omega
  refine ⟨?_, first, ?_⟩
  · rw [fragmentData, empty]
    rfl
  · rw [← last, first]
    rfl

theorem markReceived_safe (safe : state.Safe) (datasave : Nat → UInt8) :
    (state.markReceived datasave).Safe :=
  ⟨safe.lsd, safe.ssid, safe.pwd, safe.custom⟩

theorem resolveUdp_safe (host : OneshotHost) (safe : state.Safe) (head : WellFormedHead datasave)
    (room : RoomForFragment memory datasave state) :
    (state.tlsWifiOneshotinfoResolveUdp host memory datasave).1.Safe := by
  have marked := markReceived_safe safe datasave
  have bound := seqTotal_le datasave
  have short : (fragmentData datasave).length ≤ 4 := by
    rw [fragmentData, Buffer.toList_length]
    exact head.short
  rw [tlsWifiOneshotinfoResolveUdp]
  split
  · exact safe
  rename_i missing
  split
  · rename_i checked
    rw [resolveTag]
    obtain tag | tag | tag : tagId datasave = 0 ∨ tagId datasave = 1 ∨ tagId datasave = 2 := by
      have known := head.tag
      omega
    · simp only [tag]
      split
      · exact marked
      · rename_i unknown
        obtain ⟨blank, entry⟩ := room tag (Bool.eq_false_iff.mpr missing)
          (Bool.eq_false_iff.mpr unknown) checked
        apply tlsWifiSsidResolve_safe marked (UInt8.lt_iff_toNat_lt.mp entry)
        intro allocated
        exact empty_fragment head (blank allocated)
    · simp only [tag]
      split
      · exact marked
      · exact tlsWifiPwdResolve_safe marked head.number bound short
    · simp only [tag]
      exact tlsWifiCustomdataResolve_safe host marked head.number bound short
  · exact safe

end FragmentState

theorem WellFormedHead.congr {first second : Nat → UInt8} (head : WellFormedHead first)
    (zero : second 0 = first 0) (one : second 1 = first 1) : WellFormedHead second := by
  have tag : tagId second = tagId first := by rw [tagId, tagId, zero]
  have total : seqTotal second = seqTotal first := by rw [seqTotal, seqTotal, zero]
  have number : seqNum second = seqNum first := by rw [seqNum, seqNum, one]
  have len : fragmentLen second = fragmentLen first := by rw [fragmentLen, fragmentLen, one]
  constructor
  · rw [tag]
    exact head.tag
  · rw [number, total]
    exact head.number
  · rw [len]
    exact head.short
  · rw [number, total, len]
    exact head.whole
  · rw [total, number, len]
    exact head.nonempty

namespace BroadcastState

/-- What holds of the fragment gathered in one direction: its position is inside `datasave`, and
once its head is there it has passed the check. -/
def Gathers (direction : Bool) (state : BroadcastState) : Prop :=
  (state.datacnt direction).toNat ≤ 6 ∧
    (2 ≤ (state.datacnt direction).toNat → WellFormedHead (state.datasave direction))

structure Guarded (state : BroadcastState) : Prop where
  tables : state.toFragmentState.Safe
  gathers : ∀ direction, state.Gathers direction

variable {host : BroadcastHost} {memory : Bool} {frame : DataFrame} {state : BroadcastState}

theorem onLsd_guarded (guarded : state.Guarded) {change : LsdState → LsdState}
    (kept : (change state.toLsdState).Safe) : (state.onLsd change).Guarded :=
  ⟨⟨kept, guarded.tables.ssid, guarded.tables.pwd, guarded.tables.custom⟩, guarded.gathers⟩

theorem compareMacAddr_guarded (guarded : state.Guarded) (macaddr : EtherAddr) :
    (state.compareMacAddr macaddr).2.Guarded := by
  change (state.onLsd fun lsd => (lsd.compareMacAddr macaddr).2).Guarded
  apply onLsd_guarded guarded
  exact LsdState.compareMacAddr_safe guarded.tables.lsd macaddr

theorem clearOneshotInfo_guarded (guarded : state.Guarded) (cleardata : Bool) :
    (state.clearOneshotInfo cleardata).Guarded := by
  rw [clearOneshotInfo]
  dsimp only
  split
  · have unused := FragmentTable.free_unused ssidKind guarded.tables.ssid
    exact ⟨⟨guarded.tables.lsd, ⟨rfl, unused.slots, unused.joined, unused.stores⟩,
      FragmentTable.drop_safe pwdKind_fits guarded.tables.pwd, guarded.tables.custom⟩,
      guarded.gathers⟩
  · exact ⟨⟨guarded.tables.lsd, guarded.tables.ssid, guarded.tables.pwd, guarded.tables.custom⟩,
      guarded.gathers⟩

theorem handshake_guarded (guarded : state.Guarded) (frame : DataFrame) :
    (state.handshake frame).Guarded := by
  rw [handshake]
  generalize List.range 4 = indices
  induction indices generalizing state with
  | nil => exact guarded
  | cons i rest ih =>
      apply ih
      have compared := compareMacAddr_guarded guarded frame.hdr.getSA
      rw [countBroadcast]
      split
      · dsimp only
        split
        · split
          · refine ⟨⟨compared.tables.lsd.extend rfl rfl (by decide), compared.tables.ssid,
              compared.tables.pwd, compared.tables.custom⟩, ?_⟩
            intro direction
            refine ⟨Nat.zero_le 6, ?_⟩
            intro several
            cases several
          · exact ⟨⟨compared.tables.lsd, compared.tables.ssid, compared.tables.pwd,
              compared.tables.custom⟩, compared.gathers⟩
        · exact compared
      · exact guarded

theorem datasave_inside {dsflag : Bool} {offset count : Nat} (bound : offset + count ≤ 7) :
    ∀ store ∈ [(⟨datasaveOf dsflag, offset, count⟩ : Store)], store.Inside := by
  intro store member
  rw [List.mem_singleton.mp member]
  exact bound

theorem saveNibble_guarded (guarded : state.Guarded) (host : BroadcastHost) (dsflag : Bool)
    (value : UInt32) : (state.saveNibble host dsflag value).Guarded := by
  obtain ⟨position, head⟩ := guarded.gathers dsflag
  refine ⟨⟨guarded.tables.lsd.extend rfl rfl (datasave_inside (by omega)), guarded.tables.ssid,
    guarded.tables.pwd, guarded.tables.custom⟩, ?_⟩
  intro direction
  by_cases here : direction = dsflag
  · subst here
    refine ⟨position, ?_⟩
    intro several
    have saved : (state.saveNibble host direction value).datasave direction =
        Function.update (state.datasave direction) (state.datacnt direction).toNat _ :=
      Function.update_self ..
    have kept (index : Nat) (early : index < 2) :
        (state.saveNibble host direction value).datasave direction index =
          state.datasave direction index := by
      rw [saved]
      exact Function.update_of_ne (Nat.ne_of_lt (Nat.lt_of_lt_of_le early several)) _ _
    exact (head several).congr (kept 0 Nat.two_pos) (kept 1 Nat.one_lt_two)
  · obtain ⟨bound, valid⟩ := guarded.gathers direction
    refine ⟨bound, ?_⟩
    intro several
    have same : (state.saveNibble host dsflag value).datasave direction =
        state.datasave direction := Function.update_of_ne here _ _
    rw [same]
    exact valid several

/-- A fragment is complete in `dsflag`: the other direction is as it should be. -/
structure Completes (dsflag : Bool) (datasave : Nat → UInt8) (state : BroadcastState) : Prop where
  tables : state.toFragmentState.Safe
  others : ∀ direction, direction ≠ dsflag → state.Gathers direction
  head : WellFormedHead datasave

theorem guarded_of_fresh {dsflag : Bool} {before after : BroadcastState}
    (tables : after.toFragmentState.Safe) (fresh : after.datacnt dsflag = 0)
    (others : ∀ direction, direction ≠ dsflag → before.Gathers direction)
    (count : ∀ direction, direction ≠ dsflag → after.datacnt direction = before.datacnt direction)
    (saved : ∀ direction, direction ≠ dsflag →
      after.datasave direction = before.datasave direction) : after.Guarded := by
  refine ⟨tables, ?_⟩
  intro direction
  by_cases here : direction = dsflag
  · subst here
    rw [Gathers, fresh]
    refine ⟨Nat.zero_le 6, ?_⟩
    intro several
    cases several
  · rw [Gathers, count direction here, saved direction here]
    exact others direction here

theorem restart_guarded {dsflag : Bool} (tables : state.toFragmentState.Safe)
    (others : ∀ direction, direction ≠ dsflag → state.Gathers direction) :
    (state.restart dsflag).Guarded := by
  have safe : (state.restart dsflag).toFragmentState.Safe :=
    ⟨tables.lsd.extend rfl rfl (datasave_inside (by decide)), tables.ssid, tables.pwd,
      tables.custom⟩
  apply guarded_of_fresh safe (Function.update_self ..) others
  · intro direction apart
    exact Function.update_of_ne apart _ _
  · intro direction apart
    exact Function.update_of_ne apart _ _

theorem startTag_guarded (guarded : state.Guarded) (dsflag : Bool) (tag : UInt8) :
    (state.startTag dsflag tag).Guarded := by
  obtain ⟨position, _⟩ := guarded.gathers dsflag
  have safe : (state.startTag dsflag tag).toFragmentState.Safe :=
    ⟨guarded.tables.lsd.extend rfl rfl (datasave_inside (by omega)), guarded.tables.ssid,
      guarded.tables.pwd, guarded.tables.custom⟩
  apply guarded_of_fresh safe (Function.update_self ..) fun direction _ => guarded.gathers direction
  · intro direction apart
    exact Function.update_of_ne apart _ _
  · intro direction apart
    exact Function.update_of_ne apart _ _

theorem syncTag_guarded (guarded : state.Guarded) (frmLen : UInt32) (dsflag : Bool) :
    (state.syncTag frmLen dsflag).Guarded := by
  rw [syncTag]
  split
  · exact startTag_guarded guarded dsflag 0
  · split
    · exact startTag_guarded guarded dsflag 1
    · split
      · exact startTag_guarded guarded dsflag 2
      · exact guarded

def Leaves (dsflag : Bool) (result : BroadcastState × FrameOutcome) : Prop :=
  match result.2 with
  | .complete datasave => result.1.Completes dsflag datasave
  | _ => result.1.Guarded

theorem endFragment_leaves (guarded : state.Guarded) (host : BroadcastHost) (dsflag : Bool) :
    Leaves dsflag (state.endFragment host dsflag) := by
  have saved := saveNibble_guarded guarded host dsflag 0xF
  generalize kept : state.saveNibble host dsflag 0xF = ended at saved
  have others : ∀ direction, direction ≠ dsflag → ended.Gathers direction :=
    fun direction _ => saved.gathers direction
  rw [endFragment, kept]
  split
  · exact restart_guarded saved.tables others
  rename_i several
  split
  · exact restart_guarded saved.tables others
  · have headed : 2 ≤ (ended.datacnt dsflag).toNat := by
      have three := UInt8.le_iff_toNat_le.mp (UInt8.not_lt.mp several)
      change 3 ≤ _ at three
      omega
    exact ⟨⟨saved.tables.lsd, saved.tables.ssid, saved.tables.pwd, saved.tables.custom⟩, others,
      (saved.gathers dsflag).2 headed⟩

theorem nextByte_count {dsflag : Bool} (position : (state.datacnt dsflag).toNat ≤ 6) :
    ((state.nextByte dsflag).datacnt dsflag).toNat = (state.datacnt dsflag).toNat + 1 := by
  have next : (state.nextByte dsflag).datacnt dsflag = state.datacnt dsflag + 1 :=
    Function.update_self ..
  rw [next, UInt8.toNat_add]
  exact Nat.mod_eq_of_lt (by change _ + 1 < 256; omega)

theorem nextByte_others {dsflag direction : Bool} (apart : direction ≠ dsflag)
    (gathers : state.Gathers direction) : (state.nextByte dsflag).Gathers direction := by
  have count : (state.nextByte dsflag).datacnt direction = state.datacnt direction :=
    Function.update_of_ne apart _ _
  rw [Gathers, count]
  exact gathers

theorem takeNibble_leaves (guarded : state.Guarded) (host : BroadcastHost) (frmLen : UInt32)
    (dsflag : Bool) : Leaves dsflag (state.takeNibble host frmLen dsflag) := by
  have saved := saveNibble_guarded guarded host dsflag (frmLen - state.smtcfgArray.toUInt32)
  generalize kept : state.saveNibble host dsflag (frmLen - state.smtcfgArray.toUInt32) = taken
    at saved
  obtain ⟨position, head⟩ := saved.gathers dsflag
  have count := nextByte_count position
  have tables : (taken.nextByte dsflag).toFragmentState.Safe := saved.tables
  have others (direction : Bool) (apart : direction ≠ dsflag) :=
    nextByte_others apart (saved.gathers direction)
  have sameHead : 2 ≤ (taken.datacnt dsflag).toNat →
      WellFormedHead ((taken.nextByte dsflag).datasave dsflag) := head
  rw [takeNibble, kept]
  generalize taken.nextByte dsflag = next at *
  split
  · dsimp only
    split
    · exact restart_guarded tables others
    rename_i passed
    split
    · rename_i full
      have seven : (next.datacnt dsflag).toNat = 7 := by
        rw [full]
        rfl
      exact ⟨tables, others, sameHead (by omega)⟩
    · rename_i unfinished
      have notSeven : (next.datacnt dsflag).toNat ≠ 7 := by
        intro seven
        exact unfinished (UInt8.toNat_inj.mp seven)
      change next.Guarded
      refine ⟨tables, ?_⟩
      intro direction
      by_cases here : direction = dsflag
      · subst here
        refine ⟨by omega, ?_⟩
        intro several
        by_cases first : next.datacnt direction = 2
        · have accepted : next.tlsWifiOneshotPacketHeadResolve (next.datasave direction) = 0 := by
            by_contra refused
            exact passed ⟨first, refused⟩
          exact ((headResolve_iff _ _).mp accepted).1
        · have notTwo : (next.datacnt direction).toNat ≠ 2 := by
            intro two
            exact first (UInt8.toNat_inj.mp two)
          exact sameHead (by omega)
      · exact others direction here
  · exact saved

theorem takeData_leaves (guarded : state.Guarded) (host : BroadcastHost) (frame : DataFrame) :
    Leaves frame.hdr.hasTods (state.takeData host frame) := by
  rw [takeData]
  dsimp only
  split
  · exact guarded
  split
  · exact guarded
  have noted : ({ state with
      seqnum := Function.update state.seqnum frame.hdr.hasTods frame.hdr.seqCtrl.toUInt32 } :
      BroadcastState).Guarded := ⟨guarded.tables, guarded.gathers⟩
  split
  · exact syncTag_guarded noted frame.frmLen frame.hdr.hasTods
  split
  · exact endFragment_leaves noted host frame.hdr.hasTods
  · exact takeNibble_leaves noted host frame.frmLen frame.hdr.hasTods

def completed (host : BroadcastHost) (frame : DataFrame) (state : BroadcastState) :
    Option (BroadcastState × (Nat → UInt8)) :=
  if frame.hdr.getDA.isBroadcast && state.guchandshakeflag &&
      (state.compareMacAddr frame.hdr.getSA).1 then
    match (state.compareMacAddr frame.hdr.getSA).2.takeData host frame with
    | (after, .complete datasave) => some (after, datasave)
    | _ => none
  else none

def RoomForName (host : BroadcastHost) (memory : Bool) (frame : DataFrame)
    (state : BroadcastState) : Prop :=
  ∀ after datasave, state.completed host frame = some (after, datasave) →
    FragmentState.RoomForFragment memory datasave after.toFragmentState

theorem tlsWifiLsdBroadcast_guarded (guarded : state.Guarded)
    (room : RoomForName host memory frame state) :
    (state.tlsWifiLsdBroadcast host memory frame).Guarded := by
  have finish {after : BroadcastState} (kept : after.Guarded) :
      (after.onLsd LsdState.connectIfComplete).Guarded :=
    onLsd_guarded kept (LsdState.connectIfComplete_safe kept.tables.lsd)
  have compared := compareMacAddr_guarded guarded frame.hdr.getSA
  rw [tlsWifiLsdBroadcast]
  split
  · rename_i broadcast
    split
    · rename_i shaken
      dsimp only
      split
      · rename_i same
        have leaves := takeData_leaves compared host frame
        have completes : state.completed host frame =
            match (state.compareMacAddr frame.hdr.getSA).2.takeData host frame with
            | (after, .complete datasave) => some (after, datasave)
            | _ => none := by
          rw [completed, broadcast, shaken, same]
          rfl
        split
        · rename_i outcome
          rw [outcome] at leaves
          exact leaves
        · rename_i outcome
          rw [outcome] at leaves
          exact finish leaves
        · rename_i after datasave outcome
          rw [outcome] at leaves completes
          have resolved := FragmentState.resolveUdp_safe host.toOneshotHost leaves.tables
            leaves.head (room after datasave completes)
          exact finish (restart_guarded resolved leaves.others)
      · exact finish compared
    · exact finish (handshake_guarded guarded frame)
  · exact guarded

def allStores (state : BroadcastState) : List Store :=
  state.stores ++ state.ssid.stores ++ state.pwd.stores ++ state.custom.stores

theorem Guarded.inside (guarded : state.Guarded) : ∀ store ∈ state.allStores, store.Inside := by
  intro store member
  simp only [allStores, List.mem_append] at member
  obtain ((lsd | ssid) | pwd) | custom := member
  · exact guarded.tables.lsd.stores store lsd
  · exact guarded.tables.ssid.stores store ssid
  · exact guarded.tables.pwd.stores store pwd
  · exact guarded.tables.custom.stores store custom

def boot : BroadcastState where
  toFragmentState := .boot
  smtcfgArray := 0
  bdhandshakecnt := fun _ => 0
  databitcnt := fun _ => 4
  datasave := fun _ _ => 0
  datacnt := fun _ => 0
  syncnum := false
  seqnum := fun _ => 0xFFFFFFFF

theorem boot_guarded : boot.Guarded := by
  have unused : FragmentTable.blank.Unused := by
    refine ⟨rfl, fun _ => rfl, rfl, ?_⟩
    intro store member
    cases member
  refine ⟨⟨⟨fun _ _ => rfl, unused.stores⟩, unused, unused.safe (Nat.zero_le 16),
    unused.safe (Nat.zero_le 16)⟩, ?_⟩
  intro direction
  refine ⟨Nat.zero_le 6, ?_⟩
  intro several
  cases several

end BroadcastState

/-- What happens to the provisioning code: a frame, with whether an allocation for it succeeds,
the end of a configuration, and the start of one with the memory it is given. -/
inductive ProvisionEvent where
  | frame (memory : Bool) (frame : DataFrame)
  | stop
  | start (memory : Option (Nat → UInt8))

namespace BroadcastState

def provision (host : BroadcastHost) (state : BroadcastState) : ProvisionEvent → BroadcastState
  | .frame memory frame => state.tlsWifiDataframeRecv host memory frame
  | .stop => state.tlsOneshotStopClearData
  | .start memory => { state with guconeshotflag := true }.tlsOneshotInitData memory

/-- What each of the three functions that look at a frame has room for, in the state it finds. -/
def HasRoom (host : BroadcastHost) (state : BroadcastState) : ProvisionEvent → Prop
  | .frame memory frame =>
      state.guconeshotflag = true → frame.hdr.isData = true →
        let probed := state.onLsd (LsdState.tlsWifiLsdProbe host.toOneshotHost frame)
        let heard := probed.onLsd fun lsd =>
          (lsd.tlsWifiLsdOneshot host.toOneshotHost frame.hdr).1
        LsdState.RoomForTypes frame ∧ probed.RoomForPair frame.hdr ∧
          heard.RoomForName host memory frame
  | _ => True

theorem provision_guarded (host : BroadcastHost) {state : BroadcastState}
    (guarded : state.Guarded) {event : ProvisionEvent} (room : state.HasRoom host event) :
    (state.provision host event).Guarded := by
  cases event with
  | frame memory frame =>
      rw [provision, tlsWifiDataframeRecv]
      split
      · exact guarded
      rename_i active
      split
      · exact guarded
      rename_i data
      obtain ⟨types, pair, name⟩ := room (by simpa using active) (by simpa using data)
      have probed := onLsd_guarded guarded (LsdState.tlsWifiLsdProbe_safe guarded.tables.lsd
        host.toOneshotHost types)
      have heard : ((state.onLsd (LsdState.tlsWifiLsdProbe host.toOneshotHost frame)).onLsd
          fun lsd => (lsd.tlsWifiLsdOneshot host.toOneshotHost frame.hdr).1).Guarded := by
        apply onLsd_guarded probed
        exact LsdState.tlsWifiLsdOneshot_safe probed.tables.lsd host.toOneshotHost pair
      exact tlsWifiLsdBroadcast_guarded heard name
  | stop =>
      have cleared := onLsd_guarded guarded
        (LsdState.tlsOneshotStopClearData_safe guarded.tables.lsd)
      have reset : ({ state.onLsd LsdState.tlsOneshotStopClearData with
          smtcfgArray := 0 } : BroadcastState).Guarded := ⟨cleared.tables, cleared.gathers⟩
      exact clearOneshotInfo_guarded reset true
  | start memory =>
      have raised : ({ state with guconeshotflag := true } : BroadcastState).Guarded :=
        ⟨⟨guarded.tables.lsd.same rfl rfl, guarded.tables.ssid, guarded.tables.pwd,
          guarded.tables.custom⟩, guarded.gathers⟩
      have cleared := onLsd_guarded raised
        (LsdState.tlsOneshotInitData_safe raised.tables.lsd memory)
      have reset : ({ ({ state with guconeshotflag := true } : BroadcastState).onLsd
          (LsdState.tlsOneshotInitData memory) with
          smtcfgArray := 0 } : BroadcastState).Guarded := ⟨cleared.tables, cleared.gathers⟩
      exact clearOneshotInfo_guarded reset true

/-- In a run of frames that have room, every store in every state is inside its buffer. -/
theorem provisioning_stores_inside (host : BroadcastHost) (events : List ProvisionEvent)
    (room : Runs.Along (provision host) (HasRoom host) boot events) :
    ∀ before after, events = before ++ after →
      ∀ store ∈ (before.foldl (provision host) boot).allStores, store.Inside := by
  have kept (state : BroadcastState) (event : ProvisionEvent) (guarded : state.Guarded)
      (fits : state.HasRoom host event) : (state.provision host event).Guarded :=
    provision_guarded host guarded fits
  intro before after split
  exact (Runs.reached_of_along kept boot_guarded room split).inside

def probeFrame (len : UInt8) : DataFrame where
  hdr := ⟨0x007B, .zero, .zero, .zero, 0, .zero⟩
  body := fun index => [0, 0, 0, 0, 0, 0, 0x5A, 0xA5, 0x01, 0x00, len, 0x00].getD index 0
  dataLen := 100

def sampleHost : BroadcastHost where
  toOneshotHost := LsdState.lenientHost
  shift := fun _ _ => 0

theorem password_of_eight_inside :
    (provision sampleHost boot (.frame true (probeFrame 8))).allStores.all
      (fun store => decide store.Inside) = true := by
  rw [List.all_eq_true]
  intro store member
  refine decide_eq_true (provisioning_stores_inside sampleHost [.frame true (probeFrame 8)] ?_
    [.frame true (probeFrame 8)] [] rfl store member)
  refine ⟨?_, trivial⟩
  intro _ _
  refine ⟨?_, ?_, ?_⟩
  · intro _ _
    decide +kernel
  · intro heard
    have deaf : LsdState.listens (probeFrame 8).hdr (boot.onLsd
        (LsdState.tlsWifiLsdProbe sampleHost.toOneshotHost (probeFrame 8))).toLsdState = false := by
      decide +kernel
    exact absurd (deaf.symm.trans heard) Bool.false_ne_true
  · intro after datasave complete
    have unicast : (probeFrame 8).hdr.getDA.isBroadcast = false := by decide +kernel
    rw [completed, unicast] at complete
    cases complete

theorem password_of_66_overruns :
    ¬∀ (host : BroadcastHost) (events before after : List ProvisionEvent),
      events = before ++ after →
        ∀ store ∈ (before.foldl (provision host) boot).allStores, store.Inside := by
  intro claim
  have outside : (provision sampleHost boot (.frame true (probeFrame 66))).allStores.any
      (fun store => !decide store.Inside) = true := by
    decide +kernel
  obtain ⟨store, member, strays⟩ := List.any_eq_true.mp outside
  have inside := claim sampleHost _ [.frame true (probeFrame 66)] [] rfl store member
  simp [inside] at strays

end BroadcastState

end SmartMeter
