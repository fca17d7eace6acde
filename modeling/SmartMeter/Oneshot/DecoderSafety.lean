import SmartMeter.Oneshot.BroadcastCore

/-!
The stores of the multicast decoder and of the probe frames, and the frames for which they stay
inside their buffers.
-/

namespace SmartMeter

instance (store : Store) : Decidable store.Inside :=
  inferInstanceAs (Decidable (_ ≤ _))

namespace LsdState

/-- No pair behind the end of `aulsddata` is marked, and no store went past its destination. -/
structure Safe (state : LsdState) : Prop where
  marks : ∀ index, 128 ≤ index → state.ullsddatavalid index = false
  stores : ∀ store ∈ state.stores, store.Inside

variable {before state : LsdState}

theorem Safe.extend (safe : before.Safe) {made : List Store}
    (marks : state.ullsddatavalid = before.ullsddatavalid)
    (stores : state.stores = before.stores ++ made) (inside : ∀ store ∈ made, store.Inside) :
    state.Safe := by
  constructor
  · rw [marks]
    exact safe.marks
  · rw [stores]
    intro store member
    rcases List.mem_append.mp member with old | new
    · exact safe.stores store old
    · exact inside store new

theorem Safe.same (safe : before.Safe) (marks : state.ullsddatavalid = before.ullsddatavalid)
    (stores : state.stores = before.stores) : state.Safe := by
  constructor
  · rw [marks]
    exact safe.marks
  · rw [stores]
    exact safe.stores

theorem clearOneshotData_safe (safe : state.Safe) (iscleardata : Bool) :
    (clearOneshotData iscleardata state).Safe := by
  cases iscleardata with
  | false => exact safe.same rfl rfl
  | true =>
      constructor
      · intro index beyond
        change (if index < 64 then false else state.ullsddatavalid index) = false
        rw [if_neg (by omega)]
        exact safe.marks index beyond
      · intro store member
        rcases List.mem_append.mp member with old | new
        · exact safe.stores store old
        · split at new
          · rw [List.mem_singleton.mp new]
            decide
          · cases new

theorem compareMacAddr_safe (safe : state.Safe) (macaddr : EtherAddr) :
    (state.compareMacAddr macaddr).2.Safe := by
  rw [compareMacAddr]
  split
  · exact safe.same rfl rfl
  · exact safe

theorem pair_inside {index : Nat} (bound : index < 128) :
    ∀ store ∈ [(⟨.aulsddata, 2 * index, 1⟩ : Store), ⟨.aulsddata, 2 * index + 1, 1⟩],
      store.Inside := by
  intro store member
  simp only [List.mem_cons, List.not_mem_nil, or_false] at member
  obtain rfl | rfl := member
  · change 2 * index + 1 ≤ 256
    omega
  · change 2 * index + 1 + 1 ≤ 256
    omega

theorem append_inside {made : List Store} (safe : state.Safe)
    (inside : ∀ store ∈ made, store.Inside) :
    ∀ store ∈ state.stores ++ made, store.Inside := by
  intro store member
  rcases List.mem_append.mp member with old | new
  · exact safe.stores store old
  · exact inside store new

theorem saveData_safe (safe : state.Safe) {dst : EtherAddr} (bound : dst.b3 ≤ 128) :
    (state.saveData dst).Safe := by
  rw [saveData]
  split
  · rename_i brings
    have index : (dst.b3 - 1).toNat < 128 := by
      have positive : 1 ≤ dst.b3 := UInt8.le_iff_toNat_le.mpr (UInt8.lt_iff_toNat_lt.mp brings)
      have limit : dst.b3.toNat ≤ 128 := UInt8.le_iff_toNat_le.mp bound
      have some : 0 < dst.b3.toNat := UInt8.lt_iff_toNat_lt.mp brings
      rw [UInt8.toNat_sub_of_le _ _ positive]
      change dst.b3.toNat - 1 < 128
      omega
    generalize (dst.b3 - 1).toNat = index at *
    dsimp only
    split
    · exact safe
    · refine ⟨?_, append_inside safe (pair_inside index)⟩
      intro other beyond
      have apart : other ≠ _ := Nat.ne_of_gt (Nat.lt_of_lt_of_le index beyond)
      exact (Function.update_of_ne apart _ _).trans (safe.marks other beyond)
  · exact safe

theorem dropPair_safe (safe : state.Safe) (index : Nat) : (state.dropPair index).Safe := by
  rw [dropPair]
  split
  · rename_i marked
    have inside : index < 128 := by
      by_contra beyond
      rw [safe.marks index (Nat.le_of_not_lt beyond)] at marked
      cases marked
    refine ⟨?_, append_inside safe (pair_inside inside)⟩
    intro other beyond
    have apart : other ≠ index := by omega
    exact (Function.update_of_ne apart _ _).trans (safe.marks other beyond)
  · exact safe

theorem dropPairs_safe (safe : state.Safe) (count : Nat) : (state.dropPairs count).Safe := by
  induction count with
  | zero => exact safe
  | succ count ih => exact dropPair_safe ih count

theorem saveLength_safe (safe : state.Safe) (dst : EtherAddr) : (state.saveLength dst).Safe := by
  rw [saveLength]
  split
  · dsimp only
    split
    · exact (dropPairs_safe safe _).same rfl rfl
    · exact safe.same rfl rfl
  · exact safe

theorem copyBssid_safe (safe : state.Safe) (hdr : Ieee80211Hdr) : (state.copyBssid hdr).Safe := by
  rw [copyBssid]
  split
  · exact safe.extend rfl rfl (by decide)
  · exact safe

theorem synchronise_safe (safe : state.Safe) (hdr : Ieee80211Hdr) :
    (state.synchronise hdr).Safe := by
  have counted : (state.countSync hdr).Safe := by
    rw [countSync]
    split
    · exact safe.same rfl rfl
    · exact safe
  have started : ((state.countSync hdr).startSync hdr).Safe := by
    rw [startSync]
    split
    · exact counted.same rfl rfl
    · exact counted
  rw [synchronise, finishSync]
  split
  · have opened : ({ (state.countSync hdr).startSync hdr with
        guchandshakeflag := true } : LsdState).Safe := started.same rfl rfl
    exact (copyBssid_safe opened hdr).same rfl rfl
  · exact started

theorem connectIfKnown_safe (safe : state.Safe) : state.connectIfKnown.Safe := by
  rw [connectIfKnown]
  split
  · split
    · exact safe.same rfl rfl
    · split
      · exact safe.same rfl rfl
      · exact safe
  · exact safe

theorem acceptDecoded_safe (safe : state.Safe) (host : OneshotHost) :
    (state.acceptDecoded host).Safe := by
  have cleared := clearOneshotData_safe safe true
  rw [acceptDecoded]
  apply connectIfKnown_safe
  split
  · exact safe.same rfl rfl
  · split
    · exact safe.same rfl rfl
    · split
      · dsimp only
        split
        · exact cleared.same rfl rfl
        · exact cleared.same rfl rfl
      · exact safe

theorem prepareDecode_safe (safe : state.Safe) (hdr : Ieee80211Hdr) :
    (state.prepareDecode hdr).Safe := by
  have filled : ({ state with
      gucssidokflag := false
      gucbssidokflag := true
      gucpwdokflag := false
      gucssidData := Buffer.fill state.gucssidData 0 33
      gucbssidData := Buffer.fill state.gucbssidData 0 6
      gucpwdData := Buffer.fill state.gucpwdData 0 65
      stores := state.stores ++
        [⟨.gucssidData, 0, 33⟩, ⟨.gucbssidData, 0, 6⟩, ⟨.gucpwdData, 0, 65⟩] } : LsdState).Safe :=
    safe.extend rfl rfl (by decide)
  refine (copyBssid_safe filled hdr).extend rfl rfl ?_
  intro store member
  rw [List.mem_singleton.mp member]
  exact UInt8.toNat_lt _

theorem decodeMessage_safe (safe : state.Safe) (host : OneshotHost) (hdr : Ieee80211Hdr) :
    (state.decodeMessage host hdr).1.Safe := by
  have filled (decoded : Decoded) : (fillDecoded decoded (state.prepareDecode hdr)).Safe :=
    (prepareDecode_safe safe hdr).same rfl rfl
  rw [decodeMessage]
  dsimp only
  split
  · exact acceptDecoded_safe (filled _) host
  · exact (clearOneshotData_safe (filled _) true).same rfl rfl

theorem dataHandle_safe (safe : state.Safe) (host : OneshotHost) (hdr : Ieee80211Hdr) :
    (state.dataHandle host hdr).1.Safe := by
  have compared := compareMacAddr_safe safe hdr.getSA
  have ends {reached : LsdState} (safe : reached.Safe) :
      (if reached.complete = true then
        ((decodeMessage host hdr reached).1, some (decodeMessage host hdr reached).2)
      else (reached, none)).1.Safe := by
    split
    · exact decodeMessage_safe safe host hdr
    · exact safe
  rw [dataHandle]
  dsimp only
  split
  · exact ends (compared.same rfl rfl)
  · exact ends compared

/-- The frame brings no pair for which `aulsddata` has no room, or its pair is not taken. -/
def RoomForPair (hdr : Ieee80211Hdr) (state : LsdState) : Prop :=
  state.listens hdr = true → (state.compareMacAddr hdr.getSA).1 = true → hdr.getDA.b3 ≤ 128

theorem tlsWifiLsdOneshot_safe (safe : state.Safe) (host : OneshotHost) {hdr : Ieee80211Hdr}
    (room : state.RoomForPair hdr) : (state.tlsWifiLsdOneshot host hdr).1.Safe := by
  rw [tlsWifiLsdOneshot]
  split
  · rename_i heard
    have gathered : (state.gather hdr).Safe := by
      have compared := compareMacAddr_safe safe hdr.getSA
      rw [gather]
      dsimp only
      split
      · rename_i same
        exact saveLength_safe (saveData_safe compared (room heard same)) _
      · exact compared
    dsimp only
    split
    · exact dataHandle_safe gathered host hdr
    · exact synchronise_safe gathered hdr
  · exact safe

/-! Probe frames. -/

/-- The longest value of each type; custom data needs a byte more for the zero behind it. -/
def typeRoom : Nat → Nat
  | 0 => 65
  | 1 => 6
  | 2 => 33
  | _ => 64

theorem copyType_safe (safe : state.Safe) (host : OneshotHost) {i : Nat} (data : Nat → UInt8)
    {len : Nat} (room : len ≤ typeRoom i) : (copyType host i data len state).Safe := by
  match i with
  | 0 =>
      refine safe.extend rfl rfl ?_
      intro store member
      rw [List.mem_singleton.mp member]
      change 0 + len ≤ 65
      rw [Nat.zero_add]
      exact room
  | 1 =>
      refine safe.extend rfl rfl ?_
      intro store member
      rw [List.mem_singleton.mp member]
      change 0 + len ≤ 6
      rw [Nat.zero_add]
      exact room
  | 2 =>
      refine safe.extend rfl rfl ?_
      intro store member
      simp only [List.mem_cons, List.not_mem_nil, or_false] at member
      obtain rfl | rfl := member
      · decide
      · change 0 + len ≤ 33
        rw [Nat.zero_add]
        exact room
  | row + 3 =>
      have short : len ≤ 64 := room
      refine safe.extend rfl rfl ?_
      intro store member
      simp only [List.mem_cons, List.not_mem_nil, or_false] at member
      obtain rfl | rfl := member
      · change 0 + len ≤ 65
        omega
      · change len + 1 ≤ 65
        omega

theorem copyAll_safe (host : OneshotHost) {frame : DataFrame} {types : List Nat}
    (room : ∀ i ∈ types, frame.hasType i = true → frame.typelen i ≤ typeRoom i)
    {progress : ProbeCopy} (safe : progress.state.Safe) :
    (types.foldl (copyNext host frame) progress).state.Safe := by
  induction types generalizing progress with
  | nil => exact safe
  | cons i rest ih =>
      apply ih fun later member => room later (List.mem_cons_of_mem i member)
      rw [copyNext]
      split
      · rename_i present
        exact copyType_safe safe host _ (room i List.mem_cons_self present)
      · exact safe

theorem connectProbed_safe (safe : state.Safe) : state.connectProbed.Safe := by
  rw [connectProbed]
  split
  · split
    · exact safe.same rfl rfl
    · split
      · exact safe.same rfl rfl
      · split
        · exact safe
        · exact safe.same rfl rfl
  · exact safe

/-- The frame is no probe, or each of its values has room in its buffer. -/
def RoomForTypes (frame : DataFrame) : Prop :=
  frame.hdr.isProbe = true → frame.tagid = 0xA55A →
    ∀ i < 6, frame.hasType i = true → frame.typelen i ≤ typeRoom i

theorem tlsWifiLsdProbe_safe (safe : state.Safe) (host : OneshotHost) {frame : DataFrame}
    (room : RoomForTypes frame) : (state.tlsWifiLsdProbe host frame).Safe := by
  rw [tlsWifiLsdProbe]
  split
  · rename_i probe
    have decrypted : (state.tlsWifiDecryptData host frame).1.Safe := by
      rw [tlsWifiDecryptData]
      split
      · rename_i tagged
        apply copyAll_safe host fun i member => room probe tagged i (List.mem_range.mp member)
        exact safe.extend rfl rfl (by decide)
      · exact safe
    dsimp only
    split
    · exact connectProbed_safe decrypted
    · exact decrypted
  · exact safe

theorem connectIfComplete_safe (safe : state.Safe) : state.connectIfComplete.Safe := by
  rw [connectIfComplete]
  split
  · split
    · exact safe.same rfl rfl
    · split
      · exact safe.same rfl rfl
      · exact safe
  · exact safe

theorem tlsOneshotStopClearData_safe (safe : state.Safe) : state.tlsOneshotStopClearData.Safe := by
  have started : ({ state with guchandshakeflag := false, gSrcMac := .zero } : LsdState).Safe :=
    safe.same rfl rfl
  exact (clearOneshotData_safe started true).same rfl rfl

theorem tlsOneshotInitData_safe (safe : state.Safe) (memory : Option (Nat → UInt8)) :
    (state.tlsOneshotInitData memory).Safe := by
  apply clearOneshotData_safe
  exact safe.extend rfl rfl (by decide)

end LsdState

end SmartMeter
