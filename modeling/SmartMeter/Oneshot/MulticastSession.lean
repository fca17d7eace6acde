import SmartMeter.Oneshot.OneshotCore

/-!
What of the globals decides which bytes the multicast decoder hands on and when. The session is
the abstract decoder, and `tls_wifi_lsd_oneshot` follows it frame by frame.
-/

namespace SmartMeter

@[ext]
structure MulticastSession where
  source : EtherAddr
  synced : Bool
  count : UInt8
  length : UInt8
  syncode : UInt8
  marks : Nat → Bool
  data : Option (Nat → UInt8)
  custom : UInt8

namespace MulticastSession

def saveData (dst : EtherAddr) (session : MulticastSession) : MulticastSession :=
  if 0 < dst.b3 ∧ session.marks (dst.b3 - 1).toNat = false then
    { session with
      data := session.data.map fun data =>
        Function.update (Function.update data (2 * (dst.b3 - 1).toNat) dst.b4)
          (2 * (dst.b3 - 1).toNat + 1) dst.b5
      marks := Function.update session.marks (dst.b3 - 1).toNat true }
  else session

def drop (count : Nat) (session : MulticastSession) : MulticastSession :=
  { session with
    data := session.data.map fun data place =>
      if place / 2 < count ∧ session.marks (place / 2) then 0 else data place
    marks := fun index => if index < count then false else session.marks index }

def dropOne (index : Nat) (session : MulticastSession) : MulticastSession :=
  if session.marks index = true then
    { session with
      data := session.data.map fun data =>
        Function.update (Function.update data (2 * index) 0) (2 * index + 1) 0
      marks := Function.update session.marks index false }
  else session

theorem drop_zero (session : MulticastSession) : session.drop 0 = session := by
  ext <;> simp [drop]

theorem drop_succ (count : Nat) (session : MulticastSession) :
    session.drop (count + 1) = (session.drop count).dropOne count := by
  have here : (session.drop count).marks count = session.marks count := by simp [drop]
  rw [dropOne, here]
  have lower (index : Nat) (apart : index ≠ count) : index < count + 1 ↔ index < count := by omega
  split
  · rename_i marked
    apply MulticastSession.ext <;> try rfl
    · funext index
      by_cases last : index = count
      · subst last
        simp [drop]
      · simp only [drop, Function.update_of_ne last, lower index last]
    · cases data : session.data with
      | none => simp [drop, data]
      | some bytes =>
          simp only [drop, data, Option.map_some, Option.some.injEq]
          funext place
          simp only [Function.update_apply]
          by_cases last : place / 2 = count
          · have inside : place / 2 < count + 1 ∧ session.marks (place / 2) = true :=
              ⟨by omega, by rw [last, marked]⟩
            rw [if_pos inside]
            by_cases second : place = 2 * count + 1
            · rw [if_pos second]
            · rw [if_neg second, if_pos (by omega)]
          · rw [if_neg (by omega : ¬place = 2 * count + 1), if_neg (by omega : ¬place = 2 * count)]
            simp only [lower _ last]
  · rename_i clear
    have missing : session.marks count = false := Bool.of_not_eq_true clear
    apply MulticastSession.ext <;> try rfl
    · funext index
      by_cases last : index = count
      · subst last
        simp [drop, missing]
      · simp only [drop, lower index last]
    · cases data : session.data with
      | none => simp [drop, data]
      | some bytes =>
          simp only [drop, data, Option.map_some, Option.some.injEq]
          funext place
          by_cases last : place / 2 = count
          · simp [last, missing]
          · simp only [lower _ last]

/-- A frame that announces a length. -/
def IsSync (session : MulticastSession) (dst : EtherAddr) : Prop :=
  dst.b3 = 0 ∧ session.syncode = dst.b4

instance (session : MulticastSession) (dst : EtherAddr) : Decidable (session.IsSync dst) :=
  inferInstanceAs (Decidable (_ ∧ _))

def saveLength (dst : EtherAddr) (session : MulticastSession) : MulticastSession :=
  if session.IsSync dst then
    { (if session.length ≠ 0xFF ∧ dst.b5 ≠ session.length then
        session.drop session.length.toNat else session) with length := dst.b5 }
  else session

def gather (hdr : Ieee80211Hdr) (session : MulticastSession) : MulticastSession :=
  if session.source = .zero then { session with source := hdr.getSA }
  else if session.source = hdr.getSA then saveLength hdr.getDA (saveData hdr.getDA session)
  else session

variable {session : MulticastSession} {hdr : Ieee80211Hdr}

theorem saveData_keeps (dst : EtherAddr) (session : MulticastSession) :
    (session.saveData dst).source = session.source ∧
      (session.saveData dst).synced = session.synced ∧
      (session.saveData dst).count = session.count ∧
      (session.saveData dst).syncode = session.syncode ∧
      (session.saveData dst).custom = session.custom ∧
      (session.saveData dst).length = session.length := by
  rw [saveData]
  split
  · exact ⟨rfl, rfl, rfl, rfl, rfl, rfl⟩
  · exact ⟨rfl, rfl, rfl, rfl, rfl, rfl⟩

theorem saveData_marks (dst : EtherAddr) (session : MulticastSession) (index : Nat) :
    (session.saveData dst).marks index =
      if 0 < dst.b3 ∧ index = (dst.b3 - 1).toNat then true else session.marks index := by
  rw [saveData]
  by_cases brings : 0 < dst.b3
  · by_cases here : index = (dst.b3 - 1).toNat
    · have saved : 0 < dst.b3 ∧ index = (dst.b3 - 1).toNat := ⟨brings, here⟩
      rw [if_pos saved]
      subst here
      split
      · exact Function.update_self ..
      · rename_i kept
        by_contra missing
        exact kept ⟨brings, Bool.of_not_eq_true missing⟩
    · have elsewhere : ¬(0 < dst.b3 ∧ index = (dst.b3 - 1).toNat) := fun both => here both.2
      rw [if_neg elsewhere]
      split
      · exact Function.update_of_ne here _ _
      · rfl
  · rw [if_neg (fun both => brings both.1), if_neg (fun both => brings both.1)]

theorem saveData_data (dst : EtherAddr) (session : MulticastSession) :
    (session.saveData dst).data = session.data.map fun data place =>
      if 0 < dst.b3 ∧ session.marks (place / 2) = false ∧ place / 2 = (dst.b3 - 1).toNat then
        if place % 2 = 0 then dst.b4 else dst.b5
      else data place := by
  rw [saveData]
  generalize (dst.b3 - 1).toNat = index
  split
  · rename_i saves
    refine congrArg (fun change => session.data.map change) ?_
    funext data place
    simp only [Function.update_apply]
    by_cases here : place / 2 = index
    · have taken : 0 < dst.b3 ∧ session.marks (place / 2) = false ∧ place / 2 = index :=
        ⟨saves.1, by rw [here]; exact saves.2, here⟩
      rw [if_pos taken]
      by_cases second : place = 2 * index + 1
      · rw [if_pos second, if_neg (by omega)]
      · rw [if_neg second, if_pos (by omega), if_pos (by omega)]
    · rw [if_neg (by omega), if_neg (by omega), if_neg (fun taken => here taken.2.2)]
  · rename_i kept
    have same : (fun (data : Nat → UInt8) place =>
        if 0 < dst.b3 ∧ session.marks (place / 2) = false ∧ place / 2 = index then
          if place % 2 = 0 then dst.b4 else dst.b5
        else data place) = id := by
      funext data place
      refine if_neg ?_
      rintro ⟨brings, missing, rfl⟩
      exact kept ⟨brings, missing⟩
    rw [same, Option.map_id_fun, id]

theorem saveLength_keeps (dst : EtherAddr) (session : MulticastSession) :
    (session.saveLength dst).source = session.source ∧
      (session.saveLength dst).synced = session.synced ∧
      (session.saveLength dst).count = session.count ∧
      (session.saveLength dst).syncode = session.syncode ∧
      (session.saveLength dst).custom = session.custom := by
  rw [saveLength]
  split
  · dsimp only
    split
    · exact ⟨rfl, rfl, rfl, rfl, rfl⟩
    · exact ⟨rfl, rfl, rfl, rfl, rfl⟩
  · exact ⟨rfl, rfl, rfl, rfl, rfl⟩

theorem gather_keeps (hdr : Ieee80211Hdr) (session : MulticastSession) :
    (session.gather hdr).synced = session.synced ∧
      (session.gather hdr).count = session.count ∧
      (session.gather hdr).syncode = session.syncode ∧
      (session.gather hdr).custom = session.custom := by
  rw [gather]
  split
  · exact ⟨rfl, rfl, rfl, rfl⟩
  · split
    · obtain ⟨_, synced, count, syncode, custom, _⟩ := saveData_keeps hdr.getDA session
      obtain ⟨_, synced', count', syncode', custom'⟩ :=
        saveLength_keeps hdr.getDA (session.saveData hdr.getDA)
      exact ⟨synced'.trans synced, count'.trans count, syncode'.trans syncode,
        custom'.trans custom⟩
    · exact ⟨rfl, rfl, rfl, rfl⟩

theorem gather_source (hdr : Ieee80211Hdr) (session : MulticastSession) :
    (session.gather hdr).source =
      if session.source = .zero then hdr.getSA else session.source := by
  rw [gather]
  split
  · rfl
  · split
    · rw [(saveLength_keeps _ _).1, (saveData_keeps _ _).1]
    · rfl

theorem gather_allocated (hdr : Ieee80211Hdr) (session : MulticastSession) :
    (session.gather hdr).data.isSome = session.data.isSome := by
  have saved : (session.saveData hdr.getDA).data.isSome = session.data.isSome := by
    rw [saveData]
    split
    · exact Option.isSome_map
    · rfl
  rw [gather]
  split
  · rfl
  · split
    · rw [← saved, saveLength]
      split
      · dsimp only
        split
        · exact Option.isSome_map
        · rfl
      · rfl
    · rfl

theorem gather_source_zero (session : MulticastSession)
    (zero : (session.gather hdr).source = .zero) : hdr.getSA = .zero := by
  rw [gather_source] at zero
  split at zero
  · exact zero
  · rename_i known
    exact absurd zero known

def nextCount (hdr : Ieee80211Hdr) (session : MulticastSession) : UInt8 :=
  if session.IsSync hdr.getDA then session.count + 1 else session.count

theorem gather_nextCount (hdr : Ieee80211Hdr) (session : MulticastSession) :
    (session.gather hdr).nextCount hdr = session.nextCount hdr := by
  obtain ⟨_, count, syncode, _⟩ := session.gather_keeps hdr
  have same : (session.gather hdr).IsSync hdr.getDA ↔ session.IsSync hdr.getDA := by
    simp only [IsSync, syncode]
  rw [nextCount, nextCount, count]
  exact if_congr same rfl rfl

def synchronise (hdr : Ieee80211Hdr) (session : MulticastSession) : MulticastSession :=
  let count := session.nextCount hdr
  if 3 ≤ count then { session with source := hdr.getSA, synced := true, count := 0 }
  else if count = 1 then { session with source := hdr.getSA, count := count }
  else { session with count := count }

def Complete (session : MulticastSession) : Prop :=
  session.length ≠ 0 ∧ session.length ≠ 0xFF ∧
    ∀ index < (session.length.toNat + 1) / 2, session.marks index = true

instance (session : MulticastSession) : Decidable session.Complete :=
  inferInstanceAs (Decidable (_ ∧ _ ∧ _))

def message (session : MulticastSession) : List UInt8 :=
  match session.data with
  | some data => Buffer.toList data session.length.toNat ++ [0]
  | none => []

/-- Everything but the source and the marks of the pairs from 64 on is forgotten. -/
def clear (session : MulticastSession) : MulticastSession :=
  { session with
    synced := false
    count := 0
    length := 0xFF
    marks := fun index => if index < 64 then false else session.marks index
    data := session.data.map fun data => Buffer.fill data 0 256 }

/-- After a call of the decoder, which starts the session over when it fails or brings custom
data only. -/
def decoded (result : Decoded) (session : MulticastSession) : MulticastSession :=
  let session :=
    { session with
      data := session.data.map fun data => Function.update data session.length.toNat 0
      custom := (result.outCustData 0).getD session.custom }
  if result.ret ≠ 0 ∨ (result.outSsid 0).getD 0 = 0 ∧ session.custom ≠ 0 then session.clear
  else session

def Listens (hdr : Ieee80211Hdr) (session : MulticastSession) : Prop :=
  hdr.getDA.b0 = 0x01 ∧ hdr.getDA.b1 = 0x00 ∧ hdr.getDA.b2 = 0x5e ∧
    (hdr.getDA.b3 = 0 → session.syncode = hdr.getDA.b4) ∧ session.data.isSome = true

instance (hdr : Ieee80211Hdr) (session : MulticastSession) : Decidable (session.Listens hdr) :=
  inferInstanceAs (Decidable (_ ∧ _ ∧ _ ∧ _ ∧ _))

def step (host : OneshotHost) (hdr : Ieee80211Hdr) (session : MulticastSession) :
    MulticastSession × Option (List UInt8) :=
  if session.Listens hdr then
    let session := session.gather hdr
    if session.synced then
      if session.Complete then
        (session.decoded (host.decode session.message), some session.message)
      else (session, none)
    else (session.synchronise hdr, none)
  else (session, none)

theorem synchronise_syncode (hdr : Ieee80211Hdr) (session : MulticastSession) :
    (session.synchronise hdr).syncode = session.syncode := by
  rw [synchronise]
  split
  · rfl
  · split
    · rfl
    · rfl

theorem decoded_syncode (result : Decoded) (session : MulticastSession) :
    (session.decoded result).syncode = session.syncode := by
  rw [decoded]
  split
  · rfl
  · rfl

theorem decoded_source (result : Decoded) (session : MulticastSession) :
    (session.decoded result).source = session.source := by
  rw [decoded]
  split
  · rfl
  · rfl

theorem step_syncode (host : OneshotHost) (hdr : Ieee80211Hdr) (session : MulticastSession) :
    (session.step host hdr).1.syncode = session.syncode := by
  have gathered := (session.gather_keeps hdr).2.2.1
  rw [step]
  split
  · dsimp only
    split
    · split
      · exact (decoded_syncode _ _).trans gathered
      · exact gathered
    · exact (synchronise_syncode _ _).trans gathered
  · rfl

def passedAlong (host : OneshotHost) :
    MulticastSession → List Ieee80211Hdr → List (Option (List UInt8))
  | _, [] => []
  | session, hdr :: rest =>
      (session.step host hdr).2 :: passedAlong host (session.step host hdr).1 rest

def receive (host : OneshotHost) (session : MulticastSession) (hdr : Ieee80211Hdr) :
    MulticastSession :=
  (session.step host hdr).1

end MulticastSession

namespace LsdState

def session (state : LsdState) : MulticastSession where
  source := state.gSrcMac
  synced := state.guchandshakeflag
  count := if state.guchandshakeflag then 0 else state.lsdhandshakecnt
  length := state.uclsddatalen
  syncode := state.uclsdsyncode
  marks := state.ullsddatavalid
  data := state.aulsddata
  custom := state.gucCustomData 0 0

theorem dropPair_session (index : Nat) (state : LsdState) :
    (dropPair index state).session = state.session.dropOne index := by
  rw [dropPair, MulticastSession.dropOne]
  show _ = if state.ullsddatavalid index = true then _ else _
  split
  · rfl
  · rfl

theorem dropPairs_session (count : Nat) (state : LsdState) :
    (dropPairs count state).session = state.session.drop count := by
  induction count with
  | zero => exact state.session.drop_zero.symm
  | succ count ih => rw [dropPairs, dropPair_session, ih, MulticastSession.drop_succ]

theorem saveData_session (dst : EtherAddr) (state : LsdState) :
    (saveData dst state).session = state.session.saveData dst := by
  rw [saveData, MulticastSession.saveData]
  by_cases brings : 0 < dst.b3
  · rw [if_pos brings]
    dsimp only
    by_cases marked : state.ullsddatavalid (dst.b3 - 1).toNat = true
    · have there : ¬(0 < dst.b3 ∧ state.session.marks (dst.b3 - 1).toNat = false) := by
        rintro ⟨_, missing⟩
        exact Bool.false_ne_true (missing.symm.trans marked)
      rw [if_pos marked, if_neg there]
    · have missing : 0 < dst.b3 ∧ state.session.marks (dst.b3 - 1).toNat = false :=
        ⟨brings, Bool.of_not_eq_true marked⟩
      rw [if_neg marked, if_pos missing]
      rfl
  · rw [if_neg brings, if_neg (fun both => brings both.1)]

theorem saveLength_session (dst : EtherAddr) (state : LsdState) :
    (saveLength dst state).session = state.session.saveLength dst := by
  rw [saveLength, MulticastSession.saveLength]
  by_cases sync : state.session.IsSync dst
  · rw [if_pos sync]
    obtain ⟨zero, code⟩ := sync
    by_cases other : state.uclsddatalen ≠ 0xFF ∧ dst.b5 ≠ state.uclsddatalen
    · have taken : dst.b3 = 0 ∧ dst.b4 = state.uclsdsyncode ∧
          (state.uclsddatalen = 0xFF ∨ dst.b5 ≠ state.uclsddatalen) :=
        ⟨zero, code.symm, .inr other.2⟩
      have dropped := dropPairs_session state.uclsddatalen.toNat state
      have turned : dst.b5 ≠ state.uclsddatalen ∧ state.uclsddatalen ≠ 0xFF := ⟨other.2, other.1⟩
      have known : state.session.length ≠ 0xFF ∧ dst.b5 ≠ state.session.length := other
      rw [if_pos taken, if_pos turned, if_pos known]
      exact congrArg (fun session => { session with length := dst.b5 }) dropped
    · have known : ¬(state.session.length ≠ 0xFF ∧ dst.b5 ≠ state.session.length) := other
      rw [if_neg known]
      by_cases unset : state.uclsddatalen = 0xFF
      · have taken : dst.b3 = 0 ∧ dst.b4 = state.uclsdsyncode ∧
            (state.uclsddatalen = 0xFF ∨ dst.b5 ≠ state.uclsddatalen) :=
          ⟨zero, code.symm, .inl unset⟩
        rw [if_pos taken, if_neg (fun turned => turned.2 unset)]
        rfl
      · have equal : dst.b5 = state.uclsddatalen := by
          by_contra apart
          exact other ⟨unset, apart⟩
        have ignored : ¬(dst.b3 = 0 ∧ dst.b4 = state.uclsdsyncode ∧
            (state.uclsddatalen = 0xFF ∨ dst.b5 ≠ state.uclsddatalen)) := by
          rintro ⟨_, _, unknown | apart⟩
          · exact unset unknown
          · exact apart equal
        rw [if_neg ignored, equal]
        rfl
  · have ignored : ¬(dst.b3 = 0 ∧ dst.b4 = state.uclsdsyncode ∧
        (state.uclsddatalen = 0xFF ∨ dst.b5 ≠ state.uclsddatalen)) :=
      fun taken => sync ⟨taken.1, taken.2.1.symm⟩
    rw [if_neg ignored, if_neg sync]

theorem gather_session (hdr : Ieee80211Hdr) (state : LsdState) :
    (gather hdr state).session = state.session.gather hdr := by
  rw [gather, compareMacAddr, MulticastSession.gather]
  by_cases fresh : state.gSrcMac = .zero
  · have first : state.session.source = .zero := fresh
    rw [if_pos fresh, if_pos first]
    rfl
  · have known : ¬state.session.source = .zero := fresh
    rw [if_neg fresh, if_neg known]
    by_cases same : state.gSrcMac = hdr.getSA
    · have own : state.session.source = hdr.getSA := same
      rw [if_pos own]
      simp only [same, decide_true, if_true]
      rw [saveLength_session, saveData_session]
    · have foreign : ¬state.session.source = hdr.getSA := same
      rw [if_neg foreign]
      simp [same]

theorem copyBssid_session (hdr : Ieee80211Hdr) (state : LsdState) :
    (copyBssid hdr state).session = state.session := by
  rw [copyBssid]
  split
  · rfl
  · rfl

theorem countSync_session (hdr : Ieee80211Hdr) {state : LsdState}
    (waiting : state.guchandshakeflag = false) :
    (countSync hdr state).session = { state.session with count := state.session.nextCount hdr } ∧
      (countSync hdr state).guchandshakeflag = false ∧
      (countSync hdr state).lsdhandshakecnt = state.session.nextCount hdr := by
  rw [countSync, MulticastSession.nextCount]
  by_cases sync : state.session.IsSync hdr.getDA
  · have counted : hdr.getDA.b3 = 0 ∧ state.uclsdsyncode = hdr.getDA.b4 := sync
    rw [if_pos counted, if_pos sync]
    simp [session, waiting]
  · have passed : ¬(hdr.getDA.b3 = 0 ∧ state.uclsdsyncode = hdr.getDA.b4) := sync
    rw [if_neg passed, if_neg sync]
    simp [session, waiting]

theorem startSync_session (hdr : Ieee80211Hdr) (state : LsdState) :
    (startSync hdr state).session =
        (if state.lsdhandshakecnt = 1 then { state.session with source := hdr.getSA }
          else state.session) ∧
      (startSync hdr state).lsdhandshakecnt = state.lsdhandshakecnt := by
  rw [startSync]
  split
  · exact ⟨rfl, rfl⟩
  · exact ⟨rfl, rfl⟩

theorem finishSync_session (hdr : Ieee80211Hdr) (state : LsdState) :
    (finishSync hdr state).session =
      if 3 ≤ state.lsdhandshakecnt then
        { state.session with source := hdr.getSA, synced := true, count := 0 }
      else state.session := by
  rw [finishSync]
  split
  · have copied := copyBssid_session hdr { state with guchandshakeflag := true }
    exact congrArg (fun session => { session with source := hdr.getSA }) copied
  · rfl

theorem synchronise_session (hdr : Ieee80211Hdr) {state : LsdState}
    (waiting : state.guchandshakeflag = false) :
    (synchronise hdr state).session = state.session.synchronise hdr := by
  obtain ⟨counted, _, count⟩ := countSync_session hdr waiting
  obtain ⟨started, kept⟩ := startSync_session hdr (countSync hdr state)
  rw [synchronise, finishSync_session, kept, started, count, counted, MulticastSession.synchronise]
  dsimp only
  generalize state.session.nextCount hdr = next
  by_cases three : 3 ≤ next
  · rw [if_pos three, if_pos three]
    split
    · rfl
    · rfl
  · rw [if_neg three, if_neg three]

theorem countHandshake_session (hdr : Ieee80211Hdr) {state : LsdState}
    (synced : state.guchandshakeflag = true) :
    (countHandshake hdr state).session = state.session := by
  simp [countHandshake, session, synced]

theorem complete_iff (state : LsdState) : state.complete = true ↔ state.session.Complete := by
  simp [complete, pairs, MulticastSession.Complete, session, and_assoc]

theorem clearOneshotData_session (state : LsdState) :
    LsdState.session { clearOneshotData true state with guchandshakeflag := false } =
      state.session.clear := rfl

theorem connectIfKnown_session (state : LsdState) :
    (connectIfKnown state).session = state.session := by
  rw [connectIfKnown]
  split
  · split
    · rfl
    · split
      · rfl
      · rfl
  · rfl

theorem acceptDecoded_session (host : OneshotHost) (state : LsdState) :
    (acceptDecoded host state).session =
      if state.gucssidData 0 = 0 ∧ state.gucCustomData 0 0 ≠ 0 then state.session.clear
      else state.session := by
  rw [acceptDecoded, connectIfKnown_session]
  by_cases named : state.gucssidData 0 = 0
  · have unnamed : (state.gucssidData 0 != 0) = false := by simp [named]
    simp only [unnamed, Bool.and_false, Bool.false_eq_true, if_false]
    by_cases custom : state.gucCustomData 0 0 = 0
    · simp [custom]
    · have given : (state.gucCustomData 0 0 != 0) = true := by simp [custom]
      have only : state.gucssidData 0 = 0 ∧ state.gucCustomData 0 0 ≠ 0 := ⟨named, custom⟩
      rw [if_pos given, if_pos only]
      split
      · rfl
      · rfl
  · have given : (state.gucssidData 0 != 0) = true := by simp [named]
    have kept : ¬(state.gucssidData 0 = 0 ∧ state.gucCustomData 0 0 ≠ 0) :=
      fun only => named only.1
    rw [if_neg kept]
    simp only [given, if_true]
    split
    · rfl
    · rfl

theorem prepareDecode_session (hdr : Ieee80211Hdr) (state : LsdState) :
    (prepareDecode hdr state).session =
        { state.session with
          data := state.session.data.map fun data =>
            Function.update data state.session.length.toNat 0 } ∧
      (prepareDecode hdr state).guchandshakeflag = state.guchandshakeflag ∧
      (prepareDecode hdr state).gucssidData 0 = 0 := by
  have emptied (buffer : Nat → UInt8) : Buffer.fill buffer 0 33 0 = 0 := by
    simp [Buffer.fill, Buffer.copy_apply]
  rw [prepareDecode, copyBssid]
  cases hdr.bssidMacAddr with
  | none => exact ⟨rfl, rfl, emptied state.gucssidData⟩
  | some mac => exact ⟨rfl, rfl, emptied state.gucssidData⟩

theorem message_prepareDecode (hdr : Ieee80211Hdr) (state : LsdState) :
    (prepareDecode hdr state).message = state.session.message := by
  have prepared := (prepareDecode_session hdr state).1
  have data : (prepareDecode hdr state).aulsddata = _ := congrArg MulticastSession.data prepared
  have length : (prepareDecode hdr state).uclsddatalen = _ :=
    congrArg MulticastSession.length prepared
  rw [message, MulticastSession.message, data, length]
  cases state.session.data with
  | none => rfl
  | some bytes => exact Buffer.toList_update_last _ _ _

theorem fillDecoded_session (result : Decoded) (state : LsdState) :
    (fillDecoded result state).session =
      { state.session with custom := (result.outCustData 0).getD state.session.custom } := rfl

theorem decodeMessage_session (host : OneshotHost) (hdr : Ieee80211Hdr) (state : LsdState) :
    (decodeMessage host hdr state).1.session =
        state.session.decoded (host.decode state.session.message) ∧
      (decodeMessage host hdr state).2 = state.session.message := by
  obtain ⟨prepared, _, unnamed⟩ := prepareDecode_session hdr state
  rw [decodeMessage]
  dsimp only
  rw [message_prepareDecode]
  generalize host.decode state.session.message = result
  generalize prepareDecode hdr state = ready at prepared unnamed ⊢
  have filled := fillDecoded_session result ready
  have name : (fillDecoded result ready).gucssidData 0 = (result.outSsid 0).getD 0 :=
    congrArg (result.outSsid 0).getD unnamed
  have custom : (fillDecoded result ready).gucCustomData 0 0 =
      (result.outCustData 0).getD state.session.custom := by
    have same := congrArg MulticastSession.custom prepared
    exact congrArg (result.outCustData 0).getD same
  rw [prepared] at filled
  rw [MulticastSession.decoded]
  by_cases accepted : result.ret = 0
  · rw [if_pos accepted]
    refine ⟨?_, rfl⟩
    dsimp only
    rw [acceptDecoded_session, filled]
    refine if_congr ?_ rfl rfl
    rw [name, custom]
    constructor
    · exact Or.inr
    · rintro (failed | only)
      · exact absurd accepted failed
      · exact only
  · rw [if_neg accepted]
    refine ⟨?_, rfl⟩
    dsimp only
    rw [clearOneshotData_session, filled, if_pos (Or.inl accepted)]

theorem dataHandle_session (host : OneshotHost) (hdr : Ieee80211Hdr) {state : LsdState}
    (synced : state.guchandshakeflag = true) (seen : state.gSrcMac = .zero → hdr.getSA = .zero) :
    (dataHandle host hdr state).1.session =
        (if state.session.Complete then
          state.session.decoded (host.decode state.session.message) else state.session) ∧
      (dataHandle host hdr state).2 =
        if state.session.Complete then some state.session.message else none := by
  have counted : (if (compareMacAddr hdr.getSA state).1 then
      countHandshake hdr (compareMacAddr hdr.getSA state).2
      else (compareMacAddr hdr.getSA state).2).session = state.session := by
    rw [compareMacAddr]
    by_cases fresh : state.gSrcMac = .zero
    · simp [fresh, seen fresh, session]
    · simp only [fresh, if_false]
      split
      · exact countHandshake_session hdr synced
      · rfl
  rw [dataHandle]
  dsimp only
  generalize (if (compareMacAddr hdr.getSA state).1 then
    countHandshake hdr (compareMacAddr hdr.getSA state).2
    else (compareMacAddr hdr.getSA state).2) = next at counted ⊢
  rw [← counted]
  by_cases done : next.session.Complete
  · obtain ⟨after, passed⟩ := decodeMessage_session host hdr next
    rw [if_pos ((complete_iff next).mpr done), if_pos done, if_pos done]
    exact ⟨after, congrArg some passed⟩
  · rw [if_neg (fun all => done ((complete_iff next).mp all)), if_neg done, if_neg done]
    exact ⟨rfl, rfl⟩

theorem listens_iff (hdr : Ieee80211Hdr) (state : LsdState) :
    listens hdr state = true ↔ state.session.Listens hdr := by
  simp [listens, MulticastSession.Listens, session, and_assoc, imp_iff_not_or]

theorem tlsWifiLsdOneshot_session (host : OneshotHost) (hdr : Ieee80211Hdr) (state : LsdState) :
    (tlsWifiLsdOneshot host hdr state).1.session = (state.session.step host hdr).1 ∧
      (tlsWifiLsdOneshot host hdr state).2 = (state.session.step host hdr).2 := by
  rw [tlsWifiLsdOneshot, MulticastSession.step]
  by_cases heard : state.session.Listens hdr
  · have gathered := gather_session hdr state
    have flag : (gather hdr state).guchandshakeflag = (state.session.gather hdr).synced :=
      congrArg MulticastSession.synced gathered
    rw [if_pos ((listens_iff hdr state).mpr heard), if_pos heard]
    dsimp only
    rw [flag, ← gathered]
    by_cases synced : (gather hdr state).session.synced = true
    · rw [if_pos synced, if_pos synced]
      have seen : (gather hdr state).gSrcMac = .zero → hdr.getSA = .zero := by
        intro zero
        have source : (state.session.gather hdr).source = .zero := by
          rw [← gathered]
          exact zero
        exact state.session.gather_source_zero source
      obtain ⟨after, passed⟩ := dataHandle_session host hdr synced seen
      rw [after, passed]
      split
      · exact ⟨rfl, rfl⟩
      · exact ⟨rfl, rfl⟩
    · rw [if_neg synced, if_neg synced]
      exact ⟨synchronise_session hdr (Bool.of_not_eq_true synced), rfl⟩
  · rw [if_neg (fun on => heard ((listens_iff hdr state).mp on)), if_neg heard]
    exact ⟨rfl, rfl⟩

def passedAlong (host : OneshotHost) : LsdState → List Ieee80211Hdr → List (Option (List UInt8))
  | _, [] => []
  | state, hdr :: rest =>
      (tlsWifiLsdOneshot host hdr state).2 ::
        passedAlong host (tlsWifiLsdOneshot host hdr state).1 rest

def receive (host : OneshotHost) (state : LsdState) (hdr : Ieee80211Hdr) : LsdState :=
  (tlsWifiLsdOneshot host hdr state).1

theorem receive_session (host : OneshotHost) (state : LsdState) (hdr : Ieee80211Hdr) :
    (state.receive host hdr).session = (state.session.step host hdr).1 :=
  (tlsWifiLsdOneshot_session host hdr state).1

theorem passedAlong_session (host : OneshotHost) (frames : List Ieee80211Hdr) (state : LsdState) :
    passedAlong host state frames = state.session.passedAlong host frames := by
  induction frames generalizing state with
  | nil => rfl
  | cons hdr rest ih =>
      obtain ⟨after, passed⟩ := tlsWifiLsdOneshot_session host hdr state
      rw [passedAlong, MulticastSession.passedAlong, passed, ih, after]

def boot : LsdState where
  guconeshotflag := true
  gucssidokflag := false
  gucbssidokflag := false
  gucpwdokflag := false
  gucssidData := fun _ => 0
  gucbssidData := fun _ => 0
  gucpwdData := fun _ => 0
  gucCustomData := fun _ _ => 0
  gSrcMac := .zero
  guchandshakeflag := false
  gucHandShakeOk := false
  ullsddatavalid := fun _ => false
  aulsddata := some fun _ => 0
  lsdhandshakecnt := 0
  uclsddatalen := 0xFF
  uclsdsyncode := 0x64
  stores := []

def direct (source destination : EtherAddr) : Ieee80211Hdr :=
  ⟨0, destination, source, .zero, 0, .zero⟩

@[simp] theorem direct_getSA (source destination : EtherAddr) :
    (direct source destination).getSA = source := by
  simp [direct, Ieee80211Hdr.getSA, Ieee80211Hdr.hasA4, Ieee80211Hdr.hasFromds]

@[simp] theorem direct_getDA (source destination : EtherAddr) :
    (direct source destination).getDA = destination := by
  simp [direct, Ieee80211Hdr.getDA, Ieee80211Hdr.hasTods]

def lenientHost : OneshotHost :=
  ⟨fun _ => ⟨0, fun _ => none, fun _ => none, fun _ => none, fun _ => none⟩, false⟩

end LsdState

end SmartMeter
