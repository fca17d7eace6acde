import SmartMeter.Library.Runs
import SmartMeter.Oneshot.MulticastSession

/-!
Several senders at once. The decoder records one source and takes in only its frames, but the
handshake may record another one; what was gathered from the first stays.
-/

namespace SmartMeter

/-- Every byte of the string, and its length, was sent by the source. -/
structure SentBy (received : List Ieee80211Hdr) (source : EtherAddr) (bytes : List UInt8) :
    Prop where
  length : ∃ hdr ∈ received, hdr.getSA = source ∧ hdr.getDA.b3 = 0 ∧
    hdr.getDA.b5.toNat + 1 = bytes.length
  content : ∀ place, place + 1 < bytes.length →
    ∃ hdr ∈ received, hdr.getSA = source ∧ hdr.getDA.b3.toNat = place / 2 + 1 ∧
      bytes[place]? = some (if place % 2 = 0 then hdr.getDA.b4 else hdr.getDA.b5)

namespace MulticastSession

/-- Nothing that a message could be made of has been gathered. -/
def Empty (session : MulticastSession) : Prop :=
  (∀ index < 127, session.marks index = false) ∧ session.length = 0xFF

/-- The frame of another sender makes that one the source. -/
def TakesOver (hdr : Ieee80211Hdr) (session : MulticastSession) : Prop :=
  session.Listens hdr ∧ session.synced = false ∧ session.source ≠ .zero ∧
    session.source ≠ hdr.getSA ∧ (session.nextCount hdr = 1 ∨ 3 ≤ session.nextCount hdr)

instance (hdr : Ieee80211Hdr) (session : MulticastSession) : Decidable (session.TakesOver hdr) :=
  inferInstanceAs (Decidable (_ ∧ _ ∧ _ ∧ _ ∧ _))

def Restarts (result : Decoded) (session : MulticastSession) : Prop :=
  result.ret ≠ 0 ∨
    (result.outSsid 0).getD 0 = 0 ∧ (result.outCustData 0).getD session.custom ≠ 0

instance (result : Decoded) (session : MulticastSession) : Decidable (session.Restarts result) :=
  inferInstanceAs (Decidable (_ ∨ _ ∧ _))

def StartsOver (host : OneshotHost) (hdr : Ieee80211Hdr) (session : MulticastSession) : Prop :=
  session.Listens hdr ∧ session.synced = true ∧ (session.gather hdr).Complete ∧
    (session.gather hdr).Restarts (host.decode (session.gather hdr).message)

instance (host : OneshotHost) (hdr : Ieee80211Hdr) (session : MulticastSession) :
    Decidable (session.StartsOver host hdr) :=
  inferInstanceAs (Decidable (_ ∧ _ ∧ _ ∧ _))

/-- Nothing gathered outlives its sender or its session. -/
structure Guarded (host : OneshotHost) (session : MulticastSession) (hdr : Ieee80211Hdr) :
    Prop where
  takesOver : session.TakesOver hdr → session.Empty
  startsOver : session.StartsOver host hdr →
    ∀ index < 127, 64 ≤ index → (session.gather hdr).marks index = false

/-- The pair at this place as the frame brought it; the place of the closing zero is not looked
at. -/
def Brought (hdr : Ieee80211Hdr) (length : UInt8) (data : Nat → UInt8) (index : Nat) : Prop :=
  (2 * index ≠ length.toNat ∨ length = 0 → data (2 * index) = hdr.getDA.b4) ∧
    (2 * index + 1 ≠ length.toNat → data (2 * index + 1) = hdr.getDA.b5)

structure Owned (received : List Ieee80211Hdr) (session : MulticastSession) : Prop where
  unrecorded : session.source = .zero → session.Empty
  length : session.length ≠ 0xFF → ∃ hdr ∈ received,
    hdr.getSA = session.source ∧ hdr.getDA.b3 = 0 ∧ hdr.getDA.b5 = session.length
  held : ∀ index < 127, session.marks index = true → ∃ hdr ∈ received,
    hdr.getSA = session.source ∧ hdr.getDA.b3.toNat = index + 1 ∧
      ∀ data, session.data = some data → Brought hdr session.length data index

variable {received : List Ieee80211Hdr} {session : MulticastSession} {hdr : Ieee80211Hdr}

theorem Owned.more (owned : session.Owned received) (hdr : Ieee80211Hdr) :
    session.Owned (received ++ [hdr]) := by
  refine ⟨owned.unrecorded, ?_, ?_⟩
  · intro known
    obtain ⟨frame, member, facts⟩ := owned.length known
    exact ⟨frame, List.mem_append_left _ member, facts⟩
  · intro index bound marked
    obtain ⟨frame, member, facts⟩ := owned.held index bound marked
    exact ⟨frame, List.mem_append_left _ member, facts⟩

theorem owned_of_empty (empty : session.Empty) : session.Owned received := by
  refine ⟨fun _ => empty, ?_, ?_⟩
  · intro known
    exact absurd empty.2 known
  · intro index bound marked
    exact absurd ((empty.1 index bound).symm.trans marked) Bool.false_ne_true

theorem Owned.saveData (owned : session.Owned received) (own : hdr.getSA = session.source)
    (known : session.source ≠ .zero) :
    (session.saveData hdr.getDA).Owned (received ++ [hdr]) := by
  have kept := owned.more hdr
  rw [MulticastSession.saveData]
  split
  · rename_i brings
    have place : hdr.getDA.b3.toNat = (hdr.getDA.b3 - 1).toNat + 1 := by
      have positive := UInt8.lt_iff_toNat_lt.mp brings.1
      have one : (1 : UInt8) ≤ hdr.getDA.b3 := by
        rw [UInt8.le_iff_toNat_le]
        exact positive
      have zero : (0 : UInt8).toNat = 0 := rfl
      have unit : (1 : UInt8).toNat = 1 := rfl
      rw [UInt8.toNat_sub_of_le _ _ one]
      omega
    generalize (hdr.getDA.b3 - 1).toNat = saved at place ⊢
    refine ⟨fun zero => absurd zero known, kept.length, ?_⟩
    intro index bound marked
    dsimp only at marked ⊢
    by_cases here : index = saved
    · subst here
      refine ⟨hdr, List.mem_append_right _ (List.mem_singleton_self hdr), own, place, ?_⟩
      intro data present
      obtain ⟨old, _, rfl⟩ := Option.map_eq_some_iff.mp present
      have apart : 2 * index ≠ 2 * index + 1 := by omega
      refine ⟨fun _ => ?_, fun _ => Function.update_self ..⟩
      rw [Function.update_of_ne apart, Function.update_self]
    · rw [Function.update_of_ne here] at marked
      obtain ⟨frame, member, source, at_place, brought⟩ := kept.held index bound marked
      refine ⟨frame, member, source, at_place, ?_⟩
      intro data present
      obtain ⟨old, allocated, rfl⟩ := Option.map_eq_some_iff.mp present
      simp only [Brought, Function.update_apply]
      rw [if_neg (by omega), if_neg (by omega), if_neg (by omega), if_neg (by omega)]
      exact brought old allocated
  · exact kept

/-- Where the place of the closing zero is behind all pairs, the length may change. -/
theorem Owned.relength (owned : session.Owned received) {length : UInt8}
    (behind : ∀ index < 127, session.marks index = true →
      (2 * index ≠ session.length.toNat ∨ session.length = 0) ∧
        2 * index + 1 ≠ session.length.toNat)
    (announced : ∃ hdr ∈ received,
      hdr.getSA = session.source ∧ hdr.getDA.b3 = 0 ∧ hdr.getDA.b5 = length)
    (known : session.source ≠ .zero) :
    Owned received { session with length := length } := by
  refine ⟨fun zero => absurd zero known, fun _ => announced, ?_⟩
  intro index bound marked
  obtain ⟨frame, member, source, place, brought⟩ := owned.held index bound marked
  obtain ⟨first, second⟩ := behind index bound marked
  refine ⟨frame, member, source, place, ?_⟩
  intro data present
  obtain ⟨even, odd⟩ := brought data present
  exact ⟨fun _ => even first, fun _ => odd second⟩

theorem Owned.drop (owned : session.Owned received) (count : Nat) (known : session.source ≠ .zero) :
    (session.drop count).Owned received := by
  refine ⟨fun zero => absurd zero known, owned.length, ?_⟩
  intro index bound marked
  have kept : ¬index < count := by
    intro below
    simp [MulticastSession.drop, below] at marked
  have before : session.marks index = true := by
    simpa [MulticastSession.drop, kept] using marked
  obtain ⟨frame, member, source, place, brought⟩ := owned.held index bound before
  refine ⟨frame, member, source, place, ?_⟩
  intro data present
  obtain ⟨old, allocated, rfl⟩ := Option.map_eq_some_iff.mp present
  have first : ¬(2 * index / 2 < count ∧ session.marks (2 * index / 2) = true) := by omega
  have second : ¬((2 * index + 1) / 2 < count ∧ session.marks ((2 * index + 1) / 2) = true) := by
    omega
  simp only [Brought, first, second, if_false]
  exact brought old allocated

theorem Owned.saveLength (owned : session.Owned received) (own : hdr.getSA = session.source)
    (known : session.source ≠ .zero) (member : hdr ∈ received) :
    (session.saveLength hdr.getDA).Owned received := by
  rw [MulticastSession.saveLength]
  split
  · rename_i sync
    have announced : ∃ frame ∈ received, frame.getSA = session.source ∧ frame.getDA.b3 = 0 ∧
        frame.getDA.b5 = hdr.getDA.b5 := ⟨hdr, member, own, sync.1, rfl⟩
    split
    · rename_i changed
      refine (owned.drop session.length.toNat known).relength ?_ announced known
      intro index bound marked
      have kept : session.length.toNat ≤ index := by
        by_contra below
        simp [MulticastSession.drop, Nat.lt_of_not_le below] at marked
      show (2 * index ≠ session.length.toNat ∨ session.length = 0) ∧ _
      by_cases zero : session.length = 0
      · refine ⟨.inr zero, ?_⟩
        show 2 * index + 1 ≠ session.length.toNat
        omega
      · have positive : 0 < session.length.toNat :=
          Nat.pos_of_ne_zero fun none => zero (UInt8.toNat_inj.mp none)
        refine ⟨.inl (by omega), ?_⟩
        show 2 * index + 1 ≠ session.length.toNat
        omega
    · rename_i same
      by_cases unset : session.length = 0xFF
      · refine owned.relength ?_ announced known
        intro index bound _
        have last : session.length.toNat = 255 := by rw [unset]; rfl
        exact ⟨.inl (by omega), by omega⟩
      · have equal : hdr.getDA.b5 = session.length := by
          by_contra apart
          exact same ⟨unset, apart⟩
        rw [equal]
        exact owned
  · exact owned

theorem Owned.gather (owned : session.Owned received) :
    (session.gather hdr).Owned (received ++ [hdr]) := by
  rw [MulticastSession.gather]
  split
  · rename_i fresh
    exact owned_of_empty (owned.unrecorded fresh)
  · rename_i known
    split
    · rename_i own
      have source := (saveData_keeps hdr.getDA session).1
      refine (owned.saveData own.symm known).saveLength ?_ ?_ ?_
      · rw [source]
        exact own.symm
      · rw [source]
        exact known
      · exact List.mem_append_right _ (List.mem_singleton_self hdr)
    · exact owned.more hdr

theorem Owned.resync (owned : session.Owned received) {source : EtherAddr}
    (same : source = session.source) (synced : Bool) (count : UInt8) :
    Owned received { session with source := source, synced := synced, count := count } := by
  subst same
  exact ⟨owned.unrecorded, owned.length, owned.held⟩

theorem Owned.synchronise (owned : session.Owned received) (heard : session.Listens hdr)
    (waiting : session.synced = false) (guarded : session.TakesOver hdr → session.Empty) :
    ((session.gather hdr).synchronise hdr).Owned (received ++ [hdr]) := by
  have gathered : (session.gather hdr).Owned (received ++ [hdr]) := owned.gather
  by_cases same : hdr.getSA = (session.gather hdr).source
  · rw [MulticastSession.synchronise]
    split
    · exact gathered.resync same true 0
    · split
      · exact gathered.resync same _ _
      · exact gathered.resync rfl _ _
  · have known : session.source ≠ .zero := by
      intro zero
      rw [gather_source, if_pos zero] at same
      exact same rfl
    have other : session.source ≠ hdr.getSA := by
      intro own
      rw [gather_source, if_neg known] at same
      exact same own.symm
    have untouched : session.gather hdr = session := by
      rw [MulticastSession.gather, if_neg known, if_neg other]
    rw [untouched] at gathered ⊢
    rw [MulticastSession.synchronise]
    split
    · rename_i third
      exact owned_of_empty (guarded ⟨heard, waiting, known, other, .inr third⟩)
    · split
      · rename_i first
        exact owned_of_empty (guarded ⟨heard, waiting, known, other, .inl first⟩)
      · exact gathered.resync rfl _ _

theorem Owned.decoded (owned : session.Owned received) (complete : session.Complete)
    {result : Decoded}
    (guarded : session.Restarts result → ∀ index < 127, 64 ≤ index → session.marks index = false) :
    (session.decoded result).Owned received := by
  rw [MulticastSession.decoded]
  dsimp only
  split
  · rename_i restarts
    refine owned_of_empty ⟨?_, rfl⟩
    intro index bound
    show (if index < 64 then false else session.marks index) = false
    split
    · rfl
    · rename_i late
      exact guarded restarts index bound (Nat.le_of_not_lt late)
  · refine ⟨owned.unrecorded, owned.length, ?_⟩
    intro index bound marked
    obtain ⟨frame, member, source, place, brought⟩ := owned.held index bound marked
    refine ⟨frame, member, source, place, ?_⟩
    intro data present
    obtain ⟨old, allocated, rfl⟩ := Option.map_eq_some_iff.mp present
    obtain ⟨first, second⟩ := brought old allocated
    refine ⟨?_, ?_⟩
    · intro apart
      have elsewhere := apart.resolve_right complete.1
      rw [Function.update_of_ne elsewhere]
      exact first apart
    · intro apart
      rw [Function.update_of_ne apart]
      exact second apart

theorem Owned.step (owned : session.Owned received) {host : OneshotHost}
    (guarded : session.Guarded host hdr) :
    (session.step host hdr).1.Owned (received ++ [hdr]) := by
  rw [MulticastSession.step]
  split
  · rename_i heard
    dsimp only
    have gathered : (session.gather hdr).Owned (received ++ [hdr]) := owned.gather
    obtain ⟨synced, _⟩ := session.gather_keeps hdr
    split
    · rename_i done
      split
      · rename_i complete
        refine gathered.decoded complete ?_
        intro restarts
        exact guarded.startsOver ⟨heard, synced.symm.trans done, complete, restarts⟩
      · exact gathered
    · rename_i waiting
      exact owned.synchronise heard (synced.symm.trans (Bool.of_not_eq_true waiting))
        guarded.takesOver
  · exact owned.more hdr

theorem Owned.message_sentBy (owned : session.Owned received)
    (allocated : session.data.isSome = true) (complete : session.Complete) :
    SentBy received session.source session.message := by
  obtain ⟨data, present⟩ := Option.isSome_iff_exists.mp allocated
  have length : session.message.length = session.length.toNat + 1 := by
    rw [message, present]
    simp
  have bound : session.length.toNat < 255 := by
    have less := session.length.toNat_lt
    have other : session.length.toNat ≠ 255 := by
      intro last
      exact complete.2.1 (UInt8.toNat_inj.mp last)
    omega
  refine ⟨?_, ?_⟩
  · obtain ⟨frame, member, source, zero, announced⟩ := owned.length complete.2.1
    refine ⟨frame, member, source, zero, ?_⟩
    rw [announced, length]
  · intro place inside
    rw [length] at inside
    have marked := complete.2.2 (place / 2) (by omega)
    obtain ⟨frame, member, source, at_place, brought⟩ := owned.held (place / 2) (by omega) marked
    obtain ⟨first, second⟩ := brought data present
    refine ⟨frame, member, source, at_place, ?_⟩
    have read : session.message[place]? = some (data place) := by
      rw [message, present]
      dsimp only
      rw [List.getElem?_append_left (by simp; omega)]
      simp [Buffer.toList, (by omega : place < session.length.toNat)]
    rw [read]
    refine congrArg some ?_
    split
    · have even : 2 * (place / 2) = place := by omega
      rw [even] at first
      exact first (.inl (by omega))
    · have odd : 2 * (place / 2) + 1 = place := by omega
      rw [odd] at second
      exact second (by omega)

theorem Owned.passed (owned : session.Owned received) {host : OneshotHost} {bytes : List UInt8}
    (call : (session.step host hdr).2 = some bytes) :
    SentBy (received ++ [hdr]) (session.step host hdr).1.source bytes := by
  have gathered : (session.gather hdr).Owned (received ++ [hdr]) := owned.gather
  rw [MulticastSession.step] at call ⊢
  split at call
  · rename_i heard
    rw [if_pos heard]
    dsimp only at call ⊢
    split at call
    · rename_i synced
      rw [if_pos synced]
      split at call
      · rename_i complete
        rw [if_pos complete]
        have allocated : (session.gather hdr).data.isSome = true := by
          rw [gather_allocated]
          exact heard.2.2.2.2
        have kept : ((session.gather hdr).decoded
            (host.decode (session.gather hdr).message)).source = (session.gather hdr).source :=
          decoded_source _ _
        dsimp only
        rw [kept, ← Option.some.inj call]
        exact gathered.message_sentBy allocated complete
      · exact absurd call.symm (Option.some_ne_none _)
    · exact absurd call.symm (Option.some_ne_none _)
  · exact absurd call.symm (Option.some_ne_none _)

theorem step_other {host : OneshotHost} (other : hdr.getSA ≠ session.source)
    (silent : (session.step host hdr).2 = none) :
    (session.step host hdr).1.data = session.data ∧
      (session.step host hdr).1.marks = session.marks ∧
      (session.step host hdr).1.length = session.length := by
  have gathered : (session.gather hdr).data = session.data ∧
      (session.gather hdr).marks = session.marks ∧
      (session.gather hdr).length = session.length := by
    rw [gather]
    split
    · exact ⟨rfl, rfl, rfl⟩
    · rw [if_neg (fun own => other own.symm)]
      exact ⟨rfl, rfl, rfl⟩
  rw [step] at silent ⊢
  split
  · rename_i heard
    rw [if_pos heard] at silent
    dsimp only at silent ⊢
    split
    · rename_i synced
      rw [if_pos synced] at silent
      split at silent
      · exact absurd silent (Option.some_ne_none _)
      · rename_i missing
        rw [if_neg missing]
        exact gathered
    · rw [synchronise]
      split
      · exact gathered
      · split
        · exact gathered
        · exact gathered
  · exact ⟨rfl, rfl, rfl⟩

end MulticastSession

namespace LsdState

open MulticastSession

structure Fresh (state : LsdState) : Prop where
  source : state.gSrcMac = .zero
  unmarked : ∀ index, state.ullsddatavalid index = false
  length : state.uclsddatalen = 0xFF

theorem foldl_owned (host : OneshotHost) {frames received : List Ieee80211Hdr} {state : LsdState}
    (owned : state.session.Owned received)
    (guarded : Runs.Along (receive host) (fun state hdr => state.session.Guarded host hdr) state
      frames) :
    (frames.foldl (receive host) state).session.Owned (received ++ frames) := by
  induction frames generalizing state received with
  | nil =>
      rw [List.append_nil]
      exact owned
  | cons hdr rest ih =>
      obtain ⟨first, later⟩ := guarded
      have next := owned.step first
      rw [← receive_session] at next
      have final := ih next later
      rw [List.append_assoc] at final
      exact final

theorem receive_other {host : OneshotHost} {state : LsdState} {hdr : Ieee80211Hdr}
    (other : hdr.getSA ≠ state.gSrcMac) (silent : (tlsWifiLsdOneshot host hdr state).2 = none) :
    (state.receive host hdr).aulsddata = state.aulsddata ∧
      (state.receive host hdr).ullsddatavalid = state.ullsddatavalid ∧
      (state.receive host hdr).uclsddatalen = state.uclsddatalen := by
  have follows := receive_session host state hdr
  rw [(tlsWifiLsdOneshot_session host hdr state).2] at silent
  obtain ⟨data, marks, length⟩ := step_other other silent
  rw [← follows] at data marks length
  exact ⟨data, marks, length⟩

/-- What the decoder is given all comes from the sender then recorded, and the frames of others
have not touched it. -/
theorem one_sender {state : LsdState} (fresh : state.Fresh) (host : OneshotHost)
    {before : List Ieee80211Hdr} {hdr : Ieee80211Hdr}
    (guarded : Runs.Along (receive host) (fun state hdr => state.session.Guarded host hdr) state
      before)
    {bytes : List UInt8}
    (call : (tlsWifiLsdOneshot host hdr (before.foldl (receive host) state)).2 = some bytes) :
    SentBy (before ++ [hdr])
        (tlsWifiLsdOneshot host hdr (before.foldl (receive host) state)).1.gSrcMac bytes ∧
      ∀ earlier other later, before = earlier ++ other :: later →
        let found := earlier.foldl (receive host) state
        other.getSA ≠ found.gSrcMac → (tlsWifiLsdOneshot host other found).2 = none →
          (found.receive host other).aulsddata = found.aulsddata ∧
          (found.receive host other).ullsddatavalid = found.ullsddatavalid ∧
          (found.receive host other).uclsddatalen = found.uclsddatalen := by
  have start : state.session.Owned [] :=
    owned_of_empty ⟨fun index _ => fresh.unmarked index, fresh.length⟩
  have owned := foldl_owned host start guarded
  obtain ⟨after, passed⟩ :=
    tlsWifiLsdOneshot_session host hdr (before.foldl (receive host) state)
  rw [passed] at call
  have sent := owned.passed call
  rw [← after] at sent
  refine ⟨sent, ?_⟩
  intro earlier other later split found foreign silent
  exact receive_other foreign silent

def firstSender : EtherAddr := ⟨2, 0, 0, 0, 0, 1⟩

def secondSender : EtherAddr := ⟨2, 0, 0, 0, 0, 2⟩

def syncFrom (sender : EtherAddr) (length : UInt8) : Ieee80211Hdr :=
  direct sender ⟨0x01, 0x00, 0x5e, 0x00, 0x64, length⟩

def pairFrom (sender : EtherAddr) (index first second : UInt8) : Ieee80211Hdr :=
  direct sender ⟨0x01, 0x00, 0x5e, index, first, second⟩

/-- The second sender's pairs come in between, for the same place and for another one. -/
def interleavedFrames : List Ieee80211Hdr :=
  [syncFrom firstSender 3, pairFrom firstSender 1 7 9, syncFrom firstSender 3,
    pairFrom secondSender 1 4 4, syncFrom firstSender 3, pairFrom secondSender 2 5 5]

theorem one_sender_interleaved :
    SentBy (interleavedFrames ++ [pairFrom firstSender 2 8 0]) firstSender [7, 9, 8, 0] := by
  have own {state : LsdState} {hdr : Ieee80211Hdr}
      (alone : ¬state.session.TakesOver hdr ∧ ¬state.session.StartsOver lenientHost hdr) :
      state.session.Guarded lenientHost hdr :=
    ⟨fun takes => absurd takes alone.1, fun starts => absurd starts alone.2⟩
  refine (@one_sender boot ⟨rfl, fun _ => rfl, rfl⟩ lenientHost interleavedFrames
    (pairFrom firstSender 2 8 0) ⟨own ?_, own ?_, own ?_, own ?_, own ?_, own ?_, trivial⟩
    [7, 9, 8, 0] ?_).1
  · decide +kernel
  · decide +kernel
  · decide +kernel
  · decide +kernel
  · decide +kernel
  · decide +kernel
  · decide +kernel

theorem two_senders_mixed :
    let before := [pairFrom firstSender 1 1 2, pairFrom firstSender 1 1 2,
      syncFrom secondSender 4, pairFrom secondSender 2 3 4, syncFrom secondSender 4,
      syncFrom secondSender 4]
    let found := before.foldl (receive lenientHost) boot
    (tlsWifiLsdOneshot lenientHost (syncFrom secondSender 4) found).2 = some [1, 2, 3, 4, 0] ∧
      (tlsWifiLsdOneshot lenientHost (syncFrom secondSender 4) found).1.gSrcMac = secondSender ∧
      ¬SentBy (before ++ [syncFrom secondSender 4]) secondSender [1, 2, 3, 4, 0] := by
  refine ⟨by decide +kernel, by decide +kernel, ?_⟩
  intro sent
  obtain ⟨hdr, member, source, place, _⟩ := sent.content 0 (by decide)
  simp only [List.cons_append, List.nil_append, List.mem_cons, List.not_mem_nil, or_false]
    at member
  rcases member with rfl | rfl | rfl | rfl | rfl | rfl | rfl <;>
    simp [syncFrom, pairFrom, firstSender, secondSender] at source place

end LsdState

end SmartMeter
