import SmartMeter.Oneshot.MulticastSession

/-!
One sender, one message: in whatever order, how often and with whatever losses its frames
arrive, the first message handed to the decoder is the one that was sent.
-/

namespace SmartMeter

structure MulticastMessage where
  bytes : List UInt8
  nonempty : 1 ≤ bytes.length
  bounded : bytes.length ≤ 254
  sender : EtherAddr
  sender_ne : sender ≠ .zero

namespace MulticastMessage

def pairCount (message : MulticastMessage) : Nat := (message.bytes.length + 1) / 2

def length (message : MulticastMessage) : UInt8 := UInt8.ofNat message.bytes.length

def IsPair (message : MulticastMessage) (index : Nat) (first second : UInt8) : Prop :=
  first = message.bytes.getD (2 * index) 0 ∧
    (2 * index + 1 < message.bytes.length → second = message.bytes.getD (2 * index + 1) 0)

inductive Sends (message : MulticastMessage) (syncode : UInt8) (hdr : Ieee80211Hdr) : Prop where
  | sync (source : hdr.getSA = message.sender)
      (destination : hdr.getDA = ⟨0x01, 0x00, 0x5e, 0x00, syncode, message.length⟩)
  | pair (index : Nat) (inside : index < message.pairCount) (first second : UInt8)
      (source : hdr.getSA = message.sender)
      (destination : hdr.getDA = ⟨0x01, 0x00, 0x5e, UInt8.ofNat (index + 1), first, second⟩)
      (content : message.IsPair index first second)

def Carries (index : Nat) (hdr : Ieee80211Hdr) : Prop :=
  hdr.getDA.b3 = UInt8.ofNat (index + 1)

theorem Sends.source {message : MulticastMessage} {syncode : UInt8} {hdr : Ieee80211Hdr}
    (sent : message.Sends syncode hdr) : hdr.getSA = message.sender := by
  cases sent with
  | sync source _ => exact source
  | pair _ _ _ _ source _ _ => exact source

theorem length_toNat (message : MulticastMessage) :
    message.length.toNat = message.bytes.length := by
  have bounded := message.bounded
  rw [length, UInt8.toNat_ofNat']
  omega

theorem place_toNat {message : MulticastMessage} {index : Nat}
    (inside : index < message.pairCount) :
    0 < UInt8.ofNat (index + 1) ∧ (UInt8.ofNat (index + 1) - 1).toNat = index := by
  have bounded := message.bounded
  have small : index + 1 < 256 := by
    rw [pairCount] at inside
    omega
  have place : (UInt8.ofNat (index + 1)).toNat = index + 1 := by
    rw [UInt8.toNat_ofNat']
    omega
  have one : (1 : UInt8) ≤ UInt8.ofNat (index + 1) := by
    rw [UInt8.le_iff_toNat_le, place]
    simp
  refine ⟨?_, ?_⟩
  · rw [UInt8.lt_iff_toNat_lt, place]
    simp
  · rw [UInt8.toNat_sub_of_le _ _ one, place]
    rfl

end MulticastMessage

namespace MulticastSession

open MulticastMessage

structure Collects (message : MulticastMessage) (received : List Ieee80211Hdr)
    (session : MulticastSession) : Prop where
  source : session.source = .zero ∨ session.source = message.sender
  unheard : session.synced = false → session.source = .zero → session.count = 0
  counted : session.synced = false →
    session.count = 0 ∨ session.count = 1 ∨ session.count = 2 ∧ session.length = message.length
  synced : session.synced = true → session.length = message.length
  held : ∀ index, session.marks index = true →
    index < message.pairCount ∧ (∃ hdr ∈ received, Carries index hdr) ∧
      ∀ data, session.data = some data → message.IsPair index (data (2 * index)) (data (2 * index + 1))

variable {message : MulticastMessage} {received : List Ieee80211Hdr} {session : MulticastSession}
  {hdr : Ieee80211Hdr}

theorem Collects.more (collects : session.Collects message received) (hdr : Ieee80211Hdr) :
    session.Collects message (received ++ [hdr]) := by
  refine ⟨collects.source, collects.unheard, collects.counted, collects.synced, ?_⟩
  intro index marked
  obtain ⟨inside, ⟨frame, member, carries⟩, content⟩ := collects.held index marked
  exact ⟨inside, ⟨frame, List.mem_append_left _ member, carries⟩, content⟩

theorem Collects.latch (collects : session.Collects message received)
    (sent : hdr.getSA = message.sender) :
    Collects message received { session with source := hdr.getSA } := by
  refine ⟨.inr sent, ?_, collects.counted, collects.synced, collects.held⟩
  intro _ zero
  exact absurd (sent.symm.trans zero) message.sender_ne

theorem Collects.drop (collects : session.Collects message received) (count : Nat) :
    (session.drop count).Collects message received := by
  refine ⟨collects.source, collects.unheard, collects.counted, collects.synced, ?_⟩
  intro index marked
  have kept : ¬index < count := by
    intro below
    simp [MulticastSession.drop, below] at marked
  have before : session.marks index = true := by
    simpa [MulticastSession.drop, kept] using marked
  obtain ⟨inside, carried, content⟩ := collects.held index before
  refine ⟨inside, carried, ?_⟩
  intro data present
  obtain ⟨old, allocated, rfl⟩ := Option.map_eq_some_iff.mp present
  have first : ¬(2 * index / 2 < count ∧ session.marks (2 * index / 2) = true) := by omega
  have second : ¬((2 * index + 1) / 2 < count ∧ session.marks ((2 * index + 1) / 2) = true) := by
    omega
  simp only [first, second, if_false]
  exact content old allocated

theorem Collects.relength (collects : session.Collects message received) :
    Collects message received { session with length := message.length } := by
  refine ⟨collects.source, collects.unheard, ?_, fun _ => rfl, collects.held⟩
  intro waiting
  rcases collects.counted waiting with none | one | ⟨two, _⟩
  · exact .inl none
  · exact .inr (.inl one)
  · exact .inr (.inr ⟨two, rfl⟩)

theorem Collects.saveLength (collects : session.Collects message received)
    {dst : EtherAddr} (announced : dst.b5 = message.length) (sync : session.IsSync dst) :
    (session.saveLength dst).Collects message received ∧
      (session.saveLength dst).length = message.length := by
  rw [MulticastSession.saveLength, if_pos sync, announced]
  refine ⟨Collects.relength ?_, rfl⟩
  split
  · exact collects.drop _
  · exact collects

theorem Collects.saveData (collects : session.Collects message received)
    {index : Nat} (inside : index < message.pairCount) {first second : UInt8}
    (destination : hdr.getDA = ⟨0x01, 0x00, 0x5e, UInt8.ofNat (index + 1), first, second⟩)
    (content : message.IsPair index first second) :
    (session.saveData hdr.getDA).Collects message (received ++ [hdr]) := by
  obtain ⟨positive, place⟩ := place_toNat inside
  rw [MulticastSession.saveData, destination]
  dsimp only
  rw [place]
  split
  · have kept := collects.more hdr
    refine ⟨kept.source, kept.unheard, kept.counted, kept.synced, ?_⟩
    intro other marked
    dsimp only at marked ⊢
    by_cases here : other = index
    · subst here
      refine ⟨inside, ⟨hdr, by simp, ?_⟩, ?_⟩
      · rw [Carries, destination]
      · intro data present
        obtain ⟨old, _, rfl⟩ := Option.map_eq_some_iff.mp present
        have apart : 2 * other ≠ 2 * other + 1 := by omega
        rw [Function.update_self, Function.update_of_ne apart, Function.update_self]
        exact content
    · rw [Function.update_of_ne here] at marked
      obtain ⟨bound, carried, old_content⟩ := kept.held other marked
      refine ⟨bound, carried, ?_⟩
      intro data present
      obtain ⟨old, allocated, rfl⟩ := Option.map_eq_some_iff.mp present
      simp only [Function.update_apply]
      rw [if_neg (by omega), if_neg (by omega), if_neg (by omega), if_neg (by omega)]
      exact old_content old allocated
  · exact collects.more hdr

/-- One frame taken in. A length announced by the known sender is then the one recorded. -/
theorem Collects.gather (collects : session.Collects message received)
    (sent : message.Sends session.syncode hdr) :
    (session.gather hdr).Collects message (received ++ [hdr]) ∧
      (session.IsSync hdr.getDA → session.source ≠ .zero →
        (session.gather hdr).length = message.length) := by
  rw [MulticastSession.gather]
  by_cases fresh : session.source = .zero
  · rw [if_pos fresh]
    exact ⟨(collects.more hdr).latch sent.source, fun _ known => absurd fresh known⟩
  · have own : session.source = hdr.getSA := by
      rcases collects.source with zero | same
      · exact absurd zero fresh
      · exact same.trans sent.source.symm
    rw [if_neg fresh, if_pos own]
    cases sent with
    | sync source destination =>
        have none : session.saveData hdr.getDA = session := by
          rw [MulticastSession.saveData, destination]
          exact if_neg (fun both => UInt8.lt_irrefl 0 both.1)
        have sync : session.IsSync hdr.getDA := by
          rw [destination]
          exact ⟨rfl, rfl⟩
        have announced : hdr.getDA.b5 = message.length := by rw [destination]
        obtain ⟨kept, length⟩ := (collects.more hdr).saveLength announced sync
        rw [none]
        exact ⟨kept, fun _ _ => length⟩
    | pair index inside first second source destination content =>
        have positive := (place_toNat inside).1
        have data : hdr.getDA.b3 ≠ 0 := by
          rw [destination]
          exact (UInt8.ne_of_lt positive).symm
        have kept := collects.saveData inside destination content
        have none : (session.saveData hdr.getDA).saveLength hdr.getDA =
            session.saveData hdr.getDA := by
          rw [MulticastSession.saveLength]
          exact if_neg (fun sync => data sync.1)
        rw [none]
        exact ⟨kept, fun sync => absurd sync.1 data⟩

/-- Once the sender is recorded, the count of its length frames says whether the length is
known. -/
theorem Collects.recount (collects : session.Collects message received)
    (sent : hdr.getSA = message.sender) (recorded : session.source = message.sender)
    (known : session.nextCount hdr = 0 ∨ session.nextCount hdr = 1 ∨
      (session.nextCount hdr = 2 ∨ session.nextCount hdr = 3) ∧ session.length = message.length) :
    (session.synchronise hdr).Collects message received := by
  rw [MulticastSession.synchronise]
  generalize session.nextCount hdr = next at known ⊢
  have heard {source : EtherAddr} (same : source = message.sender) (zero : source = .zero) :
      False := message.sender_ne (same.symm.trans zero)
  rcases known with rfl | rfl | ⟨rfl | rfl, length⟩
  · exact ⟨.inr recorded, fun _ zero => (heard recorded zero).elim, fun _ => .inl rfl,
      collects.synced, collects.held⟩
  · exact ⟨.inr sent, fun _ zero => (heard sent zero).elim, fun _ => .inr (.inl rfl),
      collects.synced, collects.held⟩
  · exact ⟨.inr recorded, fun _ zero => (heard recorded zero).elim,
      fun _ => .inr (.inr ⟨rfl, length⟩), collects.synced, collects.held⟩
  · refine ⟨.inr sent, ?_, ?_, fun _ => length, collects.held⟩
    · intro off
      exact absurd off Bool.noConfusion
    · intro off
      exact absurd off Bool.noConfusion

theorem Collects.synchronise (collects : session.Collects message received)
    (sent : message.Sends session.syncode hdr) (waiting : session.synced = false) :
    ((session.gather hdr).synchronise hdr).Collects message (received ++ [hdr]) := by
  obtain ⟨kept, announced⟩ := collects.gather sent
  obtain ⟨synced, count, _, _⟩ := session.gather_keeps hdr
  have recorded : (session.gather hdr).source = message.sender := by
    rw [gather_source]
    split
    · exact sent.source
    · rename_i known
      exact collects.source.resolve_left known
  refine kept.recount sent.source recorded ?_
  rw [gather_nextCount, nextCount]
  by_cases sync : session.IsSync hdr.getDA
  · rw [if_pos sync]
    rcases collects.counted waiting with none | one | ⟨two, _⟩
    · exact .inr (.inl (by rw [none]; rfl))
    · have heard : session.source ≠ .zero := by
        intro zero
        have none := collects.unheard waiting zero
        exact absurd (one.symm.trans none) (by decide)
      exact .inr (.inr ⟨.inl (by rw [one]; rfl), announced sync heard⟩)
    · have heard : session.source ≠ .zero := by
        intro zero
        have none := collects.unheard waiting zero
        exact absurd (two.symm.trans none) (by decide)
      exact .inr (.inr ⟨.inr (by rw [two]; rfl), announced sync heard⟩)
  · rw [if_neg sync]
    rcases kept.counted (synced.trans waiting) with none | one | ⟨two, length⟩
    · exact .inl (count.symm.trans none)
    · exact .inr (.inl (count.symm.trans one))
    · exact .inr (.inr ⟨.inl (count.symm.trans two), length⟩)

theorem Collects.message_eq (collects : session.Collects message received)
    (synced : session.synced = true) (allocated : session.data.isSome = true)
    (complete : session.Complete) : session.message = message.bytes ++ [0] := by
  obtain ⟨data, present⟩ := Option.isSome_iff_exists.mp allocated
  have length : session.length.toNat = message.bytes.length := by
    rw [collects.synced synced, length_toNat]
  rw [MulticastSession.message, present]
  dsimp only
  rw [length]
  congr 1
  apply List.ext_getElem
  · exact Buffer.toList_length _ _
  · intro place inside bound
    have marked := complete.2.2 (place / 2) (by omega)
    obtain ⟨first, second⟩ := (collects.held (place / 2) marked).2.2 data present
    simp only [Buffer.toList, List.getElem_map, List.getElem_range]
    have read : message.bytes.getD place 0 = message.bytes[place] := by
      simp [List.getD, bound]
    by_cases even : place = 2 * (place / 2)
    · rw [← even] at first
      exact first.trans read
    · have odd : place = 2 * (place / 2) + 1 := by omega
      rw [← odd] at second
      exact (second bound).trans read

theorem Collects.step (collects : session.Collects message received)
    (sent : message.Sends session.syncode hdr) (host : OneshotHost)
    (silent : (session.step host hdr).2 = none) :
    (session.step host hdr).1.Collects message (received ++ [hdr]) := by
  rw [MulticastSession.step] at silent ⊢
  by_cases heard : session.Listens hdr
  · rw [if_pos heard] at silent ⊢
    dsimp only at silent ⊢
    obtain ⟨synced, _⟩ := session.gather_keeps hdr
    by_cases done : (session.gather hdr).synced = true
    · rw [if_pos done] at silent ⊢
      split at silent
      · exact absurd silent (Option.some_ne_none _)
      · rename_i missing
        rw [if_neg missing]
        exact (collects.gather sent).1
    · rw [if_neg done]
      exact collects.synchronise sent (synced.symm.trans (Bool.of_not_eq_true done))
  · rw [if_neg heard]
    exact collects.more hdr

theorem Collects.passed (collects : session.Collects message received)
    (sent : message.Sends session.syncode hdr) (host : OneshotHost) {bytes : List UInt8}
    (call : (session.step host hdr).2 = some bytes) :
    bytes = message.bytes ++ [0] ∧
      ∀ index < message.pairCount, ∃ frame ∈ received ++ [hdr], Carries index frame := by
  have kept := (collects.gather sent).1
  rw [MulticastSession.step] at call
  split at call
  · rename_i heard
    dsimp only at call
    split at call
    · rename_i synced
      split at call
      · rename_i complete
        have allocated : (session.gather hdr).data.isSome = true := by
          rw [gather_allocated]
          exact heard.2.2.2.2
        refine ⟨?_, ?_⟩
        · rw [← Option.some.inj call]
          exact kept.message_eq synced allocated complete
        · intro index inside
          have place : index < ((session.gather hdr).length.toNat + 1) / 2 := by
            rw [kept.synced synced, length_toNat]
            exact inside
          exact (kept.held index (complete.2.2 index place)).2.1
      · exact absurd call.symm (Option.some_ne_none _)
    · exact absurd call.symm (Option.some_ne_none _)
  · exact absurd call.symm (Option.some_ne_none _)

end MulticastSession

namespace LsdState

open MulticastMessage MulticastSession

variable {message : MulticastMessage}

theorem foldl_collects (host : OneshotHost) {frames received : List Ieee80211Hdr}
    {state : LsdState} (collects : state.session.Collects message received)
    (sent : ∀ hdr ∈ frames, message.Sends state.uclsdsyncode hdr)
    (silent : ∀ passed ∈ passedAlong host state frames, passed = none) :
    (frames.foldl (receive host) state).session.Collects message (received ++ frames) ∧
      (frames.foldl (receive host) state).uclsdsyncode = state.uclsdsyncode := by
  induction frames generalizing state received with
  | nil =>
      rw [List.append_nil]
      exact ⟨collects, rfl⟩
  | cons hdr rest ih =>
      have quiet : (state.session.step host hdr).2 = none := by
        rw [← (tlsWifiLsdOneshot_session host hdr state).2]
        exact silent _ List.mem_cons_self
      have first := collects.step (sent hdr List.mem_cons_self) host quiet
      rw [← receive_session] at first
      have code : (state.receive host hdr).uclsdsyncode = state.uclsdsyncode := by
        have same := step_syncode host hdr state.session
        rw [← receive_session] at same
        exact same
      have later := ih first (fun next member => by
        rw [code]
        exact sent next (List.mem_cons_of_mem _ member))
        (fun passed member => silent passed (List.mem_cons_of_mem _ member))
      rw [List.append_assoc, code] at later
      exact later

/-- The first call of the decoder gets the message that was sent, and only once each of its
pairs has come. -/
theorem multicast_message_decoded {state : LsdState}
    (unmarked : ∀ index, state.ullsddatavalid index = false) (fresh : state.gSrcMac = .zero)
    (idle : state.guchandshakeflag = false ∧ state.lsdhandshakecnt = 0)
    (message : MulticastMessage) (host : OneshotHost) {before : List Ieee80211Hdr}
    {hdr : Ieee80211Hdr}
    (sent : ∀ frame ∈ before ++ [hdr], message.Sends state.uclsdsyncode frame)
    (silent : ∀ passed ∈ passedAlong host state before, passed = none) {bytes : List UInt8}
    (call : (tlsWifiLsdOneshot host hdr (before.foldl (receive host) state)).2 = some bytes) :
    bytes = message.bytes ++ [0] ∧
      ∀ index < message.pairCount, ∃ frame ∈ before ++ [hdr], Carries index frame := by
  have start : state.session.Collects message [] := by
    refine ⟨.inl fresh, ?_, ?_, ?_, ?_⟩
    · intro _ _
      simp [session, idle]
    · intro _
      exact .inl (by simp [session, idle])
    · intro synced
      exact absurd (idle.1.symm.trans synced) Bool.noConfusion
    · intro index marked
      exact absurd ((unmarked index).symm.trans marked) Bool.noConfusion
  obtain ⟨collects, code⟩ := foldl_collects host start
    (fun frame member => sent frame (List.mem_append_left _ member)) silent
  rw [(tlsWifiLsdOneshot_session host hdr _).2] at call
  have last : message.Sends (before.foldl (receive host) state).session.syncode hdr := by
    have same : (before.foldl (receive host) state).session.syncode = state.uclsdsyncode := code
    rw [same]
    exact sent hdr (List.mem_append_right _ (List.mem_singleton_self hdr))
  exact collects.passed last host call

def shortMessage : MulticastMessage :=
  ⟨[7, 9, 8], by simp, by simp, ⟨2, 0, 0, 0, 0, 1⟩, by simp [EtherAddr.zero]⟩

def shortSync : Ieee80211Hdr := direct shortMessage.sender ⟨0x01, 0x00, 0x5e, 0x00, 0x64, 3⟩

def firstPair : Ieee80211Hdr := direct shortMessage.sender ⟨0x01, 0x00, 0x5e, 0x01, 7, 9⟩

def secondPair : Ieee80211Hdr := direct shortMessage.sender ⟨0x01, 0x00, 0x5e, 0x02, 8, 5⟩

/-- The pairs come the wrong way round, one of them twice. -/
def shortFrames : List Ieee80211Hdr :=
  [shortSync, secondPair, shortSync, secondPair, shortSync]

theorem multicast_message_decoded_short :
    ([7, 9, 8, 0] : List UInt8) = shortMessage.bytes ++ [0] ∧
      ∀ index < shortMessage.pairCount,
        ∃ frame ∈ shortFrames ++ [firstPair], Carries index frame := by
  have announces : shortMessage.Sends 0x64 shortSync :=
    .sync (direct_getSA _ _) (direct_getDA _ _)
  have brings : shortMessage.Sends 0x64 firstPair :=
    .pair 0 (by decide) 7 9 (direct_getSA _ _) (direct_getDA _ _) ⟨rfl, fun _ => rfl⟩
  have ends : shortMessage.Sends 0x64 secondPair :=
    .pair 1 (by decide) 8 5 (direct_getSA _ _) (direct_getDA _ _)
      ⟨rfl, fun more => absurd more (by decide)⟩
  refine @multicast_message_decoded boot (fun _ => rfl) rfl ⟨rfl, rfl⟩ shortMessage lenientHost
    shortFrames firstPair ?_ ?_ [7, 9, 8, 0] ?_
  · simp [shortFrames, announces, brings, ends, boot]
  · decide +kernel
  · decide +kernel

end LsdState

end SmartMeter
