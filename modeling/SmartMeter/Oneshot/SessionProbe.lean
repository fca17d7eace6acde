import SmartMeter.Oneshot.SessionReset

/-!
Continuations that tell two cleared sessions apart: a sender brings some pairs and announces a
length four times, and the last frame is answered with a call of the decoder if all pairs of
that length are marked.
-/

namespace SmartMeter

open LsdState

namespace MulticastSession

theorem last_eq_of_passedAlong_eq {host : OneshotHost} (frames : List Ieee80211Hdr)
    (last : Ieee80211Hdr) {first second : MulticastSession}
    (same : passedAlong host first (frames ++ [last]) = passedAlong host second (frames ++ [last])) :
    ((frames.foldl (receive host) first).step host last).2 =
      ((frames.foldl (receive host) second).step host last).2 := by
  induction frames generalizing first second with
  | nil => exact (List.cons.inj same).1
  | cons hdr rest ih => exact ih (List.cons.inj same).2

/-- A session in which the handshake has not begun and no length is known. -/
structure Idle (session : MulticastSession) : Prop where
  synced : session.synced = false
  count : session.count = 0
  length : session.length = 0xFF
  allocated : session.data.isSome = true

def sync (session : MulticastSession) (sender : EtherAddr) (length : UInt8) : Ieee80211Hdr :=
  direct sender ⟨0x01, 0x00, 0x5e, 0x00, session.syncode, length⟩

def pair (sender : EtherAddr) (index : UInt8) : Ieee80211Hdr :=
  direct sender ⟨0x01, 0x00, 0x5e, index, 0, 0⟩

variable {session : MulticastSession} {sender : EtherAddr} {hdr : Ieee80211Hdr}

theorem step_waiting (host : OneshotHost) (heard : session.Listens hdr)
    (waiting : session.synced = false) :
    session.step host hdr = ((session.gather hdr).synchronise hdr, none) := by
  have synced := (session.gather_keeps hdr).1
  have off : ¬(session.gather hdr).synced = true := by
    rw [synced, waiting]
    exact Bool.false_ne_true
  rw [step, if_pos heard]
  dsimp only
  rw [if_neg off]

theorem gather_sync (session : MulticastSession) (sender : EtherAddr) {length : UInt8}
    (settled : session.length = 0xFF ∨ session.length = length) :
    session.gather (session.sync sender length) =
      if session.source = .zero then { session with source := sender }
      else if session.source = sender then { session with length := length }
      else session := by
  have none : session.saveData (session.sync sender length).getDA = session := by
    rw [saveData, sync, direct_getDA]
    exact if_neg (fun both => UInt8.lt_irrefl 0 both.1)
  have announces : session.IsSync (session.sync sender length).getDA := by
    rw [sync, direct_getDA]
    exact ⟨rfl, rfl⟩
  have stays : ¬(session.length ≠ 0xFF ∧ length ≠ session.length) := by
    rintro ⟨known, other⟩
    exact settled.elim known (fun same => other same.symm)
  have relength : session.saveLength (session.sync sender length).getDA =
      { session with length := length } := by
    rw [saveLength, if_pos announces]
    have stays' : ¬(session.length ≠ 0xFF ∧
        (session.sync sender length).getDA.b5 ≠ session.length) := by
      rw [sync, direct_getDA]
      exact stays
    rw [if_neg stays', sync, direct_getDA]
  rw [gather, none, relength, sync, direct_getSA]

theorem listens_sync (allocated : session.data.isSome = true) (length : UInt8) :
    session.Listens (session.sync sender length) := by
  rw [Listens, sync, direct_getDA]
  exact ⟨rfl, rfl, rfl, fun _ => rfl, allocated⟩

theorem nextCount_sync (session : MulticastSession) (sender : EtherAddr) (length : UInt8) :
    session.nextCount (session.sync sender length) = session.count + 1 := by
  rw [nextCount, sync, direct_getDA]
  exact if_pos ⟨rfl, rfl⟩

theorem synchronise_idle (next : session.nextCount hdr = 0) :
    session.synchronise hdr = { session with count := 0 } := by
  rw [synchronise, next]
  rfl

theorem synchronise_first (next : session.nextCount hdr = 1) :
    session.synchronise hdr = { session with source := hdr.getSA, count := 1 } := by
  rw [synchronise, next]
  rfl

theorem synchronise_second (next : session.nextCount hdr = 2) :
    session.synchronise hdr = { session with count := 2 } := by
  rw [synchronise, next]
  rfl

theorem synchronise_third (next : session.nextCount hdr = 3) :
    session.synchronise hdr =
      { session with source := hdr.getSA, synced := true, count := 0 } := by
  rw [synchronise, next]
  rfl

theorem getSA_sync (session : MulticastSession) (sender : EtherAddr) (length : UInt8) :
    (session.sync sender length).getSA = sender :=
  direct_getSA _ _

/-- The first announcement; a sender that is not the source yet becomes it here, and its length
is not taken in. -/
theorem receive_first_sync (host : OneshotHost) (idle : session.Idle) (length : UInt8) :
    ∃ known, (known = 0xFF ∨ known = length) ∧
      session.receive host (session.sync sender length) =
        { session with source := sender, count := 1, length := known } := by
  have next (other : MulticastSession) (count : other.count = 0)
      (code : other.syncode = session.syncode) :
      other.nextCount (session.sync sender length) = 1 := by
    have counted := nextCount_sync other sender length
    rw [sync, code, count] at counted
    exact counted
  rw [receive, step_waiting host (listens_sync idle.allocated length) idle.synced,
    gather_sync session sender (.inl idle.length)]
  dsimp only
  split
  · refine ⟨0xFF, .inl rfl, (synchronise_first (next _ ?_ ?_)).trans ?_⟩
    · exact idle.count
    · rfl
    · rw [getSA_sync, ← idle.length]
  · split
    · refine ⟨length, .inr rfl, (synchronise_first (next _ ?_ ?_)).trans ?_⟩
      · exact idle.count
      · rfl
      · rw [getSA_sync]
    · refine ⟨0xFF, .inl rfl, (synchronise_first (next _ ?_ ?_)).trans ?_⟩
      · exact idle.count
      · rfl
      · rw [getSA_sync, ← idle.length]

theorem step_next_sync (host : OneshotHost) (allocated : session.data.isSome = true)
    (waiting : session.synced = false) (known : sender ≠ .zero) (own : session.source = sender)
    {length : UInt8} (settled : session.length = 0xFF ∨ session.length = length) :
    session.receive host (session.sync sender length) =
      MulticastSession.synchronise (session.sync sender length) { session with length := length } := by
  have recorded : session.source ≠ .zero := own ▸ known
  rw [receive, step_waiting host (listens_sync allocated length) waiting,
    gather_sync session sender settled, if_neg recorded, if_pos own]

theorem three_syncs (host : OneshotHost) (idle : session.Idle) (known : sender ≠ .zero)
    (length : UInt8) :
    [session.sync sender length, session.sync sender length, session.sync sender length].foldl
        (receive host) session =
      { session with source := sender, synced := true, count := 0, length := length } := by
  obtain ⟨first, settled, one⟩ := @receive_first_sync session sender host idle length
  have two := @step_next_sync { session with source := sender, count := 1, length := first } sender
    host idle.allocated idle.synced known rfl length settled
  have second : MulticastSession.nextCount (session.sync sender length)
      { session with source := sender, count := 1, length := length } = 2 :=
    nextCount_sync { session with source := sender, count := 1, length := length } sender length
  have three := @step_next_sync { session with source := sender, count := 2, length := length }
    sender host idle.allocated idle.synced known rfl length (.inr rfl)
  have third : MulticastSession.nextCount (session.sync sender length)
      { session with source := sender, count := 2, length := length } = 3 :=
    nextCount_sync { session with source := sender, count := 2, length := length } sender length
  have last := three.trans (synchronise_third third)
  rw [getSA_sync] at last
  simp only [List.foldl_cons, List.foldl_nil]
  rw [one]
  exact (congrArg (fun next => receive host next (session.sync sender length))
    (two.trans (synchronise_second second))).trans last

/-- What a pair leaves of a session: it is marked if its sender is the source already, and the
sender becomes the source if there is none. -/
structure Paired (before after : MulticastSession) (sender : EtherAddr) (index : Nat) : Prop where
  idle : after.Idle
  syncode : after.syncode = before.syncode
  custom : after.custom = before.custom
  source : after.source = if before.source = .zero then sender else before.source
  marks : ∀ other, after.marks other =
    if before.source = sender ∧ other = index then true else before.marks other

theorem receive_pair (host : OneshotHost) (idle : session.Idle) (known : sender ≠ .zero)
    {index : UInt8} (positive : 0 < index) :
    Paired session (session.receive host (pair sender index)) sender (index - 1).toNat := by
  have address : (pair sender index).getDA = ⟨0x01, 0x00, 0x5e, index, 0, 0⟩ := direct_getDA _ _
  have from_sender : (pair sender index).getSA = sender := direct_getSA _ _
  have data : index ≠ 0 := (UInt8.ne_of_lt positive).symm
  have silent (other : MulticastSession) : ¬other.IsSync (pair sender index).getDA := by
    rw [address]
    exact fun sync => data sync.1
  have heard : session.Listens (pair sender index) := by
    rw [Listens, address]
    exact ⟨rfl, rfl, rfl, fun zero => absurd zero data, idle.allocated⟩
  obtain ⟨synced, count, syncode, custom⟩ := session.gather_keeps (pair sender index)
  have next : (session.gather (pair sender index)).nextCount (pair sender index) = 0 := by
    rw [gather_nextCount, nextCount, if_neg (silent session)]
    exact idle.count
  have received : session.receive host (pair sender index) =
      { session.gather (pair sender index) with count := 0 } := by
    rw [receive, step_waiting host heard idle.synced]
    exact synchronise_idle next
  rw [received]
  have saved : session.gather (pair sender index) =
      if session.source = .zero then { session with source := sender }
      else if session.source = sender then session.saveData (pair sender index).getDA
      else session := by
    rw [gather, from_sender, saveLength, if_neg (silent _)]
  refine ⟨⟨synced.trans idle.synced, rfl, ?_, ?_⟩, syncode, custom, ?_, ?_⟩
  · show (session.gather (pair sender index)).length = 0xFF
    rw [saved]
    split
    · exact idle.length
    · split
      · exact (saveData_keeps _ _).2.2.2.2.2.trans idle.length
      · exact idle.length
  · exact (gather_allocated _ _).trans idle.allocated
  · have source := gather_source (pair sender index) session
    rw [from_sender] at source
    exact source
  · intro other
    show (session.gather (pair sender index)).marks other = _
    rw [saved]
    by_cases fresh : session.source = .zero
    · have apart : ¬(session.source = sender ∧ other = (index - 1).toNat) :=
        fun both => known (both.1.symm.trans fresh)
      rw [if_pos fresh, if_neg apart]
    · rw [if_neg fresh]
      by_cases own : session.source = sender
      · rw [if_pos own, saveData_marks, address]
        simp [own, positive]
      · rw [if_neg own, if_neg (fun both => own both.1)]

/-- The first pair is sent twice, since a sender that is not recorded yet loses its first frame. -/
def pairs (sender : EtherAddr) (count : Nat) : List Ieee80211Hdr :=
  pair sender 1 :: (List.range count).map fun index => pair sender (UInt8.ofNat (index + 1))

structure Filled (before after : MulticastSession) (sender : EtherAddr) (count : Nat) : Prop where
  idle : after.Idle
  syncode : after.syncode = before.syncode
  custom : after.custom = before.custom
  source : after.source = sender
  marks : ∀ index, after.marks index = if index < count then true else before.marks index

theorem foldl_range_pairs (host : OneshotHost) (idle : session.Idle) (known : sender ≠ .zero)
    (own : session.source = sender) {count : Nat} (bound : count ≤ 127) :
    Filled session
      (((List.range count).map fun index => pair sender (UInt8.ofNat (index + 1))).foldl
        (receive host) session) sender count := by
  induction count with
  | zero => exact ⟨idle, rfl, rfl, own, fun _ => rfl⟩
  | succ count ih =>
      have filled := ih (Nat.le_of_succ_le bound)
      rw [List.range_succ, List.map_append, List.foldl_append]
      have number : (UInt8.ofNat (count + 1)).toNat = count + 1 := by
        rw [UInt8.toNat_ofNat']
        omega
      have one : (1 : UInt8) ≤ UInt8.ofNat (count + 1) := by
        rw [UInt8.le_iff_toNat_le, number]
        simp
      have positive : 0 < UInt8.ofNat (count + 1) := by
        rw [UInt8.lt_iff_toNat_lt, number]
        simp
      have place : (UInt8.ofNat (count + 1) - 1).toNat = count := by
        rw [UInt8.toNat_sub_of_le _ _ one, number]
        rfl
      have paired := receive_pair host filled.idle known positive
      rw [place] at paired
      refine ⟨paired.idle, paired.syncode.trans filled.syncode,
        paired.custom.trans filled.custom, ?_, ?_⟩
      · refine paired.source.trans ?_
        rw [filled.source, if_neg known]
      · intro index
        refine (paired.marks index).trans ?_
        rw [filled.marks index]
        by_cases last : index = count
        · rw [if_pos ⟨filled.source, last⟩, if_pos (by omega)]
        · have lower : index < count + 1 ↔ index < count := by omega
          rw [if_neg (fun both => last both.2)]
          exact if_congr lower.symm rfl rfl

theorem foldl_pairs (host : OneshotHost) (idle : session.Idle) (known : sender ≠ .zero)
    (near : session.source = .zero ∨ session.source = sender) {count : Nat}
    (some_pairs : 0 < count) (bound : count ≤ 127) :
    Filled session ((pairs sender count).foldl (receive host) session) sender count := by
  have first := receive_pair host idle known (by decide : (0 : UInt8) < 1)
  have recorded : (session.receive host (pair sender 1)).source = sender := by
    rw [first.source]
    split
    · rfl
    · rename_i other
      exact near.resolve_left other
  have filled := foldl_range_pairs host first.idle known recorded bound
  refine ⟨filled.idle, filled.syncode.trans first.syncode, filled.custom.trans first.custom,
    filled.source, ?_⟩
  intro index
  refine (filled.marks index).trans ?_
  by_cases inside : index < count
  · rw [if_pos inside, if_pos inside]
  · have apart : ¬(session.source = sender ∧ index = (1 - 1 : UInt8).toNat) := by
      rintro ⟨_, zero⟩
      have none : (1 - 1 : UInt8).toNat = 0 := rfl
      omega
    rw [if_neg inside, if_neg inside, first.marks, if_neg apart]

theorem step_last_sync (host : OneshotHost) (synced : session.synced = true)
    (allocated : session.data.isSome = true) (known : session.source ≠ .zero) :
    session.step host (session.sync session.source session.length) =
      if session.Complete then (session.decoded (host.decode session.message), some session.message)
      else (session, none) := by
  have gathered : session.gather (session.sync session.source session.length) = session := by
    rw [gather_sync session session.source (.inr rfl), if_neg known, if_pos rfl]
  rw [step, if_pos (listens_sync allocated session.length)]
  dsimp only
  rw [gathered, if_pos synced]

def probe (session : MulticastSession) (sender : EtherAddr) (count : Nat) (length : UInt8) :
    List Ieee80211Hdr :=
  pairs sender count ++
    [session.sync sender length, session.sync sender length, session.sync sender length]

structure Probed (before after : MulticastSession) (sender : EtherAddr) (length : UInt8)
    (marks : Nat → Bool) : Prop where
  synced : after.synced = true
  source : after.source = sender
  length : after.length = length
  syncode : after.syncode = before.syncode
  custom : after.custom = before.custom
  allocated : after.data.isSome = true
  marks : after.marks = marks

theorem foldl_probe (host : OneshotHost) (idle : session.Idle) (known : sender ≠ .zero)
    (near : session.source = .zero ∨ session.source = sender) {count : Nat}
    (some_pairs : 0 < count) (bound : count ≤ 127) (length : UInt8) :
    Probed session ((session.probe sender count length).foldl (receive host) session) sender length
      fun index => if index < count then true else session.marks index := by
  have filled := foldl_pairs host idle known near some_pairs bound
  have stepped := three_syncs host filled.idle known length
  have frame : ((pairs sender count).foldl (receive host) session).sync sender length =
      session.sync sender length := by
    rw [sync, sync, filled.syncode]
  rw [frame] at stepped
  rw [probe, List.foldl_append, stepped]
  exact ⟨rfl, rfl, rfl, filled.syncode, filled.custom, filled.idle.allocated,
    funext filled.marks⟩

theorem foldl_one_pair (host : OneshotHost) (idle : session.Idle) (known : sender ≠ .zero)
    (length : UInt8) :
    Probed session
      ((pair sender 1 :: [session.sync sender length, session.sync sender length,
        session.sync sender length]).foldl (receive host) session) sender length
      fun index => if session.source = sender ∧ index = 0 then true else session.marks index := by
  have first := receive_pair host idle known (by decide : (0 : UInt8) < 1)
  have stepped := three_syncs host first.idle known length
  have frame : (session.receive host (pair sender 1)).sync sender length =
      session.sync sender length := by
    rw [sync, sync, first.syncode]
  rw [frame] at stepped
  rw [List.foldl_cons, stepped]
  exact ⟨rfl, rfl, rfl, first.syncode, first.custom, first.idle.allocated, funext first.marks⟩

theorem Probed.last {before after : MulticastSession} {length : UInt8} {marks : Nat → Bool}
    (probed : Probed before after sender length marks) (host : OneshotHost)
    (known : sender ≠ .zero) :
    after.step host (before.sync sender length) =
        (if after.Complete then (after.decoded (host.decode after.message), some after.message)
          else (after, none)) ∧
      (after.Complete ↔
        length ≠ 0 ∧ length ≠ 0xFF ∧ ∀ index < (length.toNat + 1) / 2, marks index = true) := by
  refine ⟨?_, ?_⟩
  · have frame : before.sync sender length = after.sync after.source after.length := by
      rw [sync, sync, probed.syncode, probed.source, probed.length]
    rw [frame]
    exact step_last_sync host probed.synced probed.allocated (probed.source ▸ known)
  · rw [Complete, probed.length, probed.marks]

/-- If the answers to one more announcement are the same, so is what they depend on. -/
theorem Probed.complete_iff {before after other other_after : MulticastSession} {length : UInt8}
    {marks other_marks : Nat → Bool} (probed : Probed before after sender length marks)
    (probed_other : Probed other other_after sender length other_marks) {host : OneshotHost}
    (known : sender ≠ .zero) (code : before.syncode = other.syncode)
    (same : (after.step host (before.sync sender length)).2 =
      (other_after.step host (before.sync sender length)).2) :
    after.Complete ↔ other_after.Complete := by
  have frame : before.sync sender length = other.sync sender length := by
    rw [sync, sync, code]
  have one := (probed.last host known).1
  have two := (probed_other.last host known).1
  rw [← frame] at two
  rw [one, two] at same
  constructor
  · intro complete
    by_contra missing
    rw [if_pos complete, if_neg missing] at same
    exact Option.some_ne_none _ same
  · intro complete
    by_contra missing
    rw [if_pos complete, if_neg missing] at same
    exact Option.some_ne_none _ same.symm

variable {first second : MulticastSession}

theorem source_of_same (idle : first.Idle) (idle_second : second.Idle)
    (code : first.syncode = second.syncode) (known : first.source ≠ .zero)
    (unmarked : second.marks 0 = false) {host : OneshotHost}
    (same : ∀ frames, passedAlong host first frames = passedAlong host second frames) :
    second.source = first.source := by
  by_contra foreign
  have one := foldl_one_pair host idle known 1
  have two := foldl_one_pair host idle_second known 1
  have frame : second.sync first.source 1 = first.sync first.source 1 := by
    rw [sync, sync, code]
  rw [frame] at two
  have answers := one.complete_iff two known code (last_eq_of_passedAlong_eq _ _ (same _))
  rw [(one.last host known).2, (two.last host known).2] at answers
  have complete : (1 : UInt8) ≠ 0 ∧ (1 : UInt8) ≠ 0xFF ∧
      ∀ index < ((1 : UInt8).toNat + 1) / 2,
        (if first.source = first.source ∧ index = 0 then true else first.marks index) = true := by
    refine ⟨by decide, by decide, ?_⟩
    intro index inside
    have zero : index = 0 := Nat.lt_one_iff.mp inside
    rw [if_pos ⟨rfl, zero⟩]
  have marked := (answers.mp complete).2.2 0 (by decide)
  rw [if_neg (fun both => foreign both.1), unmarked] at marked
  exact Bool.false_ne_true marked

def anySender (session : MulticastSession) : EtherAddr :=
  if session.source = .zero then ⟨2, 0, 0, 0, 0, 1⟩ else session.source

theorem anySender_ne (session : MulticastSession) : session.anySender ≠ .zero := by
  rw [anySender]
  split
  · decide
  · assumption

theorem anySender_near (session : MulticastSession) :
    session.source = .zero ∨ session.source = session.anySender := by
  rw [anySender]
  split
  · rename_i fresh
    exact .inl fresh
  · exact .inr rfl

theorem mark_of_same (idle : first.Idle) (idle_second : second.Idle)
    (code : first.syncode = second.syncode) (source : first.source = second.source)
    {index : Nat} (positive : 0 < index) (bound : index < 127) (marked : first.marks index = true)
    {host : OneshotHost}
    (same : ∀ frames, passedAlong host first frames = passedAlong host second frames) :
    second.marks index = true := by
  have near := first.anySender_near
  have near_second : second.source = .zero ∨ second.source = first.anySender := source ▸ near
  have known := first.anySender_ne
  have one := foldl_probe host idle known near positive (Nat.le_of_lt bound)
    (UInt8.ofNat (2 * index + 2))
  have two := foldl_probe host idle_second known near_second positive (Nat.le_of_lt bound)
    (UInt8.ofNat (2 * index + 2))
  have frames : second.probe first.anySender index (UInt8.ofNat (2 * index + 2)) =
      first.probe first.anySender index (UInt8.ofNat (2 * index + 2)) := by
    rw [probe, probe, sync, sync, code]
  rw [frames] at two
  have answers := one.complete_iff two known code (last_eq_of_passedAlong_eq _ _ (same _))
  rw [(one.last host known).2, (two.last host known).2] at answers
  have length : (UInt8.ofNat (2 * index + 2)).toNat = 2 * index + 2 := by
    rw [UInt8.toNat_ofNat']
    omega
  have some_length : UInt8.ofNat (2 * index + 2) ≠ 0 := by
    intro zero
    rw [zero] at length
    exact absurd length.symm (Nat.succ_ne_zero _)
  have short_length : UInt8.ofNat (2 * index + 2) ≠ 0xFF := by
    intro last
    rw [last] at length
    have value : (0xFF : UInt8).toNat = 255 := rfl
    omega
  have complete : UInt8.ofNat (2 * index + 2) ≠ 0 ∧ UInt8.ofNat (2 * index + 2) ≠ 0xFF ∧
      ∀ place < ((UInt8.ofNat (2 * index + 2)).toNat + 1) / 2,
        (if place < index then true else first.marks place) = true := by
    refine ⟨some_length, short_length, ?_⟩
    intro place inside
    split
    · rfl
    · have here : place = index := by omega
      rw [here, marked]
  have marks := (answers.mp complete).2.2 index (by omega)
  rw [if_neg (Nat.lt_irrefl index)] at marks
  exact marks

/-- A decoder that takes everything and stores nothing: what custom data an earlier session left
decides whether the session starts over. -/
theorem decoded_lenient (session : MulticastSession) (message : List UInt8) :
    session.decoded (lenientHost.decode message) =
      if session.custom = 0 then
        { session with
          data := session.data.map fun data => Function.update data session.length.toNat 0 }
      else
        clear { session with
          data := session.data.map fun data => Function.update data session.length.toNat 0 } := by
  rw [decoded]
  by_cases custom : session.custom = 0
  · rw [if_pos custom]
    simp [lenientHost, custom]
  · rw [if_neg custom]
    simp [lenientHost, custom]

theorem custom_of_same (idle : first.Idle) (idle_second : second.Idle)
    (code : first.syncode = second.syncode) (source : first.source = second.source)
    (same : ∀ frames, passedAlong lenientHost first frames = passedAlong lenientHost second frames)
    (custom : first.custom = 0) : second.custom = 0 := by
  by_contra left
  have near := first.anySender_near
  have near_second : second.source = .zero ∨ second.source = first.anySender := source ▸ near
  have known := first.anySender_ne
  have one := foldl_probe lenientHost idle known near Nat.one_pos (by decide) 1
  have two := foldl_probe lenientHost idle_second known near_second Nat.one_pos (by decide) 1
  have frames : second.probe first.anySender 1 1 = first.probe first.anySender 1 1 := by
    rw [probe, probe, sync, sync, code]
  have frame : second.sync first.anySender 1 = first.sync first.anySender 1 := by
    rw [sync, sync, code]
  have full (marks : Nat → Bool) : (1 : UInt8) ≠ 0 ∧ (1 : UInt8) ≠ 0xFF ∧
      ∀ index < ((1 : UInt8).toNat + 1) / 2,
        (if index < 1 then true else marks index) = true :=
    ⟨by decide, by decide, fun index inside => if_pos inside⟩
  rw [frames] at two
  have answers := last_eq_of_passedAlong_eq _ _
    (same ((first.probe first.anySender 1 1 ++ [first.sync first.anySender 1]) ++
      [first.sync first.anySender 1]))
  rw [List.foldl_append, List.foldl_append] at answers
  generalize (first.probe first.anySender 1 1).foldl (receive lenientHost) first = after at *
  generalize (first.probe first.anySender 1 1).foldl (receive lenientHost) second = other at *
  obtain ⟨step, complete⟩ := one.last lenientHost known
  obtain ⟨step', complete'⟩ := two.last lenientHost known
  rw [if_pos (complete.mpr (full _))] at step
  rw [frame, if_pos (complete'.mpr (full _))] at step'
  simp only [List.foldl_cons, List.foldl_nil, receive, step, step'] at answers
  rw [decoded_lenient, decoded_lenient, if_pos (one.custom.trans custom),
    if_neg (fun none => left (two.custom.symm.trans none))] at answers
  have kept : Probed first
      { after with
        data := after.data.map fun data => Function.update data after.length.toNat 0 }
      first.anySender 1 fun index => if index < 1 then true else first.marks index :=
    ⟨one.synced, one.source, one.length, one.syncode, one.custom,
      Option.isSome_map.trans one.allocated, one.marks⟩
  obtain ⟨again, whole⟩ := kept.last lenientHost known
  rw [again, if_pos (whole.mpr (full _))] at answers
  have silent (session : MulticastSession) (allocated : session.data.isSome = true)
      (same_code : session.syncode = first.syncode) (waiting : session.synced = false) :
      (session.step lenientHost (first.sync first.anySender 1)).2 = none := by
    have resent : first.sync first.anySender 1 = session.sync first.anySender 1 := by
      rw [sync, sync, same_code]
    rw [resent, step_waiting lenientHost (listens_sync allocated 1) waiting]
  rw [silent _ ?_ ?_ rfl] at answers
  · exact Option.some_ne_none _ answers
  · simp only [clear, Option.isSome_map]
    exact two.allocated
  · exact two.syncode.trans code.symm

end MulticastSession

end SmartMeter
