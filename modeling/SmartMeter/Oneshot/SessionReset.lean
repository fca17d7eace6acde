import SmartMeter.Oneshot.MulticastSession

/-!
Two histories and one continuation. Whatever was received before a session is cleared, the next
session should hand the same messages to the decoder; the clearing decides whether it does.
-/

namespace SmartMeter

namespace MulticastSession

/-- The bytes that a message can be made of. -/
def SameBytes : Option (Nat → UInt8) → Option (Nat → UInt8) → Prop
  | some first, some second => ∀ place < 254, first place = second place
  | none, none => True
  | _, _ => False

/-- Two sessions that no continuation tells apart. -/
structure Agree (first second : MulticastSession) : Prop where
  source : first.source = second.source
  synced : first.synced = second.synced
  count : first.count = second.count
  length : first.length = second.length
  syncode : first.syncode = second.syncode
  marks : ∀ index < 127, first.marks index = second.marks index
  data : SameBytes first.data second.data
  custom : first.custom = 0 ↔ second.custom = 0

theorem SameBytes.cases {first second : Option (Nat → UInt8)} (same : SameBytes first second) :
    first = none ∧ second = none ∨
      ∃ one other, first = some one ∧ second = some other ∧ ∀ place < 254, one place = other place := by
  cases first with
  | none =>
      cases second with
      | none => exact .inl ⟨rfl, rfl⟩
      | some bytes => exact same.elim
  | some one =>
      cases second with
      | none => exact same.elim
      | some other => exact .inr ⟨one, other, rfl, rfl, same⟩

theorem SameBytes.map {first second : Option (Nat → UInt8)} (same : SameBytes first second)
    {left right : (Nat → UInt8) → Nat → UInt8}
    (agree : ∀ one other, (∀ place < 254, one place = other place) →
      ∀ place < 254, left one place = right other place) :
    SameBytes (first.map left) (second.map right) := by
  rcases same.cases with ⟨rfl, rfl⟩ | ⟨one, other, rfl, rfl, bytes⟩
  · trivial
  · exact agree one other bytes

theorem SameBytes.isSome {first second : Option (Nat → UInt8)} (same : SameBytes first second) :
    first.isSome = second.isSome := by
  rcases same.cases with ⟨rfl, rfl⟩ | ⟨one, other, rfl, rfl, _⟩
  · rfl
  · rfl

variable {first second : MulticastSession} {hdr : Ieee80211Hdr}

theorem Agree.saveData (agree : Agree first second) (dst : EtherAddr) :
    Agree (first.saveData dst) (second.saveData dst) := by
  obtain ⟨source, synced, count, syncode, custom, length⟩ := saveData_keeps dst first
  obtain ⟨source', synced', count', syncode', custom', length'⟩ := saveData_keeps dst second
  refine ⟨?_, ?_, ?_, ?_, ?_, ?_, ?_, ?_⟩
  · rw [source, source', agree.source]
  · rw [synced, synced', agree.synced]
  · rw [count, count', agree.count]
  · rw [length, length', agree.length]
  · rw [syncode, syncode', agree.syncode]
  · intro index bound
    rw [saveData_marks, saveData_marks, agree.marks index bound]
  · rw [saveData_data, saveData_data]
    refine agree.data.map ?_
    intro one other same place bound
    rw [agree.marks (place / 2) (by omega), same place bound]
  · rw [custom, custom', agree.custom]

theorem Agree.drop (agree : Agree first second) (count : Nat) :
    Agree (first.drop count) (second.drop count) := by
  refine ⟨agree.source, agree.synced, agree.count, agree.length, agree.syncode, ?_, ?_,
    agree.custom⟩
  · intro index bound
    simp only [MulticastSession.drop, agree.marks index bound]
  · refine agree.data.map ?_
    intro one other same place bound
    have marks := agree.marks (place / 2) (by omega)
    simp only [marks, same place bound]

theorem Agree.isSync (agree : Agree first second) (dst : EtherAddr) :
    first.IsSync dst ↔ second.IsSync dst := by
  simp only [IsSync, agree.syncode]

theorem Agree.saveLength (agree : Agree first second) (dst : EtherAddr) :
    Agree (first.saveLength dst) (second.saveLength dst) := by
  have relength {one other : MulticastSession} (same : Agree one other) :
      Agree { one with length := dst.b5 } { other with length := dst.b5 } :=
    ⟨same.source, same.synced, same.count, rfl, same.syncode, same.marks, same.data, same.custom⟩
  rw [MulticastSession.saveLength, MulticastSession.saveLength, agree.length]
  by_cases sync : second.IsSync dst
  · rw [if_pos ((agree.isSync dst).mpr sync), if_pos sync]
    refine relength ?_
    split
    · exact agree.drop _
    · exact agree
  · rw [if_neg (fun on => sync ((agree.isSync dst).mp on)), if_neg sync]
    exact agree

theorem Agree.gather (agree : Agree first second) (hdr : Ieee80211Hdr) :
    Agree (first.gather hdr) (second.gather hdr) := by
  rw [MulticastSession.gather, MulticastSession.gather, agree.source]
  split
  · exact ⟨rfl, agree.synced, agree.count, agree.length, agree.syncode, agree.marks, agree.data,
      agree.custom⟩
  · split
    · exact (agree.saveData _).saveLength _
    · exact agree

theorem Agree.synchronise (agree : Agree first second) (hdr : Ieee80211Hdr) :
    Agree (first.synchronise hdr) (second.synchronise hdr) := by
  have next : first.nextCount hdr = second.nextCount hdr := by
    rw [nextCount, nextCount, agree.count]
    exact if_congr (agree.isSync _) rfl rfl
  rw [MulticastSession.synchronise, MulticastSession.synchronise, next]
  split
  · exact ⟨rfl, rfl, rfl, agree.length, agree.syncode, agree.marks, agree.data, agree.custom⟩
  · split
    · exact ⟨rfl, agree.synced, rfl, agree.length, agree.syncode, agree.marks, agree.data,
        agree.custom⟩
    · exact ⟨agree.source, agree.synced, rfl, agree.length, agree.syncode, agree.marks, agree.data,
        agree.custom⟩

theorem length_lt (known : first.length ≠ 0xFF) : first.length.toNat < 255 := by
  have less := first.length.toNat_lt
  have other : first.length.toNat ≠ 255 := fun last => known (UInt8.toNat_inj.mp last)
  omega

theorem Agree.symm (agree : Agree first second) : Agree second first := by
  refine ⟨agree.source.symm, agree.synced.symm, agree.count.symm, agree.length.symm,
    agree.syncode.symm, fun index bound => (agree.marks index bound).symm, ?_, agree.custom.symm⟩
  rcases agree.data.cases with ⟨one, other⟩ | ⟨left, right, one, other, bytes⟩
  · rw [one, other]
    trivial
  · rw [one, other]
    exact fun place bound => (bytes place bound).symm

theorem Agree.complete (agree : Agree first second) (complete : first.Complete) :
    second.Complete := by
  have bound := length_lt complete.2.1
  refine ⟨agree.length ▸ complete.1, agree.length ▸ complete.2.1, ?_⟩
  intro index inside
  rw [← agree.length] at inside
  rw [← agree.marks index (by omega)]
  exact complete.2.2 index inside

theorem Agree.message (agree : Agree first second) (complete : first.Complete) :
    first.message = second.message := by
  have bound := length_lt complete.2.1
  rw [MulticastSession.message, MulticastSession.message, ← agree.length]
  rcases agree.data.cases with ⟨one, other⟩ | ⟨left, right, one, other, bytes⟩
  · rw [one, other]
  · rw [one, other]
    refine congrArg (· ++ [0]) (Buffer.toList_congr ?_)
    intro place inside
    exact bytes place (by omega)

theorem Agree.clear (agree : Agree first second) : Agree first.clear second.clear := by
  refine ⟨agree.source, rfl, rfl, rfl, agree.syncode, ?_, ?_, agree.custom⟩
  · intro index bound
    simp only [MulticastSession.clear, agree.marks index bound]
  · refine agree.data.map ?_
    intro one other _ place bound
    simp [Buffer.fill, Buffer.copy_apply, (by omega : place < 256)]

theorem Agree.decoded (agree : Agree first second) (result : Decoded) :
    Agree (first.decoded result) (second.decoded result) := by
  have custom : (result.outCustData 0).getD first.custom = 0 ↔
      (result.outCustData 0).getD second.custom = 0 := by
    cases result.outCustData 0 with
    | none => exact agree.custom
    | some byte => exact Iff.rfl
  have filled : Agree
      { first with
        data := first.data.map fun data => Function.update data first.length.toNat 0
        custom := (result.outCustData 0).getD first.custom }
      { second with
        data := second.data.map fun data => Function.update data second.length.toNat 0
        custom := (result.outCustData 0).getD second.custom } := by
    refine ⟨agree.source, agree.synced, agree.count, agree.length, agree.syncode, agree.marks, ?_,
      custom⟩
    refine agree.data.map ?_
    intro one other same place bound
    rw [Function.update_apply, Function.update_apply, agree.length, same place bound]
  rw [MulticastSession.decoded, MulticastSession.decoded]
  dsimp only
  by_cases restarts : result.ret ≠ 0 ∨
      (result.outSsid 0).getD 0 = 0 ∧ (result.outCustData 0).getD second.custom ≠ 0
  · have both : result.ret ≠ 0 ∨
        (result.outSsid 0).getD 0 = 0 ∧ (result.outCustData 0).getD first.custom ≠ 0 := by
      rw [ne_eq, ne_eq, custom]
      exact restarts
    rw [if_pos both, if_pos restarts]
    exact filled.clear
  · have both : ¬(result.ret ≠ 0 ∨
        (result.outSsid 0).getD 0 = 0 ∧ (result.outCustData 0).getD first.custom ≠ 0) := by
      rw [ne_eq, ne_eq, custom]
      exact restarts
    rw [if_neg both, if_neg restarts]
    exact filled

theorem Agree.listens (agree : Agree first second) (hdr : Ieee80211Hdr) :
    first.Listens hdr ↔ second.Listens hdr := by
  rw [Listens, Listens, agree.syncode, agree.data.isSome]

theorem Agree.step (agree : Agree first second) (host : OneshotHost) (hdr : Ieee80211Hdr) :
    Agree (first.step host hdr).1 (second.step host hdr).1 ∧
      (first.step host hdr).2 = (second.step host hdr).2 := by
  have gathered := agree.gather hdr
  rw [MulticastSession.step, MulticastSession.step]
  by_cases heard : second.Listens hdr
  · rw [if_pos ((agree.listens hdr).mpr heard), if_pos heard]
    dsimp only
    rw [gathered.synced]
    split
    · by_cases complete : (second.gather hdr).Complete
      · have message := gathered.message (gathered.symm.complete complete)
        rw [if_pos (gathered.symm.complete complete), if_pos complete, message]
        exact ⟨gathered.decoded _, rfl⟩
      · rw [if_neg (fun all => complete (gathered.complete all)), if_neg complete]
        exact ⟨gathered, rfl⟩
    · exact ⟨gathered.synchronise hdr, rfl⟩
  · rw [if_neg (fun on => heard ((agree.listens hdr).mp on)), if_neg heard]
    exact ⟨agree, rfl⟩

theorem Agree.passedAlong (agree : Agree first second) (host : OneshotHost)
    (frames : List Ieee80211Hdr) :
    first.passedAlong host frames = second.passedAlong host frames := by
  induction frames generalizing first second with
  | nil => rfl
  | cons hdr rest ih =>
      obtain ⟨kept, same⟩ := agree.step host hdr
      rw [MulticastSession.passedAlong, MulticastSession.passedAlong, same, ih kept]

end MulticastSession

end SmartMeter
