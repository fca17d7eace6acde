import SmartMeter.Oneshot.SessionProbe

/-!
Whatever two histories left in the globals, a cleared session hands the same to the decoder after
either of them exactly if they left the same marks behind the part that is cleared, and the same
trace of custom data.
-/

namespace SmartMeter

namespace LsdState

open MulticastSession

def restart (memory : Nat → UInt8) (state : LsdState) : LsdState :=
  tlsOneshotInitData (some memory) (tlsOneshotStopClearData state)

def startOver (state : LsdState) : LsdState :=
  { clearOneshotData true state with guchandshakeflag := false }

/-- What the clearing leaves is the same after both histories. -/
structure SameLeftovers (first second : LsdState) : Prop where
  marks : ∀ index, 64 ≤ index → index < 127 →
    first.ullsddatavalid index = second.ullsddatavalid index
  custom : first.gucCustomData 0 0 = 0 ↔ second.gucCustomData 0 0 = 0

theorem restart_marks (memory : Nat → UInt8) (state : LsdState) (index : Nat) :
    (restart memory state).session.marks index =
      if index < 64 then false else state.ullsddatavalid index := by
  show (if index < 64 then false else if index < 64 then false else _) = _
  split
  · rfl
  · rfl

theorem restart_idle (memory : Nat → UInt8) (state : LsdState) :
    (restart memory state).session.Idle := by
  refine ⟨rfl, rfl, rfl, rfl⟩

theorem startOver_idle {state : LsdState} (allocated : state.aulsddata.isSome = true) :
    (startOver state).session.Idle :=
  ⟨rfl, rfl, rfl, Option.isSome_map.trans allocated⟩

theorem same_iff {first second : MulticastSession} (idle : first.Idle) (idle_second : second.Idle)
    (code : first.syncode = second.syncode)
    (cleared : ∀ index < 64, first.marks index = false ∧ second.marks index = false)
    (bytes : SameBytes first.data second.data) :
    (∀ host frames, first.passedAlong host frames = second.passedAlong host frames) ↔
      first.source = second.source ∧
        (∀ index, 64 ≤ index → index < 127 → first.marks index = second.marks index) ∧
        (first.custom = 0 ↔ second.custom = 0) := by
  constructor
  · intro same
    have alike := same lenientHost
    have unlike : ∀ frames, second.passedAlong lenientHost frames =
        first.passedAlong lenientHost frames := fun frames => (alike frames).symm
    have source : first.source = second.source := by
      by_cases fresh : first.source = .zero
      · by_cases fresh_second : second.source = .zero
        · rw [fresh, fresh_second]
        · exact source_of_same idle_second idle code.symm fresh_second (cleared 0 (by decide)).1
            unlike
      · exact (source_of_same idle idle_second code fresh (cleared 0 (by decide)).2 alike).symm
    refine ⟨source, ?_, ?_⟩
    · intro index late bound
      apply Bool.eq_iff_iff.mpr
      constructor
      · intro marked
        exact mark_of_same idle idle_second code source (by omega) bound marked alike
      · intro marked
        exact mark_of_same idle_second idle code.symm source.symm (by omega) bound marked unlike
    · constructor
      · exact custom_of_same idle idle_second code source alike
      · exact custom_of_same idle_second idle code.symm source.symm unlike
  · rintro ⟨source, marks, custom⟩ host frames
    refine Agree.passedAlong ⟨source, ?_, ?_, ?_, code, ?_, bytes, custom⟩ host frames
    · rw [idle.synced, idle_second.synced]
    · rw [idle.count, idle_second.count]
    · rw [idle.length, idle_second.length]
    · intro index bound
      by_cases early : index < 64
      · rw [(cleared index early).1, (cleared index early).2]
      · exact marks index (by omega) bound

theorem fill_sameBytes (first second : Nat → UInt8) :
    SameBytes (some (Buffer.fill first 0 256)) (some (Buffer.fill second 0 256)) := by
  intro place bound
  simp [Buffer.fill, Buffer.copy_apply, (by omega : place < 256)]

/-- A session that is stopped and started again, or that starts over after a message that the
decoder refuses, hands over the same after two histories exactly if these left the same. -/
theorem sessions_independent_iff {first second : LsdState}
    (code : first.uclsdsyncode = second.uclsdsyncode) :
    (∀ memory other, (∀ host frames, passedAlong host (restart memory first) frames =
        passedAlong host (restart other second) frames) ↔ SameLeftovers first second) ∧
      (first.aulsddata.isSome = true → second.aulsddata.isSome = true →
        ((∀ host frames, passedAlong host (startOver first) frames =
            passedAlong host (startOver second) frames) ↔
          first.gSrcMac = second.gSrcMac ∧ SameLeftovers first second)) := by
  refine ⟨?_, ?_⟩
  · intro memory other
    have cleared : ∀ index < 64, (restart memory first).session.marks index = false ∧
        (restart other second).session.marks index = false := by
      intro index early
      rw [restart_marks, restart_marks, if_pos early, if_pos early]
      exact ⟨rfl, rfl⟩
    have same := same_iff (restart_idle memory first) (restart_idle other second) code cleared
      (fill_sameBytes memory other)
    simp only [passedAlong_session]
    rw [same]
    constructor
    · rintro ⟨_, marks, custom⟩
      refine ⟨?_, custom⟩
      intro index late bound
      have agree := marks index late bound
      rw [restart_marks, restart_marks, if_neg (by omega), if_neg (by omega)] at agree
      exact agree
    · rintro ⟨marks, custom⟩
      refine ⟨rfl, ?_, custom⟩
      intro index late bound
      rw [restart_marks, restart_marks, if_neg (by omega), if_neg (by omega)]
      exact marks index late bound
  · intro allocated allocated_second
    obtain ⟨data, present⟩ := Option.isSome_iff_exists.mp allocated
    obtain ⟨bytes, present_second⟩ := Option.isSome_iff_exists.mp allocated_second
    have marks (state : LsdState) (index : Nat) : (startOver state).session.marks index =
        if index < 64 then false else state.ullsddatavalid index := rfl
    have cleared : ∀ index < 64, (startOver first).session.marks index = false ∧
        (startOver second).session.marks index = false := by
      intro index early
      rw [marks, marks, if_pos early, if_pos early]
      exact ⟨rfl, rfl⟩
    have filled : SameBytes (startOver first).session.data (startOver second).session.data := by
      show SameBytes (first.aulsddata.map _) (second.aulsddata.map _)
      rw [present, present_second]
      exact fill_sameBytes data bytes
    have same := same_iff (startOver_idle allocated) (startOver_idle allocated_second) code cleared
      filled
    simp only [passedAlong_session]
    rw [same]
    constructor
    · rintro ⟨source, agree, custom⟩
      refine ⟨source, ?_, custom⟩
      intro index late bound
      have here := agree index late bound
      rw [marks, marks, if_neg (by omega), if_neg (by omega)] at here
      exact here
    · rintro ⟨source, agree, custom⟩
      refine ⟨source, ?_, custom⟩
      intro index late bound
      rw [marks, marks, if_neg (by omega), if_neg (by omega)]
      exact agree index late bound

def afterPair (index : UInt8) : LsdState :=
  [pair ⟨2, 0, 0, 0, 0, 1⟩ index, pair ⟨2, 0, 0, 0, 0, 1⟩ index].foldl (receive lenientHost) boot

theorem first_pair_forgotten :
    passedAlong lenientHost (restart (fun _ => 1) boot) [pair ⟨2, 0, 0, 0, 0, 1⟩ 1] =
      passedAlong lenientHost (restart (fun _ => 2) (afterPair 1)) [pair ⟨2, 0, 0, 0, 0, 1⟩ 1] := by
  have leftovers : SameLeftovers boot (afterPair 1) := by
    have unmarked : ∀ index < 127, 64 ≤ index → (afterPair 1).ullsddatavalid index = false := by
      decide +kernel
    refine ⟨?_, by decide +kernel⟩
    intro index late bound
    rw [unmarked index bound late]
    rfl
  exact ((sessions_independent_iff (by decide +kernel)).1 (fun _ => 1) (fun _ => 2)).mpr leftovers
    lenientHost [pair ⟨2, 0, 0, 0, 0, 1⟩ 1]

theorem late_pair_remembered :
    ¬∀ frames, passedAlong lenientHost (restart (fun _ => 0) (afterPair 65)) frames =
      passedAlong lenientHost (restart (fun _ => 0) boot) frames := by
  intro same
  have marked : (restart (fun _ => 0) (afterPair 65)).session.marks 64 = true := by
    rw [restart_marks, if_neg (by decide)]
    decide +kernel
  have code : (restart (fun _ => 0) (afterPair 65)).session.syncode =
      (restart (fun _ => 0) boot).session.syncode := by decide +kernel
  simp only [passedAlong_session] at same
  have stale := mark_of_same (restart_idle _ (afterPair 65)) (restart_idle _ boot) code rfl
    (by decide) (by decide) marked same
  rw [restart_marks, if_neg (by decide)] at stale
  exact Bool.false_ne_true stale

end LsdState

end SmartMeter
