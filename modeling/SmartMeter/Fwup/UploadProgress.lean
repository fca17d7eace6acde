import SmartMeter.Library.DoWhile
import SmartMeter.Fwup.SocketFwup
import Mathlib.Data.List.Basic

/-!
What the loop of `socket_fwup_recv` does when no branch of it fits: it goes round for ever, and it
does so for a length beyond the pack with bytes behind it and for nothing else.
-/

namespace SmartMeter

def FwupRound.state : FwupRound → SocketFwup
  | .next state _ => state
  | .done state => state

def FwupRound.goesOn : FwupRound → Option (SocketFwup × List UInt8)
  | .done _ => none
  | .next _ [] => none
  | .next after (byte :: left) => some (after, byte :: left)

theorem FwupRound.goesOn_some {round : FwupRound} {entry : SocketFwup × List UInt8} :
    round.goesOn = some entry ↔ round = .next entry.1 entry.2 ∧ entry.2 ≠ [] := by
  obtain ⟨after, left⟩ := entry
  cases round with
  | done final => simp [goesOn]
  | next final bytes =>
      cases bytes with
      | nil =>
          simp only [goesOn, FwupRound.next.injEq]
          constructor
          · intro impossible
            cases impossible
          · rintro ⟨⟨-, rfl⟩, filled⟩
            exact absurd rfl filled
      | cons byte bytes =>
          simp only [goesOn, FwupRound.next.injEq, Option.some.injEq, Prod.mk.injEq]
          constructor
          · rintro ⟨rfl, rfl⟩
            exact ⟨⟨rfl, rfl⟩, List.cons_ne_nil _ _⟩
          · exact fun same => same.1

namespace SocketFwup

open DoWhile

variable (host : SocketFwupHost)

def loopRound (entry : SocketFwup × List UInt8) : Option (SocketFwup × List UInt8) :=
  (recvRound host entry.1 entry.2).goesOn

/-- A packet is being received whose length no branch of the loop is for. -/
def Oversized (state : SocketFwup) : Prop :=
  ¬state.operation < socketFwupStart ∧ socketFwupPackSize < state.datalen

def copied (state : SocketFwup) (rest : List UInt8) : List UInt8 :=
  state.data.elim [] fun _ => rest.take (state.datalen - state.currentOffset).toNat

def writes (state : SocketFwup) (rest : List UInt8) : List Nat :=
  if state.operation < socketFwupStart then []
  else if state.datalen > 0 ∧ state.datalen ≤ socketFwupPackSize then
    List.range' state.currentOffset.toNat (state.copied rest).length
  else []

structure Sound (state : SocketFwup) : Prop where
  offset : state.operation < socketFwupStart ∨ state.currentOffset ≤ state.datalen
  data : state.closed = false → state.data ≠ none

variable {host} {state : SocketFwup} {rest : List UInt8}

theorem fresh_of_zero (idle : state.operation = 0) : state.operation < socketFwupStart := by
  rw [idle]
  decide

theorem finish_sound (sound : state.Sound) : state.finish.Sound := by
  obtain ⟨offset, -⟩ := sound
  unfold finish freeCurrentPack
  cases state.data with
  | none => exact ⟨offset, fun opened => by cases opened⟩
  | some data => exact ⟨.inl (fresh_of_zero rfl), fun opened => by cases opened⟩

theorem recvHeader_sound (sound : state.Sound) : (recvHeader host state rest).state.Sound := by
  unfold recvHeader
  dsimp only
  split
  · exact ⟨.inr (by simp [FwupRound.state]), sound.data⟩
  · split
    · split
      · exact ⟨.inr (by simp [FwupRound.state]), sound.data⟩
      · exact ⟨.inr (by simp [FwupRound.state]), sound.data⟩
    · exact ⟨.inr (by simp [FwupRound.state]), sound.data⟩

theorem requestPack_sound (sound : state.Sound) : (requestPack host state rest).state.Sound := by
  unfold requestPack
  dsimp only
  split
  · exact ⟨sound.offset, sound.data⟩
  · split
    · exact finish_sound ⟨sound.offset, sound.data⟩
    · exact ⟨.inl (fresh_of_zero rfl), sound.data⟩

theorem copied_length (state : SocketFwup) (rest : List UInt8) :
    (state.copied rest).length ≤ (state.datalen - state.currentOffset).toNat := by
  unfold copied
  cases state.data with
  | none => exact Nat.zero_le _
  | some data => exact List.length_take_le _ _

theorem copied_inside (fits : state.currentOffset ≤ state.datalen) (rest : List UInt8) :
    state.currentOffset.toNat + (state.copied rest).length ≤ state.datalen.toNat := by
  have bound := state.copied_length rest
  rw [UInt16.toNat_sub_of_le _ _ fits] at bound
  rw [UInt16.le_iff_toNat_le] at fits
  omega

theorem recvData_sound (sound : state.Sound) (fits : state.currentOffset ≤ state.datalen) :
    (recvData host state rest).state.Sound := by
  have inside := copied_inside fits rest
  have bound := state.datalen.toNat_lt
  have further : state.currentOffset + UInt16.ofNat (state.copied rest).length ≤ state.datalen := by
    rw [UInt16.le_iff_toNat_le, UInt16.toNat_add, UInt16.toNat_ofNat']
    omega
  have kept : state.closed = false → (state.data.map fun data =>
      Buffer.copy data state.currentOffset.toNat (fun index => (state.copied rest).getD index 0)
        (state.copied rest).length) ≠ none := by
    intro opened
    simpa using sound.data opened
  unfold recvData
  change (if _ then _ else _ : FwupRound).state.Sound
  split
  · exact requestPack_sound ⟨.inr further, kept⟩
  · exact ⟨.inr further, kept⟩

theorem recvRound_sound (sound : state.Sound) : (recvRound host state rest).state.Sound := by
  unfold recvRound
  by_cases fresh : state.operation < socketFwupStart
  · rw [if_pos fresh]
    exact recvHeader_sound sound
  · rw [if_neg fresh]
    split
    · exact recvData_sound sound (sound.offset.resolve_left fresh)
    · split
      · split
        · exact finish_sound sound
        · exact ⟨.inl (fresh_of_zero rfl), sound.data⟩
      · exact sound

theorem writes_inside (sound : state.Sound) : ∀ cell ∈ state.writes rest, cell < 2048 := by
  intro cell written
  unfold writes at written
  by_cases fresh : state.operation < socketFwupStart
  · rw [if_pos fresh] at written
    cases written
  · rw [if_neg fresh] at written
    split at written
    · rename_i filled
      have inside := copied_inside (sound.offset.resolve_left fresh) rest
      have pack : state.datalen.toNat ≤ 2048 := UInt16.le_iff_toNat_le.mp filled.2
      have place := List.mem_range'_1.mp written
      omega
    · cases written

structure Open (state : SocketFwup) : Prop where
  sound : state.Sound
  opened : state.closed = false

theorem recvHeader_next {next : SocketFwup} {left : List UInt8}
    (round : recvHeader host state rest = .next next left) :
    next.closed = state.closed ∧ left = rest.drop 3 := by
  unfold recvHeader at round
  dsimp only at round
  split at round
  · cases round
  · split at round
    · split at round
      · cases round
      · cases round
        exact ⟨rfl, rfl⟩
    · cases round
      exact ⟨rfl, rfl⟩

/-- The data of a packet is complete and the next header awaited, or more of it is to come. -/
theorem recvData_next {next : SocketFwup} {left : List UInt8}
    (round : recvData host state rest = .next next left) :
    next.closed = state.closed ∧ left = rest.drop (state.copied rest).length ∧
      (next.operation = 0 ∨ next.currentOffset ≠ state.datalen ∧
        next.currentOffset = state.currentOffset + UInt16.ofNat (state.copied rest).length) := by
  unfold recvData requestPack at round
  dsimp only at round
  split at round
  · split at round
    · cases round
    · split at round
      · cases round
      · cases round
        exact ⟨rfl, rfl, .inl rfl⟩
  · rename_i incomplete
    cases round
    exact ⟨rfl, rfl, .inr ⟨incomplete, rfl⟩⟩

theorem recvRound_next {next : SocketFwup} {left : List UInt8}
    (round : recvRound host state rest = .next next left) :
    next.closed = state.closed ∧ ∃ count, left = rest.drop count := by
  unfold recvRound at round
  split at round
  · exact ⟨(recvHeader_next round).1, 3, (recvHeader_next round).2⟩
  · split at round
    · exact ⟨(recvData_next round).1, _, (recvData_next round).2.1⟩
    · split at round
      · split at round
        · cases round
        · cases round
          exact ⟨rfl, 0, rfl⟩
      · cases round
        exact ⟨rfl, 0, rfl⟩

theorem loopRound_filled {next : SocketFwup × List UInt8}
    (goes : loopRound host (state, rest) = some next) : rest ≠ [] := by
  obtain ⟨round, filled⟩ := FwupRound.goesOn_some.mp goes
  obtain ⟨-, count, bytes⟩ := recvRound_next round
  rintro rfl
  exact filled (bytes.trans (List.drop_nil ..))

theorem loopRound_open {next : SocketFwup × List UInt8} (isOpen : state.Open)
    (goes : loopRound host (state, rest) = some next) : next.1.Open := by
  obtain ⟨round, -⟩ := FwupRound.goesOn_some.mp goes
  have sound := @recvRound_sound host state rest isOpen.sound
  rw [round] at sound
  exact ⟨sound, (recvRound_next round).1.trans isOpen.opened⟩

theorem recvRound_oversized (oversized : state.Oversized) :
    recvRound host state rest = .next state rest := by
  obtain ⟨started, long⟩ := oversized
  have pack : socketFwupPackSize.toNat = 2048 := rfl
  rw [UInt16.lt_iff_toNat_lt] at long
  have beyond : ¬(state.datalen > 0 ∧ state.datalen ≤ socketFwupPackSize) := by
    rintro ⟨-, fits⟩
    rw [UInt16.le_iff_toNat_le] at fits
    omega
  have filled : state.datalen ≠ 0 := by
    intro empty
    rw [empty] at long
    exact absurd long (by decide)
  rw [recvRound, if_neg started, if_neg beyond, if_neg filled]

/-- Data that is not complete yet takes at least one byte. -/
theorem copied_filled (isOpen : state.Open) (fits : state.currentOffset ≤ state.datalen)
    (filled : rest ≠ []) (none : (state.copied rest).length = 0) :
    state.currentOffset = state.datalen := by
  obtain ⟨data, holds⟩ := Option.ne_none_iff_exists'.mp (isOpen.sound.data isOpen.opened)
  have size := List.length_pos_iff.mpr filled
  rw [copied, holds, Option.elim_some, List.length_take, UInt16.toNat_sub_of_le _ _ fits] at none
  rw [UInt16.le_iff_toNat_le] at fits
  apply UInt16.toNat_inj.mp
  omega

/-- A round that changes nothing has found no branch. -/
theorem oversized_of_stuck (isOpen : state.Open) (filled : rest ≠ [])
    (stuck : recvRound host state rest = .next state rest) : state.Oversized := by
  have size := List.length_pos_iff.mpr filled
  have shorter {count : Nat} (same : rest = rest.drop count) : count = 0 := by
    have lengths := congrArg List.length same
    rw [List.length_drop] at lengths
    omega
  unfold recvRound at stuck
  by_cases fresh : state.operation < socketFwupStart
  · rw [if_pos fresh] at stuck
    cases shorter (recvHeader_next stuck).2
  · have busy : state.operation ≠ 0 := fun idle => fresh (fresh_of_zero idle)
    have fits := isOpen.sound.offset.resolve_left fresh
    rw [if_neg fresh] at stuck
    split at stuck
    · obtain ⟨-, left, idle | ⟨incomplete, -⟩⟩ := recvData_next stuck
      · exact absurd idle busy
      · exact absurd (copied_filled isOpen fits filled (shorter left)) incomplete
    · rename_i misfit
      split at stuck
      · split at stuck
        · cases stuck
        · have idle : state.operation = 0 := by
            injection stuck with same
            exact (congrArg SocketFwup.operation same).symm
          exact absurd idle busy
      · rename_i some_length
        refine ⟨fresh, UInt16.not_le.mp fun small => misfit ⟨?_, small⟩⟩
        exact UInt16.pos_iff_ne_zero.mpr some_length

theorem loopRound_stuck_iff (isOpen : state.Open) :
    loopRound host (state, rest) = some (state, rest) ↔ state.Oversized ∧ rest ≠ [] := by
  unfold loopRound
  rw [FwupRound.goesOn_some]
  constructor
  · rintro ⟨stuck, filled⟩
    exact ⟨oversized_of_stuck isOpen filled stuck, filled⟩
  · rintro ⟨oversized, filled⟩
    exact ⟨recvRound_oversized oversized, filled⟩

theorem finish_data {new : Nat → UInt8} : state.finish.data ≠ some new := by
  unfold finish freeCurrentPack
  cases state.data with
  | none => exact fun impossible => by cases impossible
  | some data => exact fun impossible => by cases impossible

theorem requestPack_data {new : Nat → UInt8}
    (after : (requestPack host state rest).state.data = some new) : state.data = some new := by
  unfold requestPack at after
  dsimp only at after
  split at after
  · exact after
  · split at after
    · exact absurd after finish_data
    · exact after

theorem recvHeader_data (host : SocketFwupHost) (state : SocketFwup) (rest : List UInt8) :
    (recvHeader host state rest).state.data = state.data := by
  unfold recvHeader
  dsimp only
  split
  · rfl
  · split
    · split <;> rfl
    · rfl

theorem recvData_data {old new : Nat → UInt8} (before : state.data = some old)
    (after : (recvData host state rest).state.data = some new) :
    new = Buffer.copy old state.currentOffset.toNat (fun index => (state.copied rest).getD index 0)
      (state.copied rest).length := by
  have bytes : state.copied rest =
      state.data.elim [] fun _ => rest.take (state.datalen - state.currentOffset).toNat := rfl
  unfold recvData at after
  rw [← bytes] at after
  have filled : (state.data.map fun data => Buffer.copy data state.currentOffset.toNat
      (fun index => (state.copied rest).getD index 0) (state.copied rest).length) = some new := by
    dsimp only at after
    split at after
    · exact requestPack_data after
    · exact after
  rw [before, Option.map_some] at filled
  exact (Option.some.inj filled).symm

/-- Whatever is not among `writes` stays. -/
theorem recvRound_unwritten {old new : Nat → UInt8} (before : state.data = some old)
    (after : (recvRound host state rest).state.data = some new) {cell : Nat}
    (outside : cell ∉ state.writes rest) : new cell = old cell := by
  have same (kept : state.data = some new) : new cell = old cell := by
    rw [before] at kept
    cases kept
    rfl
  unfold recvRound at after
  unfold writes at outside
  by_cases fresh : state.operation < socketFwupStart
  · rw [if_pos fresh, recvHeader_data] at after
    exact same after
  · rw [if_neg fresh] at after outside
    split at after
    · rename_i filled
      rw [if_pos filled, List.mem_range'_1] at outside
      rw [recvData_data before after]
      exact Buffer.copy_outside _ _ (by omega)
    · split at after
      · split at after
        · exact absurd after finish_data
        · exact same after
      · exact same after

theorem loopRound_progress {entry next : SocketFwup × List UInt8}
    (goes : loopRound host entry = some next) :
    next.1.roundsLeft next.2 < entry.1.roundsLeft entry.2 ∨ next = entry := by
  obtain ⟨round, -⟩ := FwupRound.goesOn_some.mp goes
  rcases recvRound_progress host (loopRound_filled goes) round with fewer | ⟨state, left⟩
  · exact .inl fewer
  · exact .inr (Prod.ext state left)

theorem recvLoop_some_iff :
    (∃ rounds after, recvLoop host rounds state rest = some after) ↔
      Ends (loopRound host) (state, rest) := by
  constructor
  · rintro ⟨rounds, after, ended⟩
    induction rounds generalizing state rest with
    | zero => cases ended
    | succ rounds ih =>
        rw [recvLoop] at ended
        split at ended
        · rename_i last
          exact .stop (by rw [loopRound, last]; rfl)
        · rename_i last
          exact .stop (by rw [loopRound, last]; rfl)
        · rename_i round
          exact .more (by rw [loopRound, round]; rfl) (ih ended)
  · intro ends
    generalize here : (state, rest) = entry at ends
    induction ends generalizing state rest with
    | stop last =>
        subst here
        refine ⟨1, ?_⟩
        rw [recvLoop]
        cases round : recvRound host state rest with
        | done after => exact ⟨after, rfl⟩
        | next after left =>
            cases left with
            | nil => exact ⟨after, rfl⟩
            | cons byte left =>
                rw [loopRound, round] at last
                cases last
    | @more _ next goes _ ih =>
        subst here
        obtain ⟨round, filled⟩ := FwupRound.goesOn_some.mp goes
        obtain ⟨rounds, after, ended⟩ := @ih next.1 next.2 rfl
        refine ⟨rounds + 1, after, ?_⟩
        rw [recvLoop, round]
        cases left : next.2 with
        | nil => exact absurd left filled
        | cons byte bytes =>
            rw [left] at ended
            exact ended

theorem recvLoop_sound {rounds : Nat} {after : SocketFwup} (sound : state.Sound)
    (ended : recvLoop host rounds state rest = some after) : after.Sound := by
  induction rounds generalizing state rest with
  | zero => cases ended
  | succ rounds ih =>
      have kept := @recvRound_sound host state rest sound
      rw [recvLoop] at ended
      split at ended
      · rename_i last
        cases ended
        rwa [last] at kept
      · rename_i last
        cases ended
        rwa [last] at kept
      · rename_i round
        rw [round] at kept
        exact ih kept ended

theorem receiveAll_sound {pbufs : List (List UInt8)} {after : SocketFwup} (sound : state.Sound)
    (received : receiveAll host state pbufs = some after) : after.Sound := by
  unfold receiveAll at received
  induction pbufs generalizing state with
  | nil =>
      cases received
      exact sound
  | cons pbuf pbufs ih =>
      rw [List.foldlM_cons] at received
      by_cases closed : state.closed = true
      · rw [if_pos closed] at received
        exact ih sound received
      · rw [if_neg closed] at received
        obtain ⟨next, taken, rest⟩ := Option.bind_eq_some_iff.mp received
        exact ih (recvLoop_sound sound taken) rest

theorem socketFwupAccept_sound (previous : SocketFwup) : previous.socketFwupAccept.Sound :=
  ⟨.inl (fresh_of_zero rfl), fun _ => Option.some_ne_none _⟩

/-- The call ends, and its rounds write inside the packet's data and nowhere else. -/
structure Progresses (host : SocketFwupHost) (state : SocketFwup) (pbuf : List UInt8) : Prop where
  ends : ∃ rounds after, recvLoop host rounds state pbuf = some after
  inside : ∀ entry, Reaches (loopRound host) (state, pbuf) entry →
    ∀ cell ∈ entry.1.writes entry.2, cell < 2048
  spares : ∀ entry, Reaches (loopRound host) (state, pbuf) entry → ∀ old new,
    entry.1.data = some old → (recvRound host entry.1 entry.2).state.data = some new →
      ∀ cell, cell ∉ entry.1.writes entry.2 → new cell = old cell

theorem reaches_open (isOpen : state.Open) {entry : SocketFwup × List UInt8}
    (reaches : Reaches (loopRound host) (state, rest) entry) : entry.1.Open :=
  reaches.invariant isOpen fun _ _ before goes => loopRound_open before goes

theorem progresses_open (isOpen : state.Open) (pbuf : List UInt8) :
    Progresses host state pbuf ↔ ∀ entry, Reaches (loopRound host) (state, pbuf) entry →
      ¬(entry.1.Oversized ∧ entry.2 ≠ []) := by
  have stuck {entry : SocketFwup × List UInt8}
      (reaches : Reaches (loopRound host) (state, pbuf) entry) :
      loopRound host entry = some entry ↔ entry.1.Oversized ∧ entry.2 ≠ [] :=
    loopRound_stuck_iff (reaches_open isOpen reaches)
  have measured := @ends_iff _ (loopRound host) (fun entry => entry.1.roundsLeft entry.2)
    (fun _ _ => loopRound_progress) (state, pbuf)
  constructor
  · intro progresses entry reaches oversized
    have ends := recvLoop_some_iff.mp progresses.ends
    exact measured.mp ends entry reaches ((stuck reaches).mpr oversized)
  · intro fits
    refine ⟨recvLoop_some_iff.mpr (measured.mpr fun entry reaches same => ?_), ?_, ?_⟩
    · exact fits entry reaches ((stuck reaches).mp same)
    · exact fun entry reaches => writes_inside (reaches_open isOpen reaches).sound
    · intro entry _ old new before after cell outside
      exact recvRound_unwritten before after outside

def openHost : SocketFwupHost := ⟨fun _ => 1, fun _ => true⟩

def firstConnection : SocketFwup :=
  socketFwupAccept ⟨0, 0, none, 0, 0, [], false⟩

end SocketFwup

end SmartMeter
