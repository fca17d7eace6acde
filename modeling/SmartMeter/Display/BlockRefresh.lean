import SmartMeter.Display.ShadowRam

/-!
`W1622_success` against what it is for, the refresh of a block of segments. It sends the byte
under its pointer eight times, whatever the count.
-/

namespace SmartMeter

open ThreeWire StateSimulation

namespace LcdBoard

variable {board : LcdBoard} {ram : BitVec 6 → BitVec 4}

theorem w1622Success_run (seg cnt : UInt8) (p : Nat → UInt8) (board : LcdBoard) :
    ((w1622Success seg cnt p).run board).2 = (w1622SuccessWrites seg cnt p).foldl write board := by
  unfold w1622Success
  generalize w1622SuccessWrites = writes
  rfl

theorem w1622Success_ready (ready : Ready board ram) (seg cnt : Nat) (p : Nat → UInt8) :
    Ready ((w1622Success (UInt8.ofNat seg) (UInt8.ofNat cnt) p).run board).2
      (writeCells ram (BitVec.ofNat 6 (2 * seg)) ((List.replicate 8 (p 0)).flatMap byteCells)) := by
  have sent := ready.bytes (UInt8.ofNat seg * 2) (List.replicate 8 (p 0))
  rw [segment_address] at sent
  rw [w1622Success_run]
  exact sent

/-- Eight segments from the first on take the first byte, the last ones again at the start. -/
theorem w1622Success_segment (ready : Ready board ram) {seg other : Nat} (cnt : Nat)
    (p : Nat → UInt8) (start : seg ≤ 32) (inside : other < 32) :
    segment ((w1622Success (UInt8.ofNat seg) (UInt8.ofNat cnt) p).run board).2.chip.ram other =
      if behind seg other < 8 then (p 0).toBitVec else segment ram other := by
  have written := segment_writeCells ram (List.replicate 8 (p 0)) start inside (by simp)
  rw [(w1622Success_ready ready seg cnt p).chip]
  refine written.trans ?_
  rw [List.getElem?_replicate]
  by_cases hit : behind seg other < 8
  · rw [if_pos hit, if_pos hit]
    rfl
  · rw [if_neg hit, if_neg hit]
    rfl

end LcdBoard

def Refreshes (board : LcdBoard) (seg cnt : Nat) (p : Nat → UInt8) : Prop :=
  ∀ other < 32, segment ((LcdBoard.w1622Success (UInt8.ofNat seg) (UInt8.ofNat cnt) p).run
      board).2.chip.ram other =
    if seg ≤ other ∧ other < seg + cnt then (p (other - seg)).toBitVec
    else segment board.chip.ram other

/-- Of the block the first eight bytes are alike and the others there already, and where the
eight turns reach past the block the byte is there already too. -/
structure RefreshKnown (board : LcdBoard) (seg cnt : Nat) (p : Nat → UInt8) : Prop where
  alike : ∀ index < cnt, index < 8 → p index = p 0
  present : ∀ index < cnt, 8 ≤ index → segment board.chip.ram (seg + index) = (p index).toBitVec
  past : ∀ index < 8, cnt ≤ index →
    segment board.chip.ram ((seg + index) % 32) = (p 0).toBitVec

theorem behind_add {seg index : Nat} (start : seg ≤ 32) (short : index < 32) :
    behind seg ((seg + index) % 32) = index := by
  unfold behind
  omega

theorem refreshes_iff {board : LcdBoard} (ready : board.Ready board.chip.ram) {seg cnt : Nat}
    (fits : seg + cnt ≤ 32) (p : Nat → UInt8) :
    Refreshes board seg cnt p ↔ RefreshKnown board seg cnt p := by
  have sent (other : Nat) (inside : other < 32) :=
    LcdBoard.w1622Success_segment ready cnt p (by omega : seg ≤ 32) inside
  constructor
  · intro refreshes
    have held (index : Nat) (short : index < 32) :
        (if index < 8 then (p 0).toBitVec else segment board.chip.ram ((seg + index) % 32)) =
          if seg ≤ (seg + index) % 32 ∧ (seg + index) % 32 < seg + cnt then
            (p ((seg + index) % 32 - seg)).toBitVec
          else segment board.chip.ram ((seg + index) % 32) := by
      rw [← refreshes _ (Nat.mod_lt _ (by omega)), sent _ (Nat.mod_lt _ (by omega)),
        behind_add (by omega) short]
    have within (index : Nat) (inside : index < cnt) : (seg + index) % 32 = seg + index ∧
        seg ≤ seg + index ∧ seg + index < seg + cnt ∧ seg + index - seg = index := by omega
    refine ⟨?_, ?_, ?_⟩
    · intro index inside short
      obtain ⟨place, lower, upper, offset⟩ := within index inside
      have both := held index (by omega)
      rw [if_pos short, place, if_pos ⟨lower, upper⟩, offset] at both
      exact (UInt8.toBitVec_inj.mp both).symm
    · intro index inside long
      obtain ⟨place, lower, upper, offset⟩ := within index inside
      have both := held index (by omega)
      rw [if_neg (by omega), place, if_pos ⟨lower, upper⟩, offset] at both
      exact both
    · intro index short outside
      have both := held index (by omega)
      rw [if_pos short, if_neg (by omega)] at both
      exact both.symm
  · rintro ⟨alike, present, past⟩ other inside
    have place : (seg + behind seg other) % 32 = other := by
      unfold behind
      omega
    have block : seg ≤ other ∧ other < seg + cnt ↔ behind seg other < cnt := by
      unfold behind
      omega
    rw [sent other inside]
    by_cases turn : behind seg other < 8
    · rw [if_pos turn]
      by_cases within : behind seg other < cnt
      · have offset : other - seg = behind seg other := by
          unfold behind at within ⊢
          omega
        rw [if_pos (block.mpr within), offset, alike _ within turn]
      · rw [if_neg (fun range => within (block.mp range)), ← past _ turn (by omega), place]
    · rw [if_neg turn]
      by_cases within : behind seg other < cnt
      · have offset : other - seg = behind seg other := by
          unfold behind at within ⊢
          omega
        have there : seg + behind seg other = other := by omega
        have held := present _ within (by omega)
        rw [there] at held
        rw [if_pos (block.mpr within), offset, held]
      · rw [if_neg fun range => within (block.mp range)]

theorem dispRenew_run (board : LcdBoard) : LcdBoard.dispRenew.run board =
    (LcdBoard.w1622Success (UInt8.ofNat 0) (UInt8.ofNat 32) board.lcd.dispram).run board := by
  have zero : UInt8.ofNat 0 = 0 := rfl
  have all : UInt8.ofNat 32 = 32 := rfl
  rw [LcdBoard.dispRenew, run_bind, StateT.run_get, pure_value, pure_state, zero, all]

def Renews (board : LcdBoard) : Prop :=
  ∀ seg < 32, segment (LcdBoard.dispRenew.run board).2.chip.ram seg =
    (board.lcd.dispram seg).toBitVec

theorem renews_iff_refreshes (board : LcdBoard) :
    Renews board ↔ Refreshes board 0 32 board.lcd.dispram := by
  unfold Renews Refreshes
  rw [dispRenew_run]
  refine forall_congr' fun seg => forall_congr' fun inside => ?_
  rw [if_pos (by omega), Nat.sub_zero]

/-- A block refresh is right for the blocks, and a whole one for the pictures, that the eight
turns with the first byte happen to make right. -/
theorem blockRefresh_iff {board : LcdBoard} (ready : board.Ready board.chip.ram) :
    (∀ seg cnt p, seg + cnt ≤ 32 → (Refreshes board seg cnt p ↔ RefreshKnown board seg cnt p)) ∧
      (Renews board ↔ (∀ seg < 8, board.lcd.dispram seg = board.lcd.dispram 0) ∧
        ∀ seg < 32, 8 ≤ seg → segment board.chip.ram seg = (board.lcd.dispram seg).toBitVec) := by
  refine ⟨fun seg cnt p fits => refreshes_iff ready fits p, ?_⟩
  rw [renews_iff_refreshes, refreshes_iff ready (by omega)]
  constructor
  · rintro ⟨alike, present, _⟩
    refine ⟨fun seg short => alike seg (by omega) short, ?_⟩
    intro seg inside long
    have held := present seg inside long
    rwa [Nat.zero_add] at held
  · rintro ⟨alike, present⟩
    refine ⟨fun seg _ short => alike seg short, ?_, fun index short long => by omega⟩
    intro seg inside long
    rw [Nat.zero_add]
    exact present seg inside long

theorem litBoard_ready : litBoard.Ready litBoard.chip.ram :=
  ⟨⟨by decide, by decide⟩, rfl⟩

theorem blockRefresh_iff_lit :
    (∀ seg cnt p, seg + cnt ≤ 32 → (Refreshes litBoard seg cnt p ↔ RefreshKnown litBoard seg cnt p)) ∧
      (Renews litBoard ↔ (∀ seg < 8, litBoard.lcd.dispram seg = litBoard.lcd.dispram 0) ∧
        ∀ seg < 32, 8 ≤ seg → segment litBoard.chip.ram seg = (litBoard.lcd.dispram seg).toBitVec) :=
  blockRefresh_iff litBoard_ready

/-- Segment 1 is dark in the picture and gets the byte of segment 0. -/
theorem litBoard_not_renews : litBoard.Ready litBoard.chip.ram ∧ ¬Renews litBoard := by
  refine ⟨litBoard_ready, ?_⟩
  rw [renews_iff_refreshes, refreshes_iff litBoard_ready (by omega)]
  intro known
  exact absurd (known.alike 1 (by omega) (by omega)) (by decide)

end SmartMeter
