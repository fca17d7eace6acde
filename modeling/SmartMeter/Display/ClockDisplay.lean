import SmartMeter.Drivers.LcdCore
import SmartMeter.Udp.ClockRoundTrip

/-!
What the clock shows. A cell of the picture is one com of one pin; a digit owns seven
cells of two pins, the colons four cells that no digit owns.
-/

namespace SmartMeter

open StateSimulation

namespace Lcd

def lit (lcd : Lcd) (com seg : Nat) : Bool :=
  (lcd.dispram seg).toBitVec.getLsbD com

def glyphAt (lcd : Lcd) (pin beside : Nat) : Glyph :=
  ⟨lcd.lit 2 pin, lcd.lit 3 pin, lcd.lit 4 pin, lcd.lit 5 beside, lcd.lit 4 beside,
    lcd.lit 2 beside, lcd.lit 3 beside⟩

end Lcd

theorem dispWith_dispram (change : UInt8 → UInt8) (seg : Nat) (lcd : Lcd) :
    ((dispWith change seg).run lcd).2.dispram =
      Function.update lcd.dispram seg (change (lcd.dispram seg)) := rfl

theorem bit_of_one_shift {com : UInt8} (bound : com.toNat < 8) (bit : Nat) :
    ((1 : UInt8) <<< com).toBitVec.getLsbD bit = decide (bit = com.toNat) := by
  have small : com.toNat % 8 = com.toNat := Nat.mod_eq_of_lt bound
  rw [UInt8.toBitVec_shiftLeft]
  simp [BitVec.shiftLeft_eq', BitVec.toNat_umod, small]
  grind

theorem drive_lit (on : Bool) {com : UInt8} (bound : com.toNat < 8) (seg : Nat) (lcd : Lcd)
    (bit other : Nat) :
    ((drive on com seg).run lcd).2.lit bit other =
      if bit = com.toNat ∧ other = seg then on else lcd.lit bit other := by
  by_cases same : other = seg
  · subst same
    cases on with
    | true =>
        simp only [drive, if_true, dispOn, Lcd.lit, dispWith_dispram, Function.update_self,
          UInt8.toBitVec_or, BitVec.getLsbD_or, bit_of_one_shift bound]
        by_cases hit : bit = com.toNat
        · simp [hit]
        · simp [hit]
    | false =>
        simp only [drive, Bool.false_eq_true, if_false, dispOff, Lcd.lit, dispWith_dispram,
          Function.update_self, UInt8.toBitVec_and, UInt8.toBitVec_not, BitVec.getLsbD_and,
          BitVec.getLsbD_not, bit_of_one_shift bound]
        by_cases hit : bit = com.toNat
        · simp [hit]
        · by_cases inside : bit < 8
          · simp [hit, inside]
          · have outside := BitVec.getLsbD_of_ge (lcd.dispram other).toBitVec bit (by omega)
            simp [hit, inside, outside]
  · have kept : ((drive on com seg).run lcd).2.dispram other = lcd.dispram other := by
      cases on with
      | true => exact Function.update_of_ne same _ _
      | false => exact Function.update_of_ne same _ _
    rw [Lcd.lit, kept, if_neg (fun both => same both.2), Lcd.lit]

theorem driveGlyph_glyphAt {pin beside : Nat} (apart : pin ≠ beside) (glyph : Glyph) (lcd : Lcd) :
    ((driveGlyph pin beside glyph).run lcd).2.glyphAt pin beside = glyph := by
  simp (disch := decide) only [driveGlyph, run_bind, Lcd.glyphAt, drive_lit, UInt8.reduceToNat]
  simp [apart]

/-- The cells of a digit are coms 2, 3, 4 of its pin and coms 2, 3, 4, 5 of the pin beside. -/
theorem driveGlyph_lit {pin beside bit other : Nat} (notPin : other = pin → bit < 2 ∨ 4 < bit)
    (notBeside : other = beside → bit < 2 ∨ 5 < bit) (glyph : Glyph) (lcd : Lcd) :
    ((driveGlyph pin beside glyph).run lcd).2.lit bit other = lcd.lit bit other := by
  have outside (com seg : Nat) (cell : seg = pin ∧ 2 ≤ com ∧ com ≤ 4 ∨
      seg = beside ∧ 2 ≤ com ∧ com ≤ 5) : ¬(bit = com ∧ other = seg) := by
    rintro ⟨rfl, rfl⟩
    omega
  simp (disch := decide) only [driveGlyph, run_bind, drive_lit, UInt8.reduceToNat]
  rw [if_neg (outside 3 beside (by omega)), if_neg (outside 2 beside (by omega)),
    if_neg (outside 4 beside (by omega)), if_neg (outside 5 beside (by omega)),
    if_neg (outside 4 pin (by omega)), if_neg (outside 3 pin (by omega)),
    if_neg (outside 2 pin (by omega))]

theorem driveGlyph_glyphAt_other {pin beside otherPin otherBeside : Nat}
    (apart : otherPin ≠ pin ∧ otherPin ≠ beside ∧ otherBeside ≠ pin ∧ otherBeside ≠ beside)
    (glyph : Glyph) (lcd : Lcd) :
    ((driveGlyph pin beside glyph).run lcd).2.glyphAt otherPin otherBeside =
      lcd.glyphAt otherPin otherBeside := by
  have kept (bit other : Nat) (notPin : other ≠ pin) (notBeside : other ≠ beside) :
      ((driveGlyph pin beside glyph).run lcd).2.lit bit other = lcd.lit bit other :=
    driveGlyph_lit (fun same => absurd same notPin) (fun same => absurd same notBeside) glyph lcd
  obtain ⟨first, second, third, fourth⟩ := apart
  simp only [Lcd.glyphAt, kept _ otherPin first second, kept _ otherBeside third fourth]

/-- A single cell that is driven leaves a digit alone unless it is one of its cells. -/
theorem drive_glyphAt {com : UInt8} {seg pin beside : Nat} (bound : com.toNat < 8)
    (notPin : pin = seg → com.toNat < 2 ∨ 4 < com.toNat)
    (notBeside : beside = seg → com.toNat < 2 ∨ 5 < com.toNat) (on : Bool) (lcd : Lcd) :
    ((drive on com seg).run lcd).2.glyphAt pin beside = lcd.glyphAt pin beside := by
  have kept (bit other : Nat) (cell : other = pin ∧ 2 ≤ bit ∧ bit ≤ 4 ∨
      other = beside ∧ 2 ≤ bit ∧ bit ≤ 5) :
      ((drive on com seg).run lcd).2.lit bit other = lcd.lit bit other := by
    have outside : ¬(bit = com.toNat ∧ other = seg) := by
      rintro ⟨rfl, rfl⟩
      omega
    rw [drive_lit on bound, if_neg outside]
  simp only [Lcd.glyphAt, kept 2 pin (by omega), kept 3 pin (by omega), kept 4 pin (by omega),
    kept 5 beside (by omega), kept 4 beside (by omega), kept 2 beside (by omega),
    kept 3 beside (by omega)]

inductive Segment
  | a
  | b
  | c
  | d
  | e
  | f
  | g
deriving DecidableEq

def sevenSegment : Nat → List Segment
  | 0 => [.a, .b, .c, .d, .e, .f]
  | 1 => [.b, .c]
  | 2 => [.a, .b, .g, .e, .d]
  | 3 => [.a, .b, .g, .c, .d]
  | 4 => [.f, .g, .b, .c]
  | 5 => [.a, .f, .g, .c, .d]
  | 6 => [.a, .f, .g, .e, .c, .d]
  | 7 => [.a, .b, .c]
  | 8 => [.a, .b, .c, .d, .e, .f, .g]
  | 9 => [.a, .b, .c, .d, .f, .g]
  | _ => []

def digitGlyph (digit : Nat) : Glyph :=
  let lit := sevenSegment digit
  ⟨.a ∈ lit, .b ∈ lit, .c ∈ lit, .d ∈ lit, .e ∈ lit, .f ∈ lit, .g ∈ lit⟩

theorem digitGlyph_inj {first second : Nat} (firstDigit : first ≤ 9) (secondDigit : second ≤ 9)
    (same : digitGlyph first = digitGlyph second) : first = second := by
  have all : ∀ first < 10, ∀ second < 10, digitGlyph first = digitGlyph second →
      first = second := by decide
  exact all first (by omega) second (by omega) same

theorem numArms_digit {digit : Nat} (bound : digit ≤ 9) :
    numArms[digit]? = some (digitGlyph digit) := by
  have all : ∀ digit < 10, numArms[digit]? = some (digitGlyph digit) := by decide
  exact all digit (by omega)

theorem showNum_digit {num : UInt8} (bound : num.toNat ≤ 9) (pin beside : Nat) :
    showNum pin beside num = driveGlyph pin beside (digitGlyph num.toNat) := by
  rw [showNum, numArms_digit bound]

theorem tens_digit {value : UInt8} (bound : value.toNat < 100) : (value / 10).toNat ≤ 9 := by
  have tens := UInt8.toNat_div value 10
  simp only [UInt8.reduceToNat] at tens
  omega

theorem units_digit (value : UInt8) : (value % 10).toNat ≤ 9 := by
  have units := UInt8.toNat_mod value 10
  simp only [UInt8.reduceToNat] at units
  omega

/-- The two digits of a number below one hundred, at two positions of the display. -/
def Lcd.ShowsPair (lcd : Lcd) (tens units : Nat × Nat) (value : Nat) : Prop :=
  lcd.glyphAt tens.1 tens.2 = digitGlyph (value / 10) ∧
    lcd.glyphAt units.1 units.2 = digitGlyph (value % 10)

def Lcd.ColonsLit (lcd : Lcd) : Prop :=
  lcd.lit 1 16 = true ∧ lcd.lit 5 16 = true ∧ lcd.lit 1 7 = true ∧ lcd.lit 5 7 = true

def Lcd.Blank (lcd : Lcd) (pin beside : Nat) : Prop :=
  lcd.glyphAt pin beside = darkGlyph

section

variable {pin beside otherPin otherBeside seg bit other : Nat} {com num : UInt8}

theorem drive_leaves (on : Bool) (bound : com.toNat < 8) (seg : Nat) :
    Leaves (fun lcd => lcd.lit com.toNat seg) on (drive on com seg) := by
  intro lcd
  exact (drive_lit on bound seg lcd com.toNat seg).trans (if_pos ⟨rfl, rfl⟩)

theorem drive_keeps (on : Bool) (bound : com.toNat < 8)
    (apart : (otherPin ≠ seg ∨ com.toNat < 2 ∨ 4 < com.toNat) ∧
      (otherBeside ≠ seg ∨ com.toNat < 2 ∨ 5 < com.toNat)) :
    Keeps (fun lcd => lcd.glyphAt otherPin otherBeside) (drive on com seg) :=
  drive_glyphAt bound (by omega) (by omega) on

theorem drive_keeps_lit (on : Bool) (bound : com.toNat < 8)
    (apart : bit ≠ com.toNat ∨ other ≠ seg) :
    Keeps (fun lcd => lcd.lit bit other) (drive on com seg) := by
  intro lcd
  exact (drive_lit on bound seg lcd bit other).trans (if_neg (by omega))

theorem driveGlyph_leaves (apart : pin ≠ beside) (glyph : Glyph) :
    Leaves (fun lcd => lcd.glyphAt pin beside) glyph (driveGlyph pin beside glyph) :=
  driveGlyph_glyphAt apart glyph

theorem driveGlyph_keeps
    (apart : otherPin ≠ pin ∧ otherPin ≠ beside ∧ otherBeside ≠ pin ∧ otherBeside ≠ beside)
    (glyph : Glyph) :
    Keeps (fun lcd => lcd.glyphAt otherPin otherBeside) (driveGlyph pin beside glyph) :=
  driveGlyph_glyphAt_other apart glyph

theorem showNum_leaves (bound : num.toNat ≤ 9) (apart : pin ≠ beside) :
    Leaves (fun lcd => lcd.glyphAt pin beside) (digitGlyph num.toNat) (showNum pin beside num) := by
  rw [showNum_digit bound]
  exact driveGlyph_leaves apart _

theorem showNum_keeps
    (apart : otherPin ≠ pin ∧ otherPin ≠ beside ∧ otherBeside ≠ pin ∧ otherBeside ≠ beside)
    (num : UInt8) :
    Keeps (fun lcd => lcd.glyphAt otherPin otherBeside) (showNum pin beside num) := by
  rw [showNum]
  split
  · exact driveGlyph_keeps apart _
  · exact fun _ => rfl

theorem showNum_keeps_lit (apart : (other ≠ pin ∨ bit < 2 ∨ 4 < bit) ∧
    (other ≠ beside ∨ bit < 2 ∨ 5 < bit)) (num : UInt8) :
    Keeps (fun lcd => lcd.lit bit other) (showNum pin beside num) := by
  rw [showNum]
  split
  · exact driveGlyph_lit (by omega) (by omega) _
  · exact fun _ => rfl

end

section

variable (hour minute second : UInt8)

theorem showClrtime_dark :
    Leaves (fun lcd => lcd.glyphAt 22 23) darkGlyph showClrtime ∧
      Leaves (fun lcd => lcd.glyphAt 20 21) darkGlyph showClrtime := by
  constructor
  · refine (driveGlyph_leaves (by decide) darkGlyph).bind_of_keeps fun _ => ?_
    iterate 7 refine (driveGlyph_keeps (by decide) darkGlyph).bind fun _ => ?_
    iterate 8 refine (drive_keeps false (by decide) (by decide)).bind fun _ => ?_
    exact drive_keeps false (by decide) (by decide)
  · refine .bind fun _ => (driveGlyph_leaves (by decide) darkGlyph).bind_of_keeps fun _ => ?_
    iterate 6 refine (driveGlyph_keeps (by decide) darkGlyph).bind fun _ => ?_
    iterate 8 refine (drive_keeps false (by decide) (by decide)).bind fun _ => ?_
    exact drive_keeps false (by decide) (by decide)

theorem showLightMH_keeps {pin beside : Nat} (apart : beside ≠ 16) :
    Keeps (fun lcd => lcd.glyphAt pin beside) showLightMH :=
  (drive_keeps true (by decide) ⟨.inr (by decide), .inl apart⟩).bind fun _ =>
    drive_keeps true (by decide) ⟨.inr (by decide), .inl apart⟩

theorem showRightMH_keeps {pin beside : Nat} (apart : beside ≠ 7) :
    Keeps (fun lcd => lcd.glyphAt pin beside) showRightMH :=
  (drive_keeps true (by decide) ⟨.inr (by decide), .inl apart⟩).bind fun _ =>
    drive_keeps true (by decide) ⟨.inr (by decide), .inl apart⟩

theorem showTime_keeps {pin beside : Nat}
    (apart : ∀ seg ∈ [18, 19, 16, 17, 14, 15, 7, 6, 9, 8, 11, 10], pin ≠ seg ∧ beside ≠ seg)
    {glyph : Glyph} (cleared : Leaves (fun lcd => lcd.glyphAt pin beside) glyph showClrtime) :
    Leaves (fun lcd => lcd.glyphAt pin beside) glyph (showTime hour minute second) := by
  simp only [List.forall_mem_cons] at apart
  refine cleared.bind_of_keeps fun _ => ?_
  refine (showNum_keeps (by omega) _).bind fun _ => ?_
  refine (showNum_keeps (by omega) _).bind fun _ => ?_
  refine (showLightMH_keeps (by omega)).bind fun _ => ?_
  refine (showNum_keeps (by omega) _).bind fun _ => ?_
  refine (showNum_keeps (by omega) _).bind fun _ => ?_
  refine (showRightMH_keeps (by omega)).bind fun _ => ?_
  refine (showNum_keeps (by omega) _).bind fun _ => ?_
  exact showNum_keeps (by omega) _

theorem showTime_hour (bound : hour.toNat < 100) :
    Leaves (fun lcd => lcd.glyphAt 18 19) (digitGlyph (hour / 10).toNat)
        (showTime hour minute second) ∧
      Leaves (fun lcd => lcd.glyphAt 16 17) (digitGlyph (hour % 10).toNat)
        (showTime hour minute second) := by
  constructor
  · refine .bind fun _ => (showNum_leaves (tens_digit bound) (by decide)).bind_of_keeps fun _ => ?_
    refine (showNum_keeps (by decide) _).bind fun _ => ?_
    refine (showLightMH_keeps (by decide)).bind fun _ => ?_
    refine (showNum_keeps (by decide) _).bind fun _ => ?_
    refine (showNum_keeps (by decide) _).bind fun _ => ?_
    refine (showRightMH_keeps (by decide)).bind fun _ => ?_
    exact (showNum_keeps (by decide) _).bind fun _ => showNum_keeps (by decide) _
  · refine .bind fun _ => .bind fun _ =>
      (showNum_leaves (units_digit hour) (by decide)).bind_of_keeps fun _ => ?_
    refine (showLightMH_keeps (by decide)).bind fun _ => ?_
    refine (showNum_keeps (by decide) _).bind fun _ => ?_
    refine (showNum_keeps (by decide) _).bind fun _ => ?_
    refine (showRightMH_keeps (by decide)).bind fun _ => ?_
    exact (showNum_keeps (by decide) _).bind fun _ => showNum_keeps (by decide) _

theorem showTime_minute (bound : minute.toNat < 100) :
    Leaves (fun lcd => lcd.glyphAt 14 15) (digitGlyph (minute / 10).toNat)
        (showTime hour minute second) ∧
      Leaves (fun lcd => lcd.glyphAt 7 6) (digitGlyph (minute % 10).toNat)
        (showTime hour minute second) := by
  constructor
  · refine .bind fun _ => .bind fun _ => .bind fun _ => .bind fun _ =>
      (showNum_leaves (tens_digit bound) (by decide)).bind_of_keeps fun _ => ?_
    refine (showNum_keeps (by decide) _).bind fun _ => ?_
    refine (showRightMH_keeps (by decide)).bind fun _ => ?_
    exact (showNum_keeps (by decide) _).bind fun _ => showNum_keeps (by decide) _
  · refine .bind fun _ => .bind fun _ => .bind fun _ => .bind fun _ => .bind fun _ =>
      (showNum_leaves (units_digit minute) (by decide)).bind_of_keeps fun _ => ?_
    refine (showRightMH_keeps (by decide)).bind fun _ => ?_
    exact (showNum_keeps (by decide) _).bind fun _ => showNum_keeps (by decide) _

/-- The last two digits of `Show_time` and of `Show_date` are drawn last. -/
theorem lastDigits_leave {value : UInt8} (bound : value.toNat < 100) :
    Leaves (fun lcd => lcd.glyphAt 9 8) (digitGlyph (value / 10).toNat)
        (do show7num (value / 10); show8num (value % 10)) ∧
      Leaves (fun lcd => lcd.glyphAt 11 10) (digitGlyph (value % 10).toNat)
        (do show7num (value / 10); show8num (value % 10)) :=
  ⟨(showNum_leaves (tens_digit bound) (by decide)).bind_of_keeps fun _ =>
      showNum_keeps (by decide) _,
    .bind fun _ => showNum_leaves (units_digit value) (by decide)⟩

theorem showTime_second (bound : second.toNat < 100) :
    Leaves (fun lcd => lcd.glyphAt 9 8) (digitGlyph (second / 10).toNat)
        (showTime hour minute second) ∧
      Leaves (fun lcd => lcd.glyphAt 11 10) (digitGlyph (second % 10).toNat)
        (showTime hour minute second) := by
  obtain ⟨tens, units⟩ := lastDigits_leave bound
  constructor
  · iterate 7 refine .bind fun _ => ?_
    exact tens
  · iterate 7 refine .bind fun _ => ?_
    exact units

theorem showTime_lightColon (bit : UInt8) (dot : bit = 1 ∨ bit = 5) :
    Leaves (fun lcd => lcd.lit bit.toNat 16) true (showTime hour minute second) := by
  have drawn : Leaves (fun lcd => lcd.lit bit.toNat 16) true showLightMH := by
    rcases dot with rfl | rfl
    · exact (drive_leaves true (by decide) 16).bind_of_keeps fun _ =>
        drive_keeps_lit true (by decide) (by decide)
    · exact .bind fun _ => drive_leaves true (by decide) 16
  refine .bind fun _ => .bind fun _ => .bind fun _ => drawn.bind_of_keeps fun _ => ?_
  refine (showNum_keeps_lit ⟨.inl (by decide), .inl (by decide)⟩ _).bind fun _ => ?_
  refine (showNum_keeps_lit ⟨.inl (by decide), .inl (by decide)⟩ _).bind fun _ => ?_
  refine ((drive_keeps_lit true (by decide) (.inr (by decide))).bind fun _ =>
    drive_keeps_lit true (by decide) (.inr (by decide))).bind fun _ => ?_
  exact (showNum_keeps_lit ⟨.inl (by decide), .inl (by decide)⟩ _).bind fun _ =>
    showNum_keeps_lit ⟨.inl (by decide), .inl (by decide)⟩ _

theorem showTime_rightColon (bit : UInt8) (dot : bit = 1 ∨ bit = 5) :
    Leaves (fun lcd => lcd.lit bit.toNat 7) true (showTime hour minute second) := by
  have drawn : Leaves (fun lcd => lcd.lit bit.toNat 7) true showRightMH := by
    rcases dot with rfl | rfl
    · exact .bind fun _ => drive_leaves true (by decide) 7
    · exact (drive_leaves true (by decide) 7).bind_of_keeps fun _ =>
        drive_keeps_lit true (by decide) (by decide)
  refine .bind fun _ => .bind fun _ => .bind fun _ => .bind fun _ => .bind fun _ => .bind fun _ =>
    drawn.bind_of_keeps fun _ => ?_
  exact (showNum_keeps_lit ⟨.inl (by decide), .inl (by decide)⟩ _).bind fun _ =>
    showNum_keeps_lit ⟨.inl (by decide), .inl (by decide)⟩ _

end

section

variable (year month day : UInt8)

theorem showDate_month (bound : month.toNat < 100) :
    Leaves (fun lcd => lcd.glyphAt 16 17) (digitGlyph (month / 10).toNat)
        (showDate year month day) ∧
      Leaves (fun lcd => lcd.glyphAt 14 15) (digitGlyph (month % 10).toNat)
        (showDate year month day) := by
  constructor
  · refine .bind fun _ => .bind fun _ => .bind fun _ => .bind fun _ =>
      (showNum_leaves (tens_digit bound) (by decide)).bind_of_keeps fun _ => ?_
    refine (showNum_keeps (by decide) _).bind fun _ => ?_
    refine (showNum_keeps (by decide) _).bind fun _ => ?_
    exact (showNum_keeps (by decide) _).bind fun _ => showNum_keeps (by decide) _
  · refine .bind fun _ => .bind fun _ => .bind fun _ => .bind fun _ => .bind fun _ =>
      (showNum_leaves (units_digit month) (by decide)).bind_of_keeps fun _ => ?_
    refine (showNum_keeps (by decide) _).bind fun _ => ?_
    exact (showNum_keeps (by decide) _).bind fun _ => showNum_keeps (by decide) _

theorem showDate_day (bound : day.toNat < 100) :
    Leaves (fun lcd => lcd.glyphAt 9 8) (digitGlyph (day / 10).toNat)
        (showDate year month day) ∧
      Leaves (fun lcd => lcd.glyphAt 11 10) (digitGlyph (day % 10).toNat)
        (showDate year month day) := by
  obtain ⟨tens, units⟩ := lastDigits_leave bound
  constructor
  · iterate 7 refine .bind fun _ => ?_
    exact tens
  · iterate 7 refine .bind fun _ => ?_
    exact units

end

theorem hexToDec_toNat (hex : UInt8) :
    (hexToDec hex).toNat = hex.toNat / 16 * 10 + hex.toNat % 16 := by
  have small := hex.toNat_lt
  have high : ((hex &&& 0xF0) >>> 4).toNat = hex.toNat / 16 := by
    simp only [UInt8.toNat_shiftRight, UInt8.toNat_and, UInt8.reduceToNat, Nat.reduceMod,
      Nat.shiftRight_and_distrib, Nat.reduceShiftRight]
    rw [Nat.shiftRight_eq_div_pow, Nat.and_two_pow_sub_one_eq_mod _ 4]
    omega
  have low : (hex &&& 0x0F).toNat = hex.toNat % 16 := by
    rw [UInt8.toNat_and]
    exact Nat.and_two_pow_sub_one_eq_mod hex.toNat 4
  rw [hexToDec, UInt8.toNat_add, UInt8.toNat_mul, high, low]
  simp only [UInt8.reduceToNat]
  omega

/-- Both nibbles are decimal digits and the number they write is at most `limit`. -/
def IsBcd (limit : Nat) (byte : UInt8) : Prop :=
  byte.toNat / 16 ≤ 9 ∧ byte.toNat % 16 ≤ 9 ∧ byte.toNat / 16 * 10 + byte.toNat % 16 ≤ limit

/-- The two nibbles of a byte, as digits at two positions of the display. -/
def Lcd.ShowsNibbles (lcd : Lcd) (tens units : Nat × Nat) (byte : UInt8) : Prop :=
  lcd.glyphAt tens.1 tens.2 = digitGlyph (byte.toNat / 16) ∧
    lcd.glyphAt units.1 units.2 = digitGlyph (byte.toNat % 16)

structure Lcd.ShowsClock (lcd : Lcd) (time : TimeDef) : Prop where
  hour : IsBcd 23 time.hour
  minute : IsBcd 59 time.minute
  second : IsBcd 59 time.second
  hourDigits : lcd.ShowsNibbles (18, 19) (16, 17) time.hour
  minuteDigits : lcd.ShowsNibbles (14, 15) (7, 6) time.minute
  secondDigits : lcd.ShowsNibbles (9, 8) (11, 10) time.second
  colons : lcd.ColonsLit
  blank : lcd.Blank 22 23 ∧ lcd.Blank 20 21

def Lcd.ShowsDate (lcd : Lcd) : Prop :=
  ∃ month day : Nat, 1 ≤ month ∧ month ≤ 12 ∧ 1 ≤ day ∧ day ≤ 31 ∧
    lcd.ShowsPair (16, 17) (14, 15) month ∧ lcd.ShowsPair (9, 8) (11, 10) day

theorem tens_toNat (value : UInt8) : (value / 10).toNat = value.toNat / 10 := by
  rw [UInt8.toNat_div]
  rfl

theorem units_toNat (value : UInt8) : (value % 10).toNat = value.toNat % 10 := by
  rw [UInt8.toNat_mod]
  rfl

theorem showsNibbles_of_decimal {lcd : Lcd} {tens units : Nat × Nat} {byte : UInt8}
    (high : lcd.glyphAt tens.1 tens.2 = digitGlyph (hexToDec byte / 10).toNat)
    (low : lcd.glyphAt units.1 units.2 = digitGlyph (hexToDec byte % 10).toNat)
    (decimal : byte.toNat % 16 ≤ 9) : lcd.ShowsNibbles tens units byte := by
  rw [tens_toNat, hexToDec_toNat] at high
  rw [units_toNat, hexToDec_toNat] at low
  have quotient : (byte.toNat / 16 * 10 + byte.toNat % 16) / 10 = byte.toNat / 16 := by omega
  have remainder : (byte.toNat / 16 * 10 + byte.toNat % 16) % 10 = byte.toNat % 16 := by omega
  rw [quotient] at high
  rw [remainder] at low
  exact ⟨high, low⟩

theorem hexToDec_lt {byte : UInt8} (bound : byte.toNat ≤ 0x59) : (hexToDec byte).toNat < 100 := by
  rw [hexToDec_toNat]
  omega

theorem showsClock_iff (lcd : Lcd) {time : TimeDef} (hour : time.hour.toNat ≤ 0x23)
    (minute : time.minute.toNat ≤ 0x59) (second : time.second.toNat ≤ 0x59) :
    ((lcdDisplayTime time).run lcd).2.ShowsClock time ↔
      time.hour.toNat % 16 ≤ 9 ∧ time.minute.toNat % 16 ≤ 9 ∧ time.second.toNat % 16 ≤ 9 := by
  constructor
  · intro shown
    exact ⟨shown.hour.2.1, shown.minute.2.1, shown.second.2.1⟩
  · rintro ⟨hourDecimal, minuteDecimal, secondDecimal⟩
    rw [lcdDisplayTime, run_bind]
    generalize (showTimeFlag.run lcd).2 = flagged
    have hours := showTime_hour (hexToDec time.hour) (hexToDec time.minute) (hexToDec time.second)
      (hexToDec_lt (by omega))
    have minutes := showTime_minute (hexToDec time.hour) (hexToDec time.minute)
      (hexToDec time.second) (hexToDec_lt minute)
    have seconds := showTime_second (hexToDec time.hour) (hexToDec time.minute)
      (hexToDec time.second) (hexToDec_lt second)
    exact {
      hour := ⟨by omega, hourDecimal, by omega⟩
      minute := ⟨by omega, minuteDecimal, by omega⟩
      second := ⟨by omega, secondDecimal, by omega⟩
      hourDigits := showsNibbles_of_decimal (hours.1 flagged) (hours.2 flagged) hourDecimal
      minuteDigits := showsNibbles_of_decimal (minutes.1 flagged) (minutes.2 flagged) minuteDecimal
      secondDigits := showsNibbles_of_decimal (seconds.1 flagged) (seconds.2 flagged) secondDecimal
      colons := ⟨showTime_lightColon _ _ _ 1 (.inl rfl) flagged,
        showTime_lightColon _ _ _ 5 (.inr rfl) flagged,
        showTime_rightColon _ _ _ 1 (.inl rfl) flagged,
        showTime_rightColon _ _ _ 5 (.inr rfl) flagged⟩
      blank := ⟨showTime_keeps _ _ _ (by decide) showClrtime_dark.1 flagged,
        showTime_keeps _ _ _ (by decide) showClrtime_dark.2 flagged⟩ }

theorem showsPair_eq {lcd : Lcd} {tens units : Nat × Nat} {first second : Nat}
    (firstBound : first < 100) (secondBound : second < 100)
    (firstShown : lcd.ShowsPair tens units first) (secondShown : lcd.ShowsPair tens units second) :
    first = second := by
  have quotient := digitGlyph_inj (by omega) (by omega) (firstShown.1.symm.trans secondShown.1)
  have remainder := digitGlyph_inj (by omega) (by omega) (firstShown.2.symm.trans secondShown.2)
  omega

theorem showsDate_iff (lcd : Lcd) {time : TimeDef} (month : time.month.toNat ≤ 0x12)
    (day : time.day.toNat ≤ 0x31) :
    ((lcdDisplayDate time).run lcd).2.ShowsDate ↔
      (1 ≤ (hexToDec time.month).toNat ∧ (hexToDec time.month).toNat ≤ 12) ∧
        1 ≤ (hexToDec time.day).toNat ∧ (hexToDec time.day).toNat ≤ 31 := by
  have months := showDate_month (hexToDec time.year) (hexToDec time.month) (hexToDec time.day)
    (hexToDec_lt (by omega))
  have days := showDate_day (hexToDec time.year) (hexToDec time.month) (hexToDec time.day)
    (hexToDec_lt (by omega))
  rw [tens_toNat, units_toNat] at months days
  have monthShown : ((lcdDisplayDate time).run lcd).2.ShowsPair (16, 17) (14, 15)
      (hexToDec time.month).toNat := ⟨months.1 lcd, months.2 lcd⟩
  have dayShown : ((lcdDisplayDate time).run lcd).2.ShowsPair (9, 8) (11, 10)
      (hexToDec time.day).toNat := ⟨days.1 lcd, days.2 lcd⟩
  constructor
  · rintro ⟨shownMonth, shownDay, monthLow, monthHigh, dayLow, dayHigh, monthPair, dayPair⟩
    have sameMonth := showsPair_eq (by omega) (hexToDec_lt (by omega)) monthPair monthShown
    have sameDay := showsPair_eq (by omega) (hexToDec_lt (by omega)) dayPair dayShown
    omega
  · rintro ⟨⟨monthLow, monthHigh⟩, dayLow, dayHigh⟩
    exact ⟨_, _, monthLow, monthHigh, dayLow, dayHigh, monthShown, dayShown⟩

theorem readTime_exrtcSave (sysTime : TimeDef) (board : Board) :
    (readTime.run (board.exrtcSave sysTime).i2c).1 = clockTime board.meter.rtc := by
  have cells : (storageView (board.exrtcSave sysTime).i2c).eeprom =
      writeSpan board.meter.eeprom 0 (savedTime (clockTime board.meter.rtc)) 7 :=
    congrArg (fun meter => meter.eeprom) (exrtcSave_meter sysTime board)
  have read (index : Nat) (bound : index < 7) :
      Buffer.copy (fun _ => 0) 0 (fun index =>
        (storageView (board.exrtcSave sysTime).i2c).eeprom (0 + UInt16.ofNat index)) 7 index =
        savedTime (clockTime board.meter.rtc) index := by
    have saved := writeSpan_inside board.meter.eeprom 0 (savedTime (clockTime board.meter.rtc))
      (by decide : 7 ≤ 65536) bound
    rw [Buffer.copy_apply, if_pos ⟨Nat.zero_le index, by omega⟩, cells, Nat.sub_zero, saved]
  rw [(readTime_simulates (board.exrtcSave sysTime).i2c).1]
  change restoredTime (Buffer.copy (fun _ => 0) 0 (fun index =>
    (storageView (board.exrtcSave sysTime).i2c).eeprom (0 + UInt16.ofNat index)) 7) = _
  simp only [restoredTime, read 0 (by decide), read 1 (by decide), read 2 (by decide),
    read 3 (by decide), read 4 (by decide), read 5 (by decide), read 6 (by decide)]
  rfl

theorem clampField_le {limit fallback : UInt8} (within : fallback ≤ limit) (value : UInt8) :
    (clampField limit fallback value).toNat ≤ limit.toNat := by
  rw [clampField]
  split
  next => exact UInt8.le_iff_toNat_le.mp within
  next notAbove => exact UInt8.le_iff_toNat_le.mp (UInt8.not_lt.mp notAbove)

theorem handle_timeWrite {write : Call} (accepted : write.handler = some .writeMeter)
    (address : write.address = 0x02) {board : Board}
    (unlocked : rtcUnlocked board.meter.rtc = true) :
    clockTime (board.handle write).meter.rtc =
      timeWrite (fun offset => write.payload (offset - 3).toNat) := by
  have arm : writeArm write.address = some .time := by
    rw [address]
    decide
  rw [handle_write accepted, Meter.afterWrite, arm]
  simp only [WriteArm.effect, unlocked, if_true]
  exact clockTime_clockRegisters _ (UInt8.le_iff_toNat_le.mpr (clampField_le (by decide) _))

theorem clampField_decimal {limit fallback : UInt8} (decimal : fallback.toNat % 16 ≤ 9)
    (value : UInt8) : (clampField limit fallback value).toNat % 16 ≤ 9 ↔
      (value ≤ limit → value.toNat % 16 ≤ 9) := by
  rw [clampField]
  split
  next above =>
    have outside : ¬value ≤ limit := UInt8.not_le.mpr above
    simp [decimal, outside]
  next notAbove =>
    have within : value ≤ limit := UInt8.not_lt.mp notAbove
    simp [within]

theorem clampField_hexToDec {limit fallback : UInt8} {last : Nat}
    (valid : 1 ≤ (hexToDec fallback).toNat ∧ (hexToDec fallback).toNat ≤ last) (value : UInt8) :
    (1 ≤ (hexToDec (clampField limit fallback value)).toNat ∧
        (hexToDec (clampField limit fallback value)).toNat ≤ last) ↔
      (value.toNat ≤ limit.toNat → 1 ≤ value.toNat / 16 * 10 + value.toNat % 16 ∧
        value.toNat / 16 * 10 + value.toNat % 16 ≤ last) := by
  rw [clampField]
  split
  next above =>
    have outside : ¬value.toNat ≤ limit.toNat := by
      have more := UInt8.lt_iff_toNat_lt.mp above
      omega
    simp [valid, outside]
  next notAbove =>
    have within : value.toNat ≤ limit.toNat := UInt8.le_iff_toNat_le.mp (UInt8.not_lt.mp notAbove)
    simp [within, hexToDec_toNat]

theorem monthByte_iff (value : UInt8) :
    (value.toNat ≤ 0x12 → 1 ≤ value.toNat / 16 * 10 + value.toNat % 16 ∧
        value.toNat / 16 * 10 + value.toNat % 16 ≤ 12) ↔
      value ≠ 0 ∧ ¬(0x0D ≤ value ∧ value ≤ 0x0F) := by
  rw [ne_eq, ← UInt8.toNat_inj, UInt8.le_iff_toNat_le, UInt8.le_iff_toNat_le]
  simp only [UInt8.reduceToNat]
  omega

theorem dayByte_iff (value : UInt8) :
    (value.toNat ≤ 0x31 → 1 ≤ value.toNat / 16 * 10 + value.toNat % 16 ∧
        value.toNat / 16 * 10 + value.toNat % 16 ≤ 31) ↔
      value ≠ 0 ∧ ¬(0x2C ≤ value ∧ value ≤ 0x2F) := by
  rw [ne_eq, ← UInt8.toNat_inj, UInt8.le_iff_toNat_le, UInt8.le_iff_toNat_le]
  simp only [UInt8.reduceToNat]
  omega

/-- The picture after one turn of `LCD_display` for a time that went through the clock chip
and the saved-time block: first the clock, then the date. -/
def DisplaysClock (write : Call) (board : Board) (sysTime : TimeDef) (lcd : Lcd) : Prop :=
  let time := (readTime.run ((board.handle write).exrtcSave sysTime).i2c).1
  let clock := ((lcdDisplayTime time).run lcd).2
  clock.ShowsClock time ∧ ((lcdDisplayDate time).run clock).2.ShowsDate

/-- Payload order: second, minute, hour, week, day, month, year. A byte above its limit is
replaced by the command; one below it is taken as it is, decimal or not. -/
structure DecimalPayload (payload : Nat → UInt8) : Prop where
  second : payload 0 ≤ 0x59 → (payload 0).toNat % 16 ≤ 9
  minute : payload 1 ≤ 0x59 → (payload 1).toNat % 16 ≤ 9
  hour : payload 2 ≤ 0x23 → (payload 2).toNat % 16 ≤ 9
  day : payload 4 ≠ 0 ∧ ¬(0x2C ≤ payload 4 ∧ payload 4 ≤ 0x2F)
  month : payload 5 ≠ 0 ∧ ¬(0x0D ≤ payload 5 ∧ payload 5 ≤ 0x0F)

theorem displaysClock_iff (write : Call) (board : Board) (sysTime : TimeDef) (lcd : Lcd)
    (accepted : write.handler = some .writeMeter) (address : write.address = 0x02)
    (unlocked : rtcUnlocked board.meter.rtc = true) :
    DisplaysClock write board sysTime lcd ↔ DecimalPayload write.payload := by
  have time : (readTime.run ((board.handle write).exrtcSave sysTime).i2c).1 =
      timeWrite (fun offset => write.payload (offset - 3).toNat) := by
    rw [readTime_exrtcSave, handle_timeWrite accepted address unlocked]
  rw [DisplaysClock, time, showsClock_iff _ (clampField_le (by decide) _)
    (clampField_le (by decide) _) (clampField_le (by decide) _), showsDate_iff _
    (clampField_le (by decide) _) (clampField_le (by decide) _)]
  have decimal : (0 : UInt8).toNat % 16 ≤ 9 := by decide
  simp only [timeWrite, clampField_decimal decimal,
    clampField_hexToDec (by decide : 1 ≤ (hexToDec 1).toNat ∧ (hexToDec 1).toNat ≤ 12),
    clampField_hexToDec (by decide : 1 ≤ (hexToDec 1).toNat ∧ (hexToDec 1).toNat ≤ 31)]
  constructor
  · rintro ⟨⟨hour, minute, second⟩, month, day⟩
    exact ⟨second, minute, hour, (dayByte_iff _).mp day, (monthByte_iff _).mp month⟩
  · intro payload
    exact ⟨⟨payload.hour, payload.minute, payload.second⟩, (monthByte_iff _).mpr payload.month,
      (dayByte_iff _).mpr payload.day⟩

def darkLcd : Lcd :=
  ⟨fun _ => 0, ⟨⟨0, 0, 0, 0⟩, ⟨0, 0, 0, 0⟩⟩⟩

theorem displaysClock_iff_evening :
    DisplaysClock (command (fun _ => 0) 0x02 [0x30, 0x59, 0x23, 0x03, 0x25, 0x06, 0x18])
      unlockedBoard ⟨0, 0, 0, 0, 0, 0, 0⟩ darkLcd :=
  (displaysClock_iff (command (fun _ => 0) 0x02 [0x30, 0x59, 0x23, 0x03, 0x25, 0x06, 0x18])
    unlockedBoard ⟨0, 0, 0, 0, 0, 0, 0⟩ darkLcd (by decide) (by decide) (by decide)).mpr
    ⟨by decide, by decide, by decide, by decide, by decide⟩

/-- The hour byte 0x1F passes the comparison with 0x23 and is shown as 25 o'clock. -/
theorem hour_not_displaysClock :
    ¬DisplaysClock (command (fun _ => 0) 0x02 [0x30, 0x59, 0x1F, 0x03, 0x25, 0x06, 0x18])
      unlockedBoard ⟨0, 0, 0, 0, 0, 0, 0⟩ darkLcd := by
  have time : (readTime.run ((unlockedBoard.handle (command (fun _ => 0) 0x02
      [0x30, 0x59, 0x1F, 0x03, 0x25, 0x06, 0x18])).exrtcSave ⟨0, 0, 0, 0, 0, 0, 0⟩).i2c).1 =
      timeWrite (fun offset => (command (fun _ => 0) 0x02
        [0x30, 0x59, 0x1F, 0x03, 0x25, 0x06, 0x18]).payload (offset - 3).toNat) := by
    rw [readTime_exrtcSave, handle_timeWrite (by decide) (by decide) (by decide)]
  rintro ⟨shown, -⟩
  rw [time] at shown
  have decimal := shown.hour.2.1
  revert decimal
  decide

end SmartMeter
