import SmartMeter.Drivers.Ht1622

/-!
What the display controller shows against what `dispram` holds. The pins carry one frame
after another, and a frame that starts with 101 writes cells from its address on.
-/

namespace SmartMeter

open ThreeWire StateSimulation

section Cells

theorem bitsHL_mode : bitsHL 3 0xA0 = [true, false, true] := by decide

def addressBits (pointer : BitVec 6) : List Bool :=
  [pointer.getLsbD 5, pointer.getLsbD 4, pointer.getLsbD 3, pointer.getLsbD 2, pointer.getLsbD 1,
    pointer.getLsbD 0]

def cellBits (cell : BitVec 4) : List Bool :=
  [cell.getLsbD 0, cell.getLsbD 1, cell.getLsbD 2, cell.getLsbD 3]

theorem addressOf_bits : ∀ pointer : BitVec 6, addressOf (addressBits pointer) = pointer := by
  decide +kernel

theorem cellOf_bits : ∀ cell : BitVec 4, cellOf (cellBits cell) = cell := by
  decide +kernel

theorem bitsHL_address (addr : UInt8) : bitsHL 6 (addr <<< 2) = addressBits (addr.toBitVec.setWidth 6) := by
  obtain ⟨bits⟩ := addr
  revert bits
  decide +kernel

theorem bitsLH_cell (dat : UInt8) : bitsLH 4 dat = cellBits (dat.toBitVec.setWidth 4) := by
  obtain ⟨bits⟩ := dat
  revert bits
  decide +kernel

def writeCells (ram : BitVec 6 → BitVec 4) (pointer : BitVec 6) : List (BitVec 4) → BitVec 6 → BitVec 4
  | [] => ram
  | cell :: rest => writeCells (Function.update ram pointer cell) (pointer + 1) rest

theorem writeCells_apply (ram : BitVec 6 → BitVec 4) (pointer : BitVec 6) (cells : List (BitVec 4))
    (short : cells.length ≤ 64) (other : BitVec 6) :
    writeCells ram pointer cells other = (cells[(other - pointer).toNat]?).getD (ram other) := by
  induction cells generalizing ram pointer with
  | nil => rfl
  | cons cell rest ih =>
      simp only [List.length_cons] at short
      rw [writeCells, ih _ _ (by omega)]
      have bounds := And.intro other.isLt pointer.isLt
      have one : (1 : BitVec 6).toNat = 1 := rfl
      by_cases first : other = pointer
      · subst first
        have last : (other - (other + 1)).toNat = 63 := by
          simp only [BitVec.toNat_sub, BitVec.toNat_add]
          omega
        have past : rest[(other - (other + 1)).toNat]? = none := by
          rw [List.getElem?_eq_none_iff]
          omega
        rw [past, BitVec.sub_self]
        simp
      · have apart : other.toNat ≠ pointer.toNat := fun same => first (BitVec.eq_of_toNat_eq same)
        have shift : (other - pointer).toNat = (other - (pointer + 1)).toNat + 1 := by
          simp only [BitVec.toNat_sub, BitVec.toNat_add]
          omega
        rw [shift, List.getElem?_cons_succ, Function.update_of_ne first]

end Cells

def Ht1622.idle (ram : BitVec 6 → BitVec 4) : Ht1622 :=
  ⟨.mode [], ram⟩

theorem clock_address (ram : BitVec 6 → BitVec 4) (pointer : BitVec 6) :
    ([true, false, true] ++ addressBits pointer).foldl Ht1622.clock (Ht1622.idle ram) =
      ⟨.data pointer [], ram⟩ := by
  have gathered := addressOf_bits pointer
  simpa [addressBits, Ht1622.clock, Ht1622.idle] using gathered

theorem clock_cell (ram : BitVec 6 → BitVec 4) (pointer : BitVec 6) (cell : BitVec 4) :
    (cellBits cell).foldl Ht1622.clock ⟨.data pointer [], ram⟩ =
      ⟨.data (pointer + 1) [], Function.update ram pointer cell⟩ := by
  simp [cellBits, Ht1622.clock]
  exact congrArg (Function.update ram pointer) (cellOf_bits cell)

theorem clock_cells (ram : BitVec 6 → BitVec 4) (pointer : BitVec 6) (cells : List (BitVec 4)) :
    ((cells.flatMap cellBits).foldl Ht1622.clock ⟨.data pointer [], ram⟩).ram =
      writeCells ram pointer cells := by
  induction cells generalizing ram pointer with
  | nil => rfl
  | cons cell rest ih => rw [List.flatMap_cons, List.foldl_append, clock_cell, ih, writeCells]

/-- The bits of a byte are the commons of its segment. -/
def segment (ram : BitVec 6 → BitVec 4) (seg : Nat) : BitVec 8 :=
  ram (BitVec.ofNat 6 (2 * seg + 1)) ++ ram (BitVec.ofNat 6 (2 * seg))

def byteCells (byte : UInt8) : List (BitVec 4) :=
  [byte.toBitVec.setWidth 4, (byte >>> 4).toBitVec.setWidth 4]

theorem byteCells_join (byte : UInt8) :
    (byte >>> 4).toBitVec.setWidth 4 ++ byte.toBitVec.setWidth 4 = byte.toBitVec := by
  obtain ⟨bits⟩ := byte
  revert bits
  decide +kernel

theorem bitsLH_byte (byte : UInt8) :
    bitsLH 4 byte ++ bitsLH 4 (byte >>> 4) = (byteCells byte).flatMap cellBits := by
  simp [bitsLH_cell, byteCells]

theorem bytes_getElem? (bytes : List UInt8) (index : Nat) :
    (bytes.flatMap byteCells)[2 * index]? = bytes[index]?.map (fun byte => byte.toBitVec.setWidth 4) ∧
      (bytes.flatMap byteCells)[2 * index + 1]? =
        bytes[index]?.map fun byte : UInt8 => (byte >>> 4).toBitVec.setWidth 4 := by
  induction bytes generalizing index with
  | nil => simp
  | cons byte rest ih =>
      cases index with
      | zero => simp [byteCells]
      | succ index =>
          have next : 2 * (index + 1) = 2 * index + 1 + 1 := by omega
          simpa [byteCells, next] using ih index

theorem bytes_length (bytes : List UInt8) : (bytes.flatMap byteCells).length = 2 * bytes.length := by
  induction bytes with
  | nil => rfl
  | cons byte rest ih =>
      simp only [List.flatMap_cons, List.length_append, List.length_cons, ih, byteCells, List.length_nil]
      omega

/-- How far `other` lies behind `seg`, around the end of the RAM. -/
def behind (seg other : Nat) : Nat :=
  (other + 32 - seg) % 32

theorem segment_writeCells (ram : BitVec 6 → BitVec 4) {seg other : Nat} (bytes : List UInt8)
    (inside : seg ≤ 32) (otherInside : other < 32) (short : bytes.length ≤ 32) :
    segment (writeCells ram (BitVec.ofNat 6 (2 * seg)) (bytes.flatMap byteCells)) other =
      (bytes[behind seg other]?.map UInt8.toBitVec).getD (segment ram other) := by
  have low : (BitVec.ofNat 6 (2 * other) - BitVec.ofNat 6 (2 * seg)).toNat =
      2 * behind seg other := by
    simp only [BitVec.toNat_sub, BitVec.toNat_ofNat, behind]
    omega
  have high : (BitVec.ofNat 6 (2 * other + 1) - BitVec.ofNat 6 (2 * seg)).toNat =
      2 * behind seg other + 1 := by
    simp only [BitVec.toNat_sub, BitVec.toNat_ofNat, behind]
    omega
  obtain ⟨even, odd⟩ := bytes_getElem? bytes (behind seg other)
  have fits : (bytes.flatMap byteCells).length ≤ 64 := by
    rw [bytes_length]
    omega
  unfold segment
  rw [writeCells_apply _ _ _ fits, writeCells_apply _ _ _ fits, low, high, even, odd]
  cases bytes[behind seg other]? with
  | none => rfl
  | some byte => exact byteCells_join byte

section Pins

def ValidPin (pin : Nat) : Prop :=
  pin < wmIoPb00 + 32

instance (pin : Nat) : Decidable (ValidPin pin) :=
  inferInstanceAs (Decidable (_ < _))

theorem tlsGpioWrite_state (gpio : Gpio) (pin : Nat) (value : UInt8) :
    ((tlsGpioWrite pin value).run gpio).2 = gpio.setBank pin { gpio.bank pin with
      data := if value ≠ 0 then (gpio.bank pin).data ||| pinBit pin
        else (gpio.bank pin).data &&& ~~~pinBit pin } := by
  by_cases upper : wmIoPb00 ≤ pin
  · simp [tlsGpioWrite, Gpio.setBank, Gpio.bank, upper]
  · simp [tlsGpioWrite, Gpio.setBank, Gpio.bank, upper]

def pinOffset (pin : Nat) : Nat :=
  if wmIoPb00 ≤ pin then pin - wmIoPb00 else pin

theorem pinBit_getLsbD {pin : Nat} (valid : ValidPin pin) (index : Nat) :
    (pinBit pin).getLsbD index = decide (index = pinOffset pin) := by
  have size : wmIoPb00 = 16 := rfl
  have inside : pinOffset pin < 32 := by
    unfold ValidPin at valid
    unfold pinOffset
    split <;> omega
  unfold pinBit
  rw [BitVec.getLsbD_twoPow]
  change (decide (pinOffset pin < 32) && decide (pinOffset pin = index)) = _
  simp [inside, eq_comm]

theorem written_getLsbD {pin index : Nat} (valid : ValidPin pin) (inside : index < 32)
    (data : BitVec 32) (value : UInt8) :
    (if value ≠ 0 then data ||| pinBit pin else data &&& ~~~pinBit pin).getLsbD index =
      if index = pinOffset pin then decide (value ≠ 0) else data.getLsbD index := by
  have bit := pinBit_getLsbD valid index
  by_cases down : value = 0
  · rw [if_neg (fun up => up down), BitVec.getLsbD_and, BitVec.getLsbD_not, bit]
    by_cases hit : index = pinOffset pin <;> simp [down, hit, inside]
  · rw [if_pos down, BitVec.getLsbD_or, bit]
    by_cases hit : index = pinOffset pin <;> simp [down, hit]

theorem bank_setBank (gpio : Gpio) (pin other : Nat) (bank : GpioBank) :
    (gpio.setBank pin bank).bank other =
      if wmIoPb00 ≤ pin ↔ wmIoPb00 ≤ other then bank else gpio.bank other := by
  by_cases upper : wmIoPb00 ≤ pin <;> by_cases otherUpper : wmIoPb00 ≤ other <;>
    simp [Gpio.setBank, Gpio.bank, upper, otherUpper]

theorem gpioLevel_write {pin other : Nat} (valid : ValidPin pin) (otherValid : ValidPin other)
    (gpio : Gpio) (value : UInt8) :
    gpioLevel ((tlsGpioWrite pin value).run gpio).2 other =
      if other = pin then decide (value ≠ 0) else gpioLevel gpio other := by
  have size : wmIoPb00 = 16 := rfl
  have level (gpio : Gpio) :
      gpioLevel gpio other = (gpio.bank other).data.getLsbD (pinOffset other) := rfl
  have inside : pinOffset other < 32 := by
    unfold ValidPin at otherValid
    unfold pinOffset
    split <;> omega
  rw [tlsGpioWrite_state, level, level, bank_setBank]
  by_cases same : wmIoPb00 ≤ pin ↔ wmIoPb00 ≤ other
  · have offsets : pinOffset other = pinOffset pin ↔ other = pin := by
      unfold pinOffset
      split <;> split <;> omega
    have banks : gpio.bank pin = gpio.bank other := by
      simp [Gpio.bank, same]
    rw [if_pos same, written_getLsbD valid inside, banks]
    simp only [offsets]
  · have apart : other ≠ pin := by
      rintro rfl
      exact same Iff.rfl
    rw [if_neg same, if_neg apart]

end Pins

def lcdPin : Pin → Nat
  | .select => lcdCs
  | .strobe => lcdWr
  | .data => lcdData

def pinWrite (change : Pin × Bool) : PinWrite :=
  (lcdPin change.1, if change.2 then 1 else 0)

theorem frameWrites_eq (bits : List Bool) : frameWrites bits = (frameChanges bits).map pinWrite := by
  have each (bit : Bool) : bitWrites bit = (bitChanges bit).map pinWrite := rfl
  simp only [frameWrites, frameChanges, List.map_append, List.map_cons, List.map_flatMap, ← each]
  rfl

theorem lcdWires_write (gpio : Gpio) (pin : Pin) (level : Bool) :
    lcdWires ((tlsGpioWrite (lcdPin pin) (if level then 1 else 0)).run gpio).2 =
      (lcdWires gpio).set pin level := by
  have valid (pin : Pin) : ValidPin (lcdPin pin) := by
    cases pin <;> decide
  have read (other : Pin) := gpioLevel_write (valid pin) (valid other) gpio (if level then 1 else 0)
  have select := read .select
  have strobe := read .strobe
  have data := read .data
  unfold lcdWires
  change Wires.mk (gpioLevel _ (lcdPin .select)) (gpioLevel _ (lcdPin .strobe))
    (gpioLevel _ (lcdPin .data)) = _
  rw [select, strobe, data]
  cases pin <;> cases level <;> rfl

namespace LcdBoard

theorem write_line (board : LcdBoard) (change : Pin × Bool) :
    (board.write (pinWrite change)).line = board.line.write change := by
  obtain ⟨pin, level⟩ := change
  have wires := lcdWires_write board.lcd.gpio pin level
  change (⟨lcdWires ((tlsGpioWrite (lcdPin pin) (if level then 1 else 0)).run board.lcd.gpio).2,
    (board.line.see (lcdWires ((tlsGpioWrite (lcdPin pin)
      (if level then 1 else 0)).run board.lcd.gpio).2)).seen,
    (board.line.see (lcdWires ((tlsGpioWrite (lcdPin pin)
      (if level then 1 else 0)).run board.lcd.gpio).2)).device⟩ : ThreeWire.Line Ht1622) = _
  rw [wires]
  rfl

theorem foldl_line (changes : List (Pin × Bool)) (board : LcdBoard) :
    ((changes.map pinWrite).foldl write board).line = board.line.run changes := by
  induction changes generalizing board with
  | nil => rfl
  | cons change rest ih =>
      rw [List.map_cons, List.foldl_cons, ih, write_line]
      rfl

theorem foldl_dispram (writes : List PinWrite) (board : LcdBoard) :
    (writes.foldl write board).lcd.dispram = board.lcd.dispram := by
  induction writes generalizing board with
  | nil => rfl
  | cons write rest ih => exact ih _

structure Ready (board : LcdBoard) (ram : BitVec 6 → BitVec 4) : Prop where
  idle : board.line.Idle
  chip : board.chip = Ht1622.idle ram

variable {board : LcdBoard} {ram : BitVec 6 → BitVec 4}

theorem Ready.frame (ready : Ready board ram) (bits : List Bool) :
    Ready ((frameWrites bits).foldl write board)
      (bits.foldl Ht1622.clock (Ht1622.idle ram)).ram := by
  obtain ⟨idle, device⟩ := ready.idle.frame bits
  rw [frameWrites_eq]
  rw [← foldl_line] at idle device
  refine ⟨idle, ?_⟩
  have same : board.line.device = Ht1622.idle ram := ready.chip
  rw [same] at device
  exact device

/-- A frame leaves the controller ready, whatever its state before. -/
theorem frame_ready (bits : List Bool) (board : LcdBoard) :
    ∃ ram, Ready ((frameWrites bits).foldl write board) ram := by
  obtain ⟨idle, device⟩ := board.line.run_deselect ((.select, false) :: bits.flatMap bitChanges)
  rw [frameWrites_eq]
  change (board.line.run (frameChanges bits)).Idle at idle
  change (board.line.run (frameChanges bits)).device = _ at device
  rw [← foldl_line] at idle device
  exact ⟨_, idle, device⟩

theorem Ready.bytes (ready : Ready board ram) (addr : UInt8) (bytes : List UInt8) :
    Ready ((frameWrites (bitsHL 3 0xA0 ++ bitsHL 6 (addr <<< 2) ++
        bytes.flatMap fun byte => bitsLH 4 byte ++ bitsLH 4 (byte >>> 4))).foldl write board)
      (writeCells ram (addr.toBitVec.setWidth 6) (bytes.flatMap byteCells)) := by
  have sent := ready.frame (bitsHL 3 0xA0 ++ bitsHL 6 (addr <<< 2) ++
    bytes.flatMap fun byte => bitsLH 4 byte ++ bitsLH 4 (byte >>> 4))
  have groups : (bytes.flatMap fun byte => bitsLH 4 byte ++ bitsLH 4 (byte >>> 4)) =
      (bytes.flatMap byteCells).flatMap cellBits := by
    simp only [bitsLH_byte, List.flatMap_assoc]
  rw [groups, bitsHL_mode, bitsHL_address, List.foldl_append, clock_address, clock_cells] at sent
  rw [groups, bitsHL_mode, bitsHL_address]
  exact sent

theorem segment_address (seg : Nat) :
    (UInt8.ofNat seg * 2).toBitVec.setWidth 6 = BitVec.ofNat 6 (2 * seg) := by
  apply BitVec.eq_of_toNat_eq
  have two : (2 : UInt8).toNat = 2 := rfl
  rw [BitVec.toNat_setWidth, UInt8.toNat_toBitVec, UInt8.toNat_mul, UInt8.toNat_ofNat', two,
    BitVec.toNat_ofNat]
  omega

theorem Ready.q (ready : Ready board ram) (addr dat : UInt8) :
    Ready ((w1622QWrites addr dat).foldl write board)
      (Function.update ram (addr.toBitVec.setWidth 6) (dat.toBitVec.setWidth 4)) := by
  have sent := ready.frame (bitsHL 3 0xA0 ++ bitsHL 6 (addr <<< 2) ++ bitsLH 4 dat)
  rw [bitsLH_cell, bitsHL_mode, bitsHL_address, List.foldl_append, clock_address, clock_cell] at sent
  unfold w1622QWrites
  rw [bitsLH_cell, bitsHL_mode, bitsHL_address]
  exact sent

/-- The two cells of a byte, each in a frame of its own. -/
theorem Ready.byte (ready : Ready board ram) (seg : Nat) (dat : UInt8) :
    Ready ((w1622ByteWrites (UInt8.ofNat seg) dat).foldl write board)
      (writeCells ram (BitVec.ofNat 6 (2 * seg)) (byteCells dat)) := by
  have both := (ready.q (UInt8.ofNat seg * 2) dat).q (UInt8.ofNat seg * 2 + 1) (dat >>> 4)
  have next : (UInt8.ofNat seg * 2 + 1).toBitVec.setWidth 6 = BitVec.ofNat 6 (2 * seg) + 1 := by
    rw [UInt8.toBitVec_add, BitVec.setWidth_add _ _ (by omega), segment_address]
    rfl
  rw [next, segment_address, ← List.foldl_append] at both
  exact both

/-- The controller is ready and every segment of its RAM is that of the picture. -/
def Shows (board : LcdBoard) : Prop :=
  ∃ ram, Ready board ram ∧ ∀ seg < 32, segment ram seg = (board.lcd.dispram seg).toBitVec

def withDispram (board : LcdBoard) (dispram : Nat → UInt8) : LcdBoard :=
  { board with lcd := { board.lcd with dispram } }

theorem Ready.withDispram (ready : Ready board ram) (dispram : Nat → UInt8) :
    Ready (board.withDispram dispram) ram :=
  ⟨ready.idle, ready.chip⟩

theorem dispWith_run (change : UInt8 → UInt8) (seg : Nat) (board : LcdBoard) :
    ((dispWith change seg).run board).2 =
      (w1622ByteWrites (UInt8.ofNat seg) (change (board.lcd.dispram seg))).foldl write
        (board.withDispram
          (Function.update board.lcd.dispram seg (change (board.lcd.dispram seg)))) := by
  unfold dispWith
  generalize w1622ByteWrites = writes
  rfl

theorem fill_run (byte : UInt8) (board : LcdBoard) :
    ((fill byte).run board).2 = ((fillWrites byte).foldl write board).withDispram
      (Buffer.fill ((fillWrites byte).foldl write board).lcd.dispram byte 32) := by
  unfold fill
  generalize fillWrites = writes
  rfl

theorem dispWith_shows (before : Shows board) (change : UInt8 → UInt8) {seg : Nat}
    (inside : seg < 32) : Shows ((dispWith change seg).run board).2 := by
  obtain ⟨ram, ready, same⟩ := before
  rw [dispWith_run]
  refine ⟨_, (ready.withDispram _).byte seg (change (board.lcd.dispram seg)), ?_⟩
  intro other otherInside
  have written := segment_writeCells ram [change (board.lcd.dispram seg)] (by omega : seg ≤ 32) otherInside
    (by simp)
  rw [List.flatMap_singleton] at written
  rw [written, foldl_dispram]
  change _ = (Function.update board.lcd.dispram seg (change (board.lcd.dispram seg)) other).toBitVec
  by_cases hit : other = seg
  · subst hit
    have here : behind other other = 0 := by
      unfold behind
      omega
    rw [here, Function.update_self]
    rfl
  · have apart : behind seg other = behind seg other - 1 + 1 := by
      unfold behind
      omega
    rw [apart, Function.update_of_ne hit]
    exact same other otherInside

theorem fillWrites_eq {byte : UInt8} (halves : bitsLH 4 (byte >>> 4) = bitsLH 4 byte) :
    fillWrites byte = frameWrites (bitsHL 3 0xA0 ++ bitsHL 6 ((0 : UInt8) <<< 2) ++
      (List.replicate 32 byte).flatMap fun byte => bitsLH 4 byte ++ bitsLH 4 (byte >>> 4)) := by
  have same : ((List.replicate 32 byte).flatMap fun byte => bitsLH 4 byte ++ bitsLH 4 byte) =
      (List.replicate 32 byte).flatMap fun byte => bitsLH 4 byte ++ bitsLH 4 (byte >>> 4) := by
    rw [List.flatMap_replicate, List.flatMap_replicate, halves]
  rw [fillWrites, same]
  rfl

theorem fill_shows (ready : Ready board ram) {byte : UInt8}
    (halves : bitsLH 4 (byte >>> 4) = bitsLH 4 byte) : Shows ((fill byte).run board).2 := by
  have sent := ready.bytes 0 (List.replicate 32 byte)
  rw [fill_run, fillWrites_eq halves]
  refine ⟨_, sent.withDispram _, ?_⟩
  intro other inside
  have written := segment_writeCells ram (List.replicate 32 byte) (by decide : 0 ≤ 32) inside
    (by simp)
  have place : behind 0 other = other := by
    unfold behind
    omega
  change _ = (Buffer.fill _ byte 32 other).toBitVec
  rw [Buffer.fill, Buffer.copy_apply, if_pos (by omega)]
  refine written.trans ?_
  rw [place, List.getElem?_replicate, if_pos inside]
  rfl

/-- Three commands reach the controller before the first picture. -/
theorem lcdInit_run (board : LcdBoard) : ∃ started : LcdBoard, (lcdInit.run board).2 =
    ((fill 0).run ((sendcmdWrites lcdOn).foldl write ((sendcmdWrites sysEn).foldl write
      ((sendcmdWrites rc32k).foldl write started)))).2 := by
  refine ⟨((onLcd (modify fun lcd => { lcd with gpio := (lcdGpio.run lcd.gpio).2 }) >>= fun _ =>
    send [(lcdBg, 1)] >>= fun _ => get >>= fun board =>
      setDispram (Buffer.fill board.lcd.dispram 0 32)).run board).2, ?_⟩
  unfold lcdInit ht1622Init cleandisp
  generalize sendcmdWrites = writes
  generalize fill = clear
  rfl

theorem lcdInit_shows (board : LcdBoard) : Shows (lcdInit.run board).2 := by
  obtain ⟨started, run⟩ := lcdInit_run board
  obtain ⟨_, first⟩ := frame_ready (bitsHL 3 0x80 ++ bitsHL 9 rc32k) started
  have ready := (first.frame (bitsHL 3 0x80 ++ bitsHL 9 sysEn)).frame (bitsHL 3 0x80 ++ bitsHL 9 lcdOn)
  have halves : bitsLH 4 ((0 : UInt8) >>> 4) = bitsLH 4 0 := by decide
  rw [run]
  exact fill_shows ready halves

end LcdBoard

section Source

theorem tlsGpioWrites_append (first second : List PinWrite) :
    tlsGpioWrites (first ++ second) = (do tlsGpioWrites first; tlsGpioWrites second) := by
  induction first with
  | nil => rfl
  | cons write rest ih =>
      simp only [List.cons_append, tlsGpioWrites, ih, bind_assoc]

theorem sendBitHL_eq (cnt : Nat) (dat : UInt8) :
    sendBitHL cnt dat = tlsGpioWrites ((bitsHL cnt dat).flatMap bitWrites) := by
  induction cnt generalizing dat with
  | zero => rfl
  | succ cnt ih =>
      simp only [sendBitHL, bitsHL, List.flatMap_cons, tlsGpioWrites_append, ← ih]
      simp [bitWrites, tlsGpioWrites]

theorem sendBitLH_eq (cnt : Nat) (dat : UInt8) :
    sendBitLH cnt dat = tlsGpioWrites ((bitsLH cnt dat).flatMap bitWrites) := by
  induction cnt generalizing dat with
  | zero => rfl
  | succ cnt ih =>
      simp only [sendBitLH, bitsLH, List.flatMap_cons, tlsGpioWrites_append, ← ih]
      simp [bitWrites, tlsGpioWrites]

theorem w1622Q_eq (addr dat : UInt8) : w1622Q addr dat = tlsGpioWrites (w1622QWrites addr dat) := by
  simp only [w1622Q, w1622QWrites, frameWrites, sendBitHL_eq, sendBitLH_eq, List.flatMap_append,
    List.cons_append, tlsGpioWrites, tlsGpioWrites_append, bind_assoc]
  rfl

theorem w1622Byte_eq (seg : Nat) (dat : UInt8) :
    w1622Byte seg dat = tlsGpioWrites (w1622ByteWrites (UInt8.ofNat seg) dat) := by
  simp only [w1622Byte, w1622ByteWrites, tlsGpioWrites_append, w1622Q_eq]

theorem foldl_lcd (writes : List PinWrite) (board : LcdBoard) :
    (writes.foldl LcdBoard.write board).lcd =
      { board.lcd with gpio := ((tlsGpioWrites writes).run board.lcd.gpio).2 } := by
  induction writes generalizing board with
  | nil => rfl
  | cons write rest ih =>
      rw [List.foldl_cons, ih]
      rfl

/-- With the controller left out the board is the picture and the pins of `dispWith`. -/
theorem dispWith_lcd (change : UInt8 → UInt8) (seg : Nat) (board : LcdBoard) :
    ((LcdBoard.dispWith change seg).run board).2.lcd = ((dispWith change seg).run board.lcd).2 := by
  rw [LcdBoard.dispWith_run, foldl_lcd, ← w1622Byte_eq]
  unfold dispWith
  generalize w1622Byte = sending
  change _ = ({ dispram := _, gpio := ((sending seg _).run board.lcd.gpio).2 } : Lcd)
  dsimp only [LcdBoard.withDispram]
  rw [Function.update_self]

end Source

/-- The calls that the firmware makes after `LCD_init`. -/
inductive LcdCall
  | dispOn (com : Fin 8) (seg : Fin 32)
  | dispOff (com : Fin 8) (seg : Fin 32)
  | cleandisp
  | dispAll

def LcdCall.run : LcdCall → StateM LcdBoard Unit
  | .dispOn com seg => LcdBoard.dispOn (UInt8.ofNat com) seg
  | .dispOff com seg => LcdBoard.dispOff (UInt8.ofNat com) seg
  | .cleandisp => LcdBoard.cleandisp
  | .dispAll => LcdBoard.dispAll

def lcdCalls : List LcdCall → StateM LcdBoard Unit
  | [] => pure ()
  | call :: rest => do
      call.run
      lcdCalls rest

theorem lcdCall_shows (call : LcdCall) {board : LcdBoard} (before : board.Shows) :
    ((call.run).run board).2.Shows := by
  obtain ⟨ram, ready, _⟩ := id before
  cases call with
  | dispOn com seg =>
      rw [LcdCall.run, LcdBoard.dispOn]
      exact LcdBoard.dispWith_shows before _ seg.isLt
  | dispOff com seg =>
      rw [LcdCall.run, LcdBoard.dispOff]
      exact LcdBoard.dispWith_shows before _ seg.isLt
  | cleandisp =>
      have halves : bitsLH 4 ((0 : UInt8) >>> 4) = bitsLH 4 0 := by decide
      exact LcdBoard.fill_shows ready halves
  | dispAll =>
      have halves : bitsLH 4 ((0xFF : UInt8) >>> 4) = bitsLH 4 0xFF := by decide
      exact LcdBoard.fill_shows ready halves

theorem lcdCalls_shows (calls : List LcdCall) {board : LcdBoard} (before : board.Shows) :
    ((lcdCalls calls).run board).2.Shows := by
  induction calls generalizing board with
  | nil => exact before
  | cons call rest ih =>
      rw [lcdCalls, run_bind]
      exact ih (lcdCall_shows call before)

/-- From any state of the pins and the controller, the RAM is the picture after `LCD_init` and
whatever calls follow. -/
theorem lcd_shows_dispram (board : LcdBoard) (calls : List LcdCall) (seg : Nat) (inside : seg < 32) :
    segment ((lcdCalls calls).run (LcdBoard.lcdInit.run board).2).2.chip.ram seg =
      (((lcdCalls calls).run (LcdBoard.lcdInit.run board).2).2.lcd.dispram seg).toBitVec := by
  obtain ⟨ram, ready, same⟩ := lcdCalls_shows calls (LcdBoard.lcdInit_shows board)
  rw [ready.chip]
  exact same seg inside

def litBoard : LcdBoard where
  lcd := ⟨fun index => if index = 0 then 1 else 0, ⟨⟨0, 0, 0, 0⟩, ⟨0xC0, 0, 0, 0⟩⟩⟩
  seen := true
  chip := Ht1622.idle fun pointer => if pointer = 0 then 1 else 0

theorem lcd_shows_dispram_cleared :
    segment ((lcdCalls [.dispOn 0 5, .cleandisp]).run (LcdBoard.lcdInit.run litBoard).2).2.chip.ram 5 =
      (((lcdCalls [.dispOn 0 5, .cleandisp]).run
        (LcdBoard.lcdInit.run litBoard).2).2.lcd.dispram 5).toBitVec :=
  lcd_shows_dispram litBoard [.dispOn 0 5, .cleandisp] 5 (by decide)

end SmartMeter
