import SmartMeter.Udp.RegisterBank

/-!
The parameters kept in the EEPROM: that a write command stores them where they belong, and
that a read command for the same address finds them there.
-/

namespace SmartMeter

def timeLimit (index : Nat) : UInt8 :=
  #[0x59, 0x59, 0x23, 0x07, 0x31, 0x12, 0x50].getD index 0

def InLimits (payload : Nat → UInt8) : Prop :=
  ∀ index < 7, payload index ≤ timeLimit index

instance (payload : Nat → UInt8) : Decidable (InLimits payload) :=
  inferInstanceAs (Decidable (∀ index < 7, _))

theorem clampField_of_le {limit fallback value : UInt8} (within : value ≤ limit) :
    clampField limit fallback value = value := by
  have notAbove : ¬value > limit := UInt8.not_lt.mpr within
  rw [clampField, if_neg notAbove]

theorem billTimeWrite_of_inLimits {payload : Nat → UInt8} (within : InLimits payload)
    {index : Nat} (bound : index < 7) :
    billTimeWrite (fun offset => payload (offset - 3).toNat) index = payload index := by
  have field := within index bound
  match index, bound with
  | 0, _ => exact clampField_of_le field
  | 1, _ => exact clampField_of_le field
  | 2, _ => exact clampField_of_le field
  | 3, _ => exact clampField_of_le field
  | 4, _ => exact clampField_of_le field
  | 5, _ => exact clampField_of_le field
  | 6, _ => exact clampField_of_le field

def WriteArm.cells : WriteArm → List UInt16
  | .oneByte cell => [cell]
  | .twoBytes first second => [first, second]
  | .billTime => (List.range 7).map fun index => 0x0072 + UInt16.ofNat index
  | .relay | .time | .clear _ _ | .empty => []

theorem writeSpan_of_not_mem (cells : UInt16 → UInt8) (base : UInt16) (source : Nat → UInt8)
    {count : Nat} {address : UInt16}
    (absent : address ∉ (List.range count).map fun index => base + UInt16.ofNat index) :
    writeSpan cells base source count address = cells address := by
  have past : ¬(address - base).toNat < count := by
    intro inside
    apply absent
    refine List.mem_map.mpr ⟨(address - base).toNat, List.mem_range.mpr inside, ?_⟩
    rw [UInt16.ofNat_toNat, UInt16.add_comm, UInt16.sub_add_cancel]
  rw [writeSpan, if_neg past]

section Storing

variable {arm : WriteArm} (stores : arm.cells ≠ []) (apart : arm.Apart)
  (source : Nat → UInt8) {payload : Nat → UInt8} (within : arm = .billTime → InLimits payload)
  (deviceAdd : UInt8) (meter : Meter)

include stores in
theorem effect_ack_of_stores :
    (arm.effect source payload deviceAdd meter).ack = frame wflag deviceAdd [1] := by
  cases arm with
  | oneByte cell => rfl
  | twoBytes first second => rfl
  | billTime => rfl
  | relay => exact absurd rfl stores
  | time => exact absurd rfl stores
  | clear base count => exact absurd rfl stores
  | empty => exact absurd rfl stores

include apart within in
theorem effect_cells {index : Nat} (inside : index < arm.cells.length) :
    (arm.effect source payload deviceAdd meter).eeprom arm.cells[index] = payload index := by
  cases arm with
  | oneByte cell =>
      have first : index = 0 := Nat.lt_one_iff.mp inside
      subst first
      exact Function.update_self _ _ _
  | twoBytes first second =>
      have either : index = 0 ∨ index = 1 := by
        have bound : index < 2 := inside
        omega
      rcases either with rfl | rfl
      · exact (Function.update_of_ne apart _ _).trans (Function.update_self _ _ _)
      · exact Function.update_self _ _ _
  | billTime =>
      have bound : index < 7 := by simpa [WriteArm.cells] using inside
      simp only [WriteArm.cells, List.getElem_map, List.getElem_range]
      exact (writeSpan_inside _ _ _ (by decide) bound).trans
        (billTimeWrite_of_inLimits (within rfl) bound)
  | relay => exact absurd inside (Nat.not_lt_zero index)
  | time => exact absurd inside (Nat.not_lt_zero index)
  | clear base count => exact absurd inside (Nat.not_lt_zero index)
  | empty => exact absurd inside (Nat.not_lt_zero index)

include stores in
theorem effect_other_cells {address : UInt16} (absent : address ∉ arm.cells) :
    (arm.effect source payload deviceAdd meter).eeprom address = meter.eeprom address := by
  cases arm with
  | oneByte cell =>
      have other : address ≠ cell := by simpa [WriteArm.cells] using absent
      exact Function.update_of_ne other _ _
  | twoBytes first second =>
      have others : address ≠ first ∧ address ≠ second := by simpa [WriteArm.cells] using absent
      exact (Function.update_of_ne others.2 _ _).trans (Function.update_of_ne others.1 _ _)
  | billTime => exact writeSpan_of_not_mem _ _ _ absent
  | relay => exact absurd rfl stores
  | time => exact absurd rfl stores
  | clear base count => exact absurd rfl stores
  | empty => exact absurd rfl stores

end Storing

def parameterCells : List (UInt8 × List UInt16) := [
  (0x10, [0x0071]),
  (0x11, [0x0072, 0x0073, 0x0074, 0x0075, 0x0076, 0x0077, 0x0078]),
  (0xEF, [0x0090, 0x0091]),
  (0xF0, [0x0092]),
  (0xF1, [0x0093]),
  (0xF2, [0x0094]),
  (0xF3, [0x0095]),
  (0xF7, [0x00A2, 0x00A3]),
  (0xFC, [0x00B2, 0x00B3]),
  (0xFD, [0x00B4]),
  (0xFE, [0x00B5]),
  (0xFF, [0x00B6, 0x00B7])]

def StoresParameter (call : Call) (board : Board) (cells : List UInt16) : Prop :=
  (∀ index, (inside : index < cells.length) →
    (board.handle call).meter.eeprom cells[index] = call.payload index) ∧
  (∀ address, address ∉ cells →
    (board.handle call).meter.eeprom address = board.meter.eeprom address) ∧
  builtAck call board = frame wflag call.address [1]

theorem writeArm_parameter {entry : UInt8 × List UInt16} (member : entry ∈ parameterCells)
    (known : entry.1 ≠ 0xEF) :
    ∃ arm, writeArm entry.1 = some arm ∧ arm.cells = entry.2 ∧ (arm = .billTime → entry.1 = 0x11) := by
  have every : ∀ entry ∈ parameterCells, entry.1 ≠ 0xEF →
      ((writeArm entry.1).any fun arm =>
        arm.cells = entry.2 ∧ (arm = .billTime → entry.1 = 0x11)) = true := by decide
  have found := every entry member known
  cases chosen : writeArm entry.1 with
  | none => simp [chosen] at found
  | some arm =>
      rw [chosen] at found
      exact ⟨arm, rfl, of_decide_eq_true found⟩

/-- `NominalVoltage` is defined a second time with a value no address byte can have; every
other parameter is stored and acknowledged. -/
theorem storesParameter_iff (call : Call) (board : Board) (entry : UInt8 × List UInt16)
    (member : entry ∈ parameterCells) (address : call.address = entry.1)
    (accepted : call.handler = some .writeMeter)
    (within : entry.1 = 0x11 → InLimits call.payload) :
    StoresParameter call board entry.2 ↔ entry.1 ≠ 0xEF := by
  constructor
  · rintro ⟨_, _, acknowledged⟩ unknown
    have noArm : writeArm call.address = none := by
      rw [address, unknown]
      decide
    rw [builtAck_write accepted, Meter.afterWrite, noArm] at acknowledged
    cases acknowledged
  · intro known
    obtain ⟨arm, found, cells, bill⟩ := writeArm_parameter member known
    have limits : arm = .billTime → InLimits call.payload := fun isBill => within (bill isBill)
    have stores : arm.cells ≠ [] := by
      have every : ∀ entry ∈ parameterCells, entry.2 ≠ [] := by decide
      rw [cells]
      exact every entry member
    have apart := writeArm_apart found
    rw [← address] at found
    unfold StoresParameter
    rw [handle_write accepted, builtAck_write accepted, Meter.afterWrite, Meter.afterWrite, found,
      ← cells]
    refine ⟨?_, ?_, ?_⟩
    · intro index inside
      exact effect_cells apart _ limits _ _ inside
    · intro other absent
      exact effect_other_cells stores _ _ _ absent
    · exact effect_ack_of_stores stores _ _ _

theorem storesParameter_iff_screenTime :
    StoresParameter (command (fun _ => 0) 0x10 [0x05]) .blank [0x0071] :=
  (storesParameter_iff (command (fun _ => 0) 0x10 [0x05]) .blank (0x10, [0x0071]) (by decide)
    (by decide) (by decide) (fun bill => absurd bill (by decide))).mpr (by decide)

theorem nominalVoltage_not_storesParameter :
    ¬StoresParameter (command (fun _ => 0) 0xEF [0x00, 0xDC]) .blank [0x0090, 0x0091] := by
  rintro ⟨_, _, acknowledged⟩
  revert acknowledged
  decide +kernel

def ReadsBack (write read : Call) (board : Board) : Prop :=
  ∃ rest, builtAck read board = frame rflag read.address
    (1 :: (Buffer.toList write.payload (payloadNeed write.address) ++ rest))

theorem readsBack_iff_cells {write read : Call} (board : Board)
    (accepted : read.handler = some .readMeter) {base : UInt16} {count : UInt8}
    (found : readArm read.address = some (.block base count))
    (fits : payloadNeed write.address ≤ count.toNat) :
    ReadsBack write read board ↔ ∀ index < payloadNeed write.address,
      board.meter.eeprom (base + UInt16.ofNat index) = write.payload index := by
  unfold ReadsBack
  rw [builtAck_read accepted found, ← Buffer.toList_prefix_iff fits]
  constructor
  · rintro ⟨rest, same⟩
    have content := congrArg replyPayload same
    rw [replyPayload_frame, replyPayload_frame] at content
    exact ⟨rest, content⟩
  · rintro ⟨rest, same⟩
    exact ⟨rest, congrArg (fun content => frame rflag read.address (1 :: content)) same⟩

theorem copied_of_setting {call : Call} (setting : 0x10 ≤ call.address) {register : Nat}
    (bound : register < 12) (index : Nat) : call.copied register index = none := by
  have registers : ∀ register < 12, ¬0x10 ≤ registerAdd register := by decide
  have notAll : call.address ≠ 0x0F := by
    intro all
    rw [all] at setting
    exact absurd setting (by decide)
  have notOne : call.address ≠ registerAdd register := by
    intro one
    rw [one] at setting
    exact registers register bound setting
  simp only [Call.copied, notAll, notOne, and_false, if_false]

section SetThenGet

variable {write read : Call} {between : List Call} {board : Board} {arm : WriteArm}
  {base : UInt16} {count : UInt8} {low high : Nat}

theorem readsBack_of_kept (accepted : write.handler = some .writeMeter)
    (query : read.handler = some .readMeter) (same : read.address = write.address)
    (stored : writeArm write.address = some arm)
    (found : readArm write.address = some (.block base count))
    (fits : payloadNeed write.address ≤ count.toNat)
    (cells : arm.cells =
      (List.range (payloadNeed write.address)).map fun index => base + UInt16.ofNat index)
    (within : arm = .billTime → InLimits write.payload)
    (reach : ∀ index < payloadNeed write.address,
      low ≤ (base + UInt16.ofNat index).toNat ∧ (base + UInt16.ofNat index).toNat < high)
    (others : ∀ call ∈ between, ∀ arm, writeArm call.address = some arm → arm.Avoids low high) :
    ReadsBack write read (between.foldl Board.handle (board.handle write)) := by
  rw [← same] at found
  rw [readsBack_iff_cells _ query found fits]
  intro index bound
  have inside : index < arm.cells.length := by simpa [cells] using bound
  have cell : arm.cells[index] = base + UInt16.ofNat index := by simp [cells]
  have stores := effect_cells (writeArm_apart stored) write.memory within write.address board.meter
    inside
  rw [foldl_handle_eeprom_of_avoids low high _ between others (reach index bound).1
    (reach index bound).2, handle_write accepted, Meter.afterWrite, stored, ← cell]
  exact stores

theorem readsBack_iff_register {register : Nat} (bound : register < 12)
    (query : read.handler = some .readMeter) (same : read.address = write.address)
    (found : readArm write.address = some (.block (registerCell register) 4))
    (fits : payloadNeed write.address ≤ 4) (elsewhere : 0x10 ≤ write.address) :
    ReadsBack write read (between.foldl Board.handle (board.handle write)) ↔
      ∀ index < payloadNeed write.address,
        (between.filterMap fun call => call.copied register index).getLastD
          (board.meter.eeprom (registerCell register + UInt16.ofNat index)) =
            write.payload index := by
  rw [← same] at found
  rw [readsBack_iff_cells _ query found fits]
  apply forall_congr'
  intro index
  apply forall_congr'
  intro inside
  have untouched := handle_register board write bound (by omega : index < 4)
  rw [copied_of_setting elsewhere bound] at untouched
  rw [foldl_handle_register _ _ bound (by omega), untouched]
  rfl

end SetThenGet

def settings : List UInt8 := [0x10, 0x11, 0xFC, 0xFD, 0xFE]

def measuredRegister (deviceAdd : UInt8) : Nat :=
  if deviceAdd = 0xFC then 10 else 9

theorem avoids_screenTime {deviceAdd : UInt8} (other : deviceAdd ≠ 0x10) {arm : WriteArm}
    (found : writeArm deviceAdd = some arm) : arm.Avoids 0x71 0x72 := by
  have every : ∀ entry ∈ writeCases, entry.1 ≠ 0x10 → entry.2.Avoids 0x71 0x72 := by decide
  exact every _ (writeArm_mem found) fun same => other (UInt8.toNat_inj.mp same)

theorem avoids_billTime {deviceAdd : UInt8} (other : deviceAdd ≠ 0x11) {arm : WriteArm}
    (found : writeArm deviceAdd = some arm) : arm.Avoids 0x72 0x79 := by
  have every : ∀ entry ∈ writeCases, entry.1 ≠ 0x11 → entry.2.Avoids 0x72 0x79 := by decide
  exact every _ (writeArm_mem found) fun same => other (UInt8.toNat_inj.mp same)

theorem calibration_reads_register {deviceAdd : UInt8}
    (calibration : deviceAdd = 0xFC ∨ deviceAdd = 0xFD ∨ deviceAdd = 0xFE) :
    0x11 < deviceAdd ∧ payloadNeed deviceAdd ≤ 4 ∧ measuredRegister deviceAdd < 12 ∧
      readArm deviceAdd = some (.block (registerCell (measuredRegister deviceAdd)) 4) := by
  rcases calibration with rfl | rfl | rfl
  · decide
  · decide
  · decide

/-- Screen time and bill time are read back through any other commands in between. The three
calibration settings are not: their read arms send a measured register, which holds what the
last clear frame in between copied there or else what it held before the write. -/
theorem readsBack_iff (write read : Call) (between : List Call) (board : Board)
    (setting : write.address ∈ settings) (accepted : write.handler = some .writeMeter)
    (within : write.address = 0x11 → InLimits write.payload)
    (others : ∀ call ∈ between, call.address ≠ write.address)
    (query : read.handler = some .readMeter) (same : read.address = write.address) :
    ReadsBack write read (between.foldl Board.handle (board.handle write)) ↔
      write.address = 0x10 ∨ write.address = 0x11 ∨
      ∀ index < payloadNeed write.address,
        (between.filterMap fun call => call.copied (measuredRegister write.address) index).getLastD
          (board.meter.eeprom
            (registerCell (measuredRegister write.address) + UInt16.ofNat index)) =
          write.payload index := by
  simp only [settings, List.mem_cons, List.not_mem_nil, or_false] at setting
  rcases setting with screen | bill | calibration
  · refine iff_of_true ?_ (.inl screen)
    have stored : writeArm write.address = some (.oneByte 0x0071) := by rw [screen]; decide
    have found : readArm write.address = some (.block 0x0071 1) := by rw [screen]; decide
    refine readsBack_of_kept accepted query same stored found ?_ ?_ nofun ?_
      fun call member arm => avoids_screenTime (screen ▸ others call member)
    · rw [screen]; decide
    · rw [screen]; decide
    · rw [screen]; decide
  · refine iff_of_true ?_ (.inr (.inl bill))
    have stored : writeArm write.address = some .billTime := by rw [bill]; decide
    have found : readArm write.address = some (.block 0x0072 7) := by rw [bill]; decide
    refine readsBack_of_kept accepted query same stored found ?_ ?_ (fun _ => within bill) ?_
      fun call member arm => avoids_billTime (bill ▸ others call member)
    · rw [bill]; decide
    · rw [bill]; decide
    · rw [bill]; decide
  · obtain ⟨above, fits, bound, found⟩ := calibration_reads_register calibration
    have notScreen : write.address ≠ 0x10 := fun screen => absurd above (by rw [screen]; decide)
    have notBill : write.address ≠ 0x11 := fun bill => absurd above (by rw [bill]; decide)
    have elsewhere : 0x10 ≤ write.address :=
      UInt8.le_trans (by decide : 0x10 ≤ 0x11) (UInt8.le_of_lt above)
    rw [readsBack_iff_register bound query same found fits elsewhere]
    simp only [notScreen, notBill, false_or]

theorem readsBack_iff_screenTime :
    ReadsBack (command (fun _ => 0) 0x10 [0x05]) (query 0x10)
      ([query 0x0F].foldl Board.handle
        (Board.blank.handle (command (fun _ => 0) 0x10 [0x05]))) :=
  (readsBack_iff (command (fun _ => 0) 0x10 [0x05]) (query 0x10) [query 0x0F] .blank (by decide)
    (by decide) (fun bill => absurd bill (by decide)) (by decide) (by decide) (by decide)).mpr
    (.inl rfl)

theorem instantVoltage_not_readsBack :
    ¬ReadsBack (command (fun _ => 0) 0xFC [0x00, 0xDC]) (query 0xFC)
      ([].foldl Board.handle (Board.blank.handle (command (fun _ => 0) 0xFC [0x00, 0xDC]))) := by
  intro reads
  have found : readArm (query 0xFC).address = some (.block 0x0069 4) := by decide
  have cells := (readsBack_iff_cells _ (by decide) found (by decide)).mp reads 1 (by decide)
  revert cells
  decide +kernel

end SmartMeter
