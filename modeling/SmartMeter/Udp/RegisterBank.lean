import Mathlib.Data.List.Basic
import SmartMeter.Udp.CommandPayload
import SmartMeter.Udp.Footprint

/-!
The twelve energy and measurement registers, four cells each from 0x41 on: clearing them
one by one or all together, and reading them one by one or as one block.
-/

namespace SmartMeter

def registerAdd (register : Nat) : UInt8 :=
  UInt8.ofNat (0x03 + register)

def registerCell (register : Nat) : UInt16 :=
  0x0041 + UInt16.ofNat (4 * register)

theorem readArm_register {register : Nat} (bound : register < 12) :
    readArm (registerAdd register) = some (.block (registerCell register) 4) := by
  revert register
  decide

theorem writeArm_register {register : Nat} (bound : register < 12) :
    writeArm (registerAdd register) = some (.clear (registerCell register) 4) := by
  revert register
  decide

theorem writeArm_clearAll : writeArm 0x0F = some (.clear 0x0041 48) := by
  decide

def clearedCells (deviceAdd : UInt8) : UInt16 × UInt16 :=
  if deviceAdd = 0x0F then (0x0041, 48) else (registerCell (deviceAdd.toNat - 3), 4)

theorem writeArm_clearing {deviceAdd : UInt8} (low : 0x03 ≤ deviceAdd) (high : deviceAdd ≤ 0x0F) :
    writeArm deviceAdd = some (.clear (clearedCells deviceAdd).1 (clearedCells deviceAdd).2) := by
  by_cases all : deviceAdd = 0x0F
  · subst all
    exact writeArm_clearAll
  · have lowNat : 3 ≤ deviceAdd.toNat := UInt8.le_iff_toNat_le.mp low
    have highNat : deviceAdd.toNat ≤ 15 := UInt8.le_iff_toNat_le.mp high
    have notAll : deviceAdd.toNat ≠ 15 := fun same => all (UInt8.toNat_inj.mp same)
    have register : registerAdd (deviceAdd.toNat - 3) = deviceAdd := by
      rw [registerAdd, Nat.add_sub_cancel' lowNat, UInt8.ofNat_toNat]
    have arm := writeArm_register (by omega : deviceAdd.toNat - 3 < 12)
    rw [register] at arm
    rw [arm, clearedCells, if_neg all]

def ClearsRegister (deviceAdd : UInt8) (register : Nat) : Prop :=
  register < 12 ∧ (deviceAdd = 0x0F ∨ deviceAdd = registerAdd register)

/-- After the call the cleared cells are zero, all others are as before, and a register that
was cleared reads as four zero bytes. -/
def Clears (call : Call) (board : Board) : Prop :=
  let first := (clearedCells (call.address)).1.toNat
  let count := (clearedCells (call.address)).2.toNat
  (∀ address, (board.handle call).meter.eeprom address =
    if first ≤ address.toNat ∧ address.toNat < first + count then 0
    else board.meter.eeprom address) ∧
  ∀ register, ClearsRegister (call.address) register →
    ∀ read : Call, read.handler = some .readMeter →
      read.address = registerAdd register →
        builtAck read (board.handle call) =
          frame rflag (registerAdd register) [1, 0, 0, 0, 0]

theorem clearedCells_fit (deviceAdd : UInt8) (low : 0x03 ≤ deviceAdd) (high : deviceAdd ≤ 0x0F) :
    (clearedCells deviceAdd).1.toNat + (clearedCells deviceAdd).2.toNat ≤ 65536 := by
  have every : ∀ entry ∈ writeCases, entry.2.Avoids 0 0 := by decide
  have arm := every _ (writeArm_mem (writeArm_clearing low high))
  exact (arm _ List.mem_cons_self).1

theorem clearedCells_register {register : Nat} (bound : register < 12) :
    clearedCells (registerAdd register) = (registerCell register, 4) := by
  revert register
  decide

theorem registerCell_toNat {register index : Nat} (bound : register < 12) (inside : index < 4) :
    (registerCell register + UInt16.ofNat index).toNat = 0x41 + 4 * register + index := by
  simp only [registerCell, UInt16.toNat_add, UInt16.toNat_ofNat', UInt16.reduceToNat]
  omega

theorem registerCell_start {register : Nat} (bound : register < 12) :
    (registerCell register).toNat = 0x41 + 4 * register := by
  simpa using registerCell_toNat bound (by omega : 0 < 4)

theorem registerCell_cleared {deviceAdd : UInt8} {register : Nat}
    (cleared : ClearsRegister deviceAdd register) {index : Nat} (inside : index < 4) :
    (clearedCells deviceAdd).1.toNat ≤ (registerCell register + UInt16.ofNat index).toNat ∧
      (registerCell register + UInt16.ofNat index).toNat <
        (clearedCells deviceAdd).1.toNat + (clearedCells deviceAdd).2.toNat := by
  obtain ⟨bound, all | one⟩ := cleared
  · subst all
    have cells : (clearedCells 0x0F).1.toNat = 0x41 ∧ (clearedCells 0x0F).2.toNat = 48 := by decide
    rw [registerCell_toNat bound inside, cells.1, cells.2]
    omega
  · subst one
    rw [clearedCells_register bound, registerCell_toNat bound inside, registerCell_start bound]
    simp only [UInt16.reduceToNat]
    omega

theorem handle_clearing {call : Call} (accepted : call.handler = some .writeMeter)
    (low : 0x03 ≤ call.address) (high : call.address ≤ 0x0F) (board : Board) (address : UInt16) :
    (board.handle call).meter.eeprom address =
      if (clearedCells call.address).1.toNat ≤ address.toNat ∧ address.toNat <
        (clearedCells call.address).1.toNat + (clearedCells call.address).2.toNat
      then call.memory (address.toNat - (clearedCells call.address).1.toNat)
      else board.meter.eeprom address := by
  rw [handle_write accepted, Meter.afterWrite, writeArm_clearing low high]
  exact writeSpan_apply _ _ _ _ (clearedCells_fit call.address low high)

/-- A clear command copies the bytes found at address 0 of the processor: it clears exactly
when those bytes are zero. -/
theorem clears_iff (call : Call) (board : Board)
    (accepted : call.handler = some .writeMeter)
    (low : 0x03 ≤ call.address) (high : call.address ≤ 0x0F) :
    Clears call board ↔
      ∀ index < (clearedCells (call.address)).2.toNat, call.memory index = 0 := by
  have fits := clearedCells_fit (call.address) low high
  have stored := handle_clearing accepted low high board
  constructor
  · rintro ⟨cells, _⟩ index inside
    have position : ((clearedCells (call.address)).1 + UInt16.ofNat index).toNat =
        (clearedCells (call.address)).1.toNat + index := by
      simp only [UInt16.toNat_add, UInt16.toNat_ofNat']
      omega
    have cell := cells ((clearedCells (call.address)).1 + UInt16.ofNat index)
    rw [stored, position, if_pos (by omega), if_pos (by omega), Nat.add_sub_cancel_left] at cell
    exact cell
  · intro zeros
    have cells (address : UInt16) : (board.handle call).meter.eeprom address =
        if (clearedCells (call.address)).1.toNat ≤ address.toNat ∧ address.toNat <
          (clearedCells (call.address)).1.toNat + (clearedCells (call.address)).2.toNat
        then 0 else board.meter.eeprom address := by
      rw [stored]
      split
      · exact zeros _ (by omega)
      · rfl
    refine ⟨cells, ?_⟩
    intro register cleared read query same
    have found : readArm (read.address) = some (.block (registerCell register) 4) := by
      rw [same]
      exact readArm_register cleared.1
    rw [builtAck_read query found, same]
    have zero : Buffer.toList (fun index => (board.handle call).meter.eeprom
        (registerCell register + UInt16.ofNat index)) 4 = Buffer.toList (fun _ => 0) 4 := by
      apply Buffer.toList_congr
      intro index inside
      rw [cells, if_pos (registerCell_cleared cleared inside)]
    exact congrArg (fun content => frame rflag (registerAdd register) (1 :: content)) zero

theorem clears_iff_activePositive :
    Clears (command (fun _ => 0) 0x03 []) .blank :=
  (clears_iff _ _ (by decide) (by decide) (by decide)).mpr fun _ _ => rfl

theorem activePositive_not_clears :
    ¬Clears (command (fun _ => 0xFF) 0x03 []) .blank := by
  rintro ⟨cells, _⟩
  have cell := cells 0x0041
  rw [handle_write (by decide)] at cell
  revert cell
  decide

-- What the call copies into one cell of a register, if it is a write frame that reaches it.
def Call.copied (call : Call) (register index : Nat) : Option UInt8 :=
  if call.handler = some .writeMeter ∧ call.address = 0x0F then
    some (call.memory (4 * register + index))
  else if call.handler = some .writeMeter ∧ call.address = registerAdd register then
    some (call.memory index)
  else none

theorem avoids_register {register : Nat} (bound : register < 12) {deviceAdd : UInt8}
    (notAll : deviceAdd ≠ 0x0F) (other : deviceAdd ≠ registerAdd register) {arm : WriteArm}
    (found : writeArm deviceAdd = some arm) :
    arm.Avoids (0x41 + 4 * register) (0x45 + 4 * register) := by
  have every : ∀ register < 12, ∀ entry ∈ writeCases, entry.1 ≠ 0x0F →
      entry.1 ≠ (registerAdd register).toNat →
        entry.2.Avoids (0x41 + 4 * register) (0x45 + 4 * register) := by decide
  exact every register bound _ (writeArm_mem found)
    (fun same => notAll (UInt8.toNat_inj.mp same)) (fun same => other (UInt8.toNat_inj.mp same))

theorem handle_register (board : Board) (call : Call) {register index : Nat}
    (bound : register < 12) (inside : index < 4) :
    (board.handle call).meter.eeprom (registerCell register + UInt16.ofNat index) =
      (call.copied register index).getD
        (board.meter.eeprom (registerCell register + UInt16.ofNat index)) := by
  have position := registerCell_toNat bound inside
  unfold Call.copied
  split
  · rename_i all
    obtain ⟨accepted, address⟩ := all
    have cells : (clearedCells 0x0F).1.toNat = 0x41 := by decide
    have cleared : ClearsRegister call.address register := ⟨bound, .inl address⟩
    rw [handle_clearing accepted (by rw [address]; decide) (by rw [address]; decide),
      if_pos (registerCell_cleared cleared inside), address, cells, position]
    exact congrArg call.memory (by omega)
  · rename_i notAll
    split
    · rename_i one
      obtain ⟨accepted, address⟩ := one
      have range : ∀ register < 12, 0x03 ≤ registerAdd register ∧ registerAdd register ≤ 0x0F := by
        decide
      have cleared : ClearsRegister call.address register := ⟨bound, .inr address⟩
      rw [handle_clearing accepted (by rw [address]; exact (range register bound).1)
          (by rw [address]; exact (range register bound).2),
        if_pos (registerCell_cleared cleared inside), address, clearedCells_register bound,
        registerCell_start bound, position]
      exact congrArg call.memory (by omega)
    · rename_i other
      refine handle_eeprom_of_avoids board call ?_ (by omega : 0x41 + 4 * register ≤ _)
        (by omega : _ < 0x45 + 4 * register)
      intro accepted arm
      exact avoids_register bound (fun same => notAll ⟨accepted, same⟩)
        (fun same => other ⟨accepted, same⟩)

theorem foldl_handle_register (board : Board) (calls : List Call) {register index : Nat}
    (bound : register < 12) (inside : index < 4) :
    (calls.foldl Board.handle board).meter.eeprom (registerCell register + UInt16.ofNat index) =
      (calls.filterMap fun call => call.copied register index).getLastD
        (board.meter.eeprom (registerCell register + UInt16.ofNat index)) := by
  induction calls generalizing board with
  | nil => rfl
  | cons call rest ih =>
      rw [List.foldl_cons, ih, handle_register board call bound inside]
      cases copied : call.copied register index with
      | none => simp only [List.filterMap_cons, copied, Option.getD_none]
      | some byte =>
          simp only [List.filterMap_cons, copied, Option.getD_some, List.getLastD_cons]

theorem content_register (register : Nat) (meter : Meter) :
    (ReadArm.block (registerCell register) 4).content meter =
      Buffer.toList (fun index => meter.eeprom (0x0041 + UInt16.ofNat (4 * register + index))) 4 := by
  apply Buffer.toList_congr
  intro index _
  rw [registerCell, UInt16.ofNat_add, UInt16.add_assoc]

/-- The block read of all registers starts at 0x11, the registers start at 0x41: the two
agree exactly on contents that are the same in both places. -/
theorem bulkRead_eq_singleReads_iff (bulk : Call) (single : Nat → Call) (board : Board)
    (bulkAccepted : bulk.handler = some .readMeter)
    (bulkAddress : bulk.address = 0x0F)
    (accepted : ∀ register < 12, (single register).handler = some .readMeter)
    (address : ∀ register < 12, (single register).address = registerAdd register) :
    replyPayload (builtAck bulk board) =
        (List.range 12).flatMap (fun register => replyPayload (builtAck (single register) board)) ↔
      ∀ index < 48, board.meter.eeprom (0x0011 + UInt16.ofNat index) =
        board.meter.eeprom (0x0041 + UInt16.ofNat index) := by
  have block : readArm (bulk.address) = some (.block 0x0011 48) := by
    rw [bulkAddress]
    decide
  have singles : (List.range 12).flatMap (fun register => replyPayload (builtAck (single register) board)) =
      (List.range 12).flatMap (fun register => Buffer.toList (fun index =>
        board.meter.eeprom (0x0041 + UInt16.ofNat (4 * register + index))) 4) := by
    apply List.flatMap_congr
    intro register member
    have bound := List.mem_range.mp member
    have found : readArm ((single register).address) = some (.block (registerCell register) 4) := by
      rw [address register bound]
      exact readArm_register bound
    rw [builtAck_read (accepted register bound) found, replyPayload_frame,
      content_register]
  rw [singles, builtAck_read bulkAccepted block, replyPayload_frame,
    Buffer.toList_blocks (fun index => board.meter.eeprom (0x0041 + UInt16.ofNat index)) 4 12]
  exact Buffer.toList_inj

theorem bulkRead_eq_singleReads_iff_blank :
    replyPayload (builtAck (query 0x0F) .blank) =
      (List.range 12).flatMap (fun register =>
        replyPayload (builtAck (query (registerAdd register)) .blank)) :=
  (bulkRead_eq_singleReads_iff (query 0x0F) (fun register => query (registerAdd register)) .blank
    (by decide) (by decide) (by decide) (by decide)).mpr fun _ _ => rfl

def oneCount : Board :=
  .holding (fun address => if address = 0x0041 then 1 else 0) (fun _ => 0)

theorem bulkRead_ne_singleReads_oneCount :
    replyPayload (builtAck (query 0x0F) oneCount) ≠
      (List.range 12).flatMap (fun register =>
        replyPayload (builtAck (query (registerAdd register)) oneCount)) := by
  decide +kernel

end SmartMeter
