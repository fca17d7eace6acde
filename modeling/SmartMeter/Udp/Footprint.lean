import SmartMeter.Udp.MeterModel

/-!
The cells each write command can store to, and what therefore survives any sequence of
commands: the calibration block, the saved time and the first-use flag.
-/

namespace SmartMeter

def WriteArm.footprint : WriteArm → List (UInt16 × UInt16)
  | .relay | .time | .empty => []
  | .clear base count => [(base, count)]
  | .oneByte cell => [(cell, 1)]
  | .twoBytes first second => [(first, 1), (second, 1)]
  | .billTime => [(0x0072, 7)]

def WriteArm.Avoids (low high : Nat) (arm : WriteArm) : Prop :=
  ∀ span ∈ arm.footprint, span.1.toNat + span.2.toNat ≤ 65536 ∧
    (span.1.toNat + span.2.toNat ≤ low ∨ high ≤ span.1.toNat)

instance (low high : Nat) (arm : WriteArm) : Decidable (arm.Avoids low high) :=
  List.decidableBAll _ _

theorem update_outside (cells : UInt16 → UInt8) {cell address : UInt16} (value : UInt8)
    (outside : cell.toNat + 1 ≤ address.toNat ∨ address.toNat < cell.toNat) :
    Function.update cells cell value address = cells address := by
  have apart : address ≠ cell := by
    rintro rfl
    omega
  exact Function.update_of_ne apart value cells

theorem effect_eeprom_of_avoids {low high : Nat} {arm : WriteArm} (avoids : arm.Avoids low high)
    (source payload : Nat → UInt8) (deviceAdd : UInt8) (meter : Meter) {address : UInt16}
    (above : low ≤ address.toNat) (below : address.toNat < high) :
    (arm.effect source payload deviceAdd meter).eeprom address = meter.eeprom address := by
  cases arm with
  | relay => rfl
  | time => rfl
  | empty => rfl
  | clear base count =>
      obtain ⟨fits, apart⟩ := avoids (base, count) List.mem_cons_self
      dsimp only at apart
      exact writeSpan_outside _ _ _ fits (by omega)
  | oneByte cell =>
      obtain ⟨_, apart⟩ := avoids (cell, 1) List.mem_cons_self
      simp only [UInt16.reduceToNat] at apart
      exact update_outside _ _ (by omega)
  | twoBytes first second =>
      obtain ⟨_, firstApart⟩ := avoids (first, 1) List.mem_cons_self
      obtain ⟨_, secondApart⟩ := avoids (second, 1)
        (List.mem_cons_of_mem _ List.mem_cons_self)
      simp only [UInt16.reduceToNat] at firstApart secondApart
      simp only [WriteArm.effect]
      rw [update_outside _ _ (by omega), update_outside _ _ (by omega)]
  | billTime =>
      obtain ⟨fits, apart⟩ := avoids (0x0072, 7) List.mem_cons_self
      exact writeSpan_outside _ _ _ fits (by
        simp only [UInt16.reduceToNat] at apart ⊢
        omega)

theorem handle_eeprom_of_avoids {low high : Nat} (board : Board) (call : Call)
    (avoids : call.handler = some .writeMeter → ∀ arm, writeArm call.address = some arm →
      arm.Avoids low high)
    {address : UInt16} (above : low ≤ address.toNat) (below : address.toNat < high) :
    (board.handle call).meter.eeprom address = board.meter.eeprom address := by
  rw [handle_meter, Meter.handled]
  cases chosen : call.handler with
  | none => rfl
  | some handler =>
      cases handler with
      | writeMeter =>
          simp only [Meter.afterWrite]
          cases found : writeArm call.address with
          | none => rfl
          | some arm =>
              exact effect_eeprom_of_avoids (avoids chosen arm found) _ _ _ _ above below
      | readMeter =>
          simp only [Meter.afterRead]
          cases readArm call.address with
          | none => rfl
          | some arm => rfl

theorem foldl_handle_eeprom_of_avoids (low high : Nat) (board : Board) (calls : List Call)
    (avoids : ∀ call ∈ calls, ∀ arm, writeArm call.address = some arm → arm.Avoids low high)
    {address : UInt16} (above : low ≤ address.toNat) (below : address.toNat < high) :
    (calls.foldl Board.handle board).meter.eeprom address = board.meter.eeprom address := by
  induction calls generalizing board with
  | nil => rfl
  | cons call rest ih =>
      rw [List.foldl_cons, ih (board.handle call)]
      · exact handle_eeprom_of_avoids board call (fun _ => avoids call List.mem_cons_self) above
          below
      · intro later member
        exact avoids later (List.mem_cons_of_mem call member)

theorem writeArm_avoids_protected {deviceAdd : UInt8} {arm : WriteArm}
    (found : writeArm deviceAdd = some arm) :
    arm.Avoids 0x00 0x07 ∧ arm.Avoids 0x10 0x2C ∧ arm.Avoids 0xFFFF 0x10000 := by
  have every : ∀ entry ∈ writeCases, entry.2.Avoids 0x00 0x07 ∧ entry.2.Avoids 0x10 0x2C ∧
      entry.2.Avoids 0xFFFF 0x10000 := by decide
  exact every _ (writeArm_mem found)

def Protected (address : UInt16) : Prop :=
  address ≤ 0x06 ∨ 0x10 ≤ address ∧ address ≤ 0x2B ∨ address = 0xFFFF

instance (address : UInt16) : Decidable (Protected address) :=
  inferInstanceAs (Decidable (_ ∨ _ ∧ _ ∨ _))

theorem foldl_handle_protected (board : Board) (calls : List Call) {address : UInt16}
    (kept : Protected address) :
    (calls.foldl Board.handle board).meter.eeprom address = board.meter.eeprom address := by
  have bound := address.toNat_lt
  rcases kept with saved | ⟨first, last⟩ | rfl
  · refine foldl_handle_eeprom_of_avoids 0x00 0x07 board calls ?_ (by omega) ?_
    · intro call _ arm found
      exact (writeArm_avoids_protected found).1
    · exact Nat.lt_succ_of_le (UInt16.le_iff_toNat_le.mp saved)
  · refine foldl_handle_eeprom_of_avoids 0x10 0x2C board calls ?_ ?_ ?_
    · intro call _ arm found
      exact (writeArm_avoids_protected found).2.1
    · exact UInt16.le_iff_toNat_le.mp first
    · exact Nat.lt_succ_of_le (UInt16.le_iff_toNat_le.mp last)
  · refine foldl_handle_eeprom_of_avoids 0xFFFF 0x10000 board calls ?_ ?_ ?_
    · intro call _ arm found
      exact (writeArm_avoids_protected found).2.2
    · decide
    · decide

theorem foldl_handle_protected_screenTime :
    ([command (fun _ => 0) 0x10 [0x05]].foldl Board.handle Board.blank).meter.eeprom 0x2B = 0 :=
  foldl_handle_protected Board.blank _ (by decide)

end SmartMeter
