import SmartMeter.Library.I2cBus

/-!
A device on wires on which any byte may get lost: a byte that is not acknowledged has not
arrived and leaves the device deselected. What a write transfer makes of a register file
depends on which of its bytes arrive.
-/

namespace I2cBus

/-- `acks` says of the coming bytes whether they arrive, `seen` in which states the data
bytes sent so far found the device. -/
structure Unreliable (σ : Type) where
  target : σ
  acks : Nat → Bool
  seen : List σ

section Line

variable {σ : Type} [Target σ]

instance : Target (Unreliable σ) where
  select := fun line byte =>
    let answer := Target.select line.target byte
    let arrives := line.acks 0 && answer.2
    (⟨if arrives then answer.1 else Target.release line.target, fun index => line.acks (index + 1),
      line.seen⟩, arrives)
  receive := fun line byte =>
    let answer := Target.receive line.target byte
    let arrives := line.acks 0 && answer.2
    (⟨if arrives then answer.1 else Target.release line.target, fun index => line.acks (index + 1),
      line.seen ++ [line.target]⟩, arrives)
  transmit := fun line =>
    (⟨(Target.transmit line.target).1, line.acks, line.seen⟩, (Target.transmit line.target).2)
  release := fun line => { line with target := Target.release line.target }

def Unreliable.send (line : Unreliable σ) (bytes : List UInt8) : Unreliable σ :=
  bytes.foldl (fun line byte => (Target.receive line byte).1) line

/-- Start condition, address byte, data bytes, stop condition. -/
def Unreliable.transfer (line : Unreliable σ) (address : UInt8) (bytes : List UInt8) : Unreliable σ :=
  Target.release ((Target.select line address).1.send bytes)

theorem send_cons (line : Unreliable σ) (byte : UInt8) (rest : List UInt8) :
    line.send (byte :: rest) = (Target.receive line byte).1.send rest := rfl

theorem send_acks (line : Unreliable σ) (bytes : List UInt8) (index : Nat) :
    (line.send bytes).acks index = line.acks (index + bytes.length) := by
  induction bytes generalizing line with
  | nil => rfl
  | cons byte rest ih =>
      rw [send_cons, ih]
      exact congrArg line.acks (Nat.add_assoc index rest.length 1)

theorem transfer_acks (line : Unreliable σ) (address : UInt8) (bytes : List UInt8) (index : Nat) :
    (line.transfer address bytes).acks index = line.acks (index + bytes.length + 1) :=
  send_acks _ bytes index

end Line

section Device

variable {α : Type} [DecidableEq α] {layout : Layout α}

theorem release_receive {line : Unreliable (Device layout)} {byte : UInt8}
    (lost : (Target.receive line byte).2 = false) :
    Target.release (Target.receive line byte).1 = (Target.receive line byte).1 := by
  have gone : (line.acks 0 && (Target.receive line.target byte).2) = false := lost
  simp only [Target.release, Target.receive] at gone ⊢
  simp [gone]

theorem release_select {line : Unreliable (Device layout)} {byte : UInt8}
    (lost : (Target.select line byte).2 = false) :
    Target.release (Target.select line byte).1 = (Target.select line byte).1 := by
  have gone : (line.acks 0 && (Target.select line.target byte).2) = false := lost
  simp only [Target.release, Target.select] at gone ⊢
  simp [gone]

def Device.stored : Device layout → (Nat → Bool) → List UInt8 → α → UInt8
  | device, _, [] => device.cells
  | device, acks, byte :: rest =>
      if acks 0 && (Target.receive device byte).2 then
        Device.stored (Target.receive device byte).1 (fun index => acks (index + 1)) rest
      else device.cells

theorem stored_address (cells : α → UInt8) (pointer : α) (left : Nat) (acks : Nat → Bool)
    (byte : UInt8) (rest : List UInt8) :
    Device.stored (⟨cells, pointer, .pointing (left + 1)⟩ : Device layout) acks (byte :: rest) =
      if acks 0 then
        Device.stored (⟨cells, layout.shiftIn pointer byte, .pointing left⟩ : Device layout)
          (fun index => acks (index + 1)) rest
      else cells := by
  rw [Device.stored, receive_address, Bool.and_true]

theorem stored_data (cells : α → UInt8) (pointer : α) (acks : Nat → Bool) (byte : UInt8)
    (rest : List UInt8) :
    Device.stored (⟨cells, pointer, .pointing 0⟩ : Device layout) acks (byte :: rest) =
      if acks 0 then
        Device.stored (⟨layout.store cells pointer byte, layout.next pointer, .pointing 0⟩ : Device layout)
          (fun index => acks (index + 1)) rest
      else cells := by
  rw [Device.stored, receive_data, Bool.and_true]

theorem stored_release (device : Device layout) (acks : Nat → Bool) (bytes : List UInt8) :
    Device.stored (Target.release device) acks bytes = device.cells := by
  cases bytes with
  | nil => rfl
  | cons byte rest =>
      rw [Device.stored, release_device, receive_idle, Bool.and_false]
      rfl

-- One byte: either it arrives, or the device is left deselected with its cells unchanged.
theorem stored_next (line : Unreliable (Device layout)) (byte : UInt8) (rest : List UInt8) :
    Device.stored (Target.receive line byte).1.target (Target.receive line byte).1.acks rest =
      line.target.stored line.acks (byte :: rest) := by
  change Device.stored (if line.acks 0 && (Target.receive line.target byte).2 then _ else _) _ rest = _
  rw [Device.stored]
  split
  · rfl
  · exact stored_release line.target _ rest

theorem send_cells (line : Unreliable (Device layout)) (bytes : List UInt8) :
    (line.send bytes).target.cells = line.target.stored line.acks bytes := by
  induction bytes generalizing line with
  | nil => rfl
  | cons byte rest ih => rw [send_cons, ih, stored_next]

/-- Each byte finds the device as the bytes before it have left it. -/
theorem send_seen (line : Unreliable (Device layout)) (bytes : List UInt8) :
    (line.send bytes).seen.map Device.cells = line.seen.map Device.cells ++
      (List.range bytes.length).map fun index => line.target.stored line.acks (bytes.take index) := by
  induction bytes generalizing line with
  | nil => exact (List.append_nil _).symm
  | cons byte rest ih =>
      have first : (Target.receive line byte).1.seen = line.seen ++ [line.target] := rfl
      have later (index : Nat) := stored_next line byte (rest.take index)
      rw [send_cons, ih, first, List.length_cons, List.range_succ_eq_map]
      simp only [later, List.map_append, List.map_cons, List.map_nil, List.append_assoc,
        List.cons_append, List.nil_append, List.map_map]
      rfl

def Unreliable.stored (line : Unreliable (Device layout)) (bytes : List UInt8) : α → UInt8 :=
  if line.acks 0 then
    Device.stored (⟨line.target.cells, line.target.pointer, .pointing layout.width⟩ : Device layout)
      (fun index => line.acks (index + 1)) bytes
  else line.target.cells

theorem stored_selected (line : Unreliable (Device layout)) (bytes : List UInt8) :
    Device.stored (Target.select line layout.address).1.target
      (Target.select line layout.address).1.acks bytes = line.stored bytes := by
  have selected : Target.select line.target layout.address =
      ({ line.target with phase := .pointing layout.width }, true) := if_pos rfl
  change Device.stored (if line.acks 0 && (Target.select line.target layout.address).2 then _ else _) _
    bytes = _
  rw [selected, Bool.and_true]
  unfold Unreliable.stored
  split
  · rfl
  · exact stored_release line.target _ bytes

theorem transfer_cells (line : Unreliable (Device layout)) (bytes : List UInt8) :
    (line.transfer layout.address bytes).target.cells = line.stored bytes := by
  rw [← stored_selected]
  exact send_cells _ bytes

theorem transfer_seen (line : Unreliable (Device layout)) (bytes : List UInt8) :
    (line.transfer layout.address bytes).seen.map Device.cells = line.seen.map Device.cells ++
      (List.range bytes.length).map fun index => line.stored (bytes.take index) := by
  have found (index : Nat) := stored_selected line (bytes.take index)
  simp only [← found]
  exact send_seen _ bytes

end Device

end I2cBus
