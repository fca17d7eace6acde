import Mathlib.Logic.Function.Basic

/-!
Byte-level two-wire bus: what a device does with a start condition and address
byte, with a data byte, when it is clocked out, and at a stop condition. Two devices
on the same wires are a pair: either may acknowledge, and a released line reads as ones.
Register files with a settable pointer, write protected or not, are the devices used here.
-/

namespace I2cBus

@[simp] theorem and_released (byte : UInt8) : byte &&& 0xFF = byte := UInt8.and_neg_one

@[simp] theorem released_and (byte : UInt8) : 0xFF &&& byte = byte := UInt8.neg_one_and

class Target (σ : Type) where
  select : σ → UInt8 → σ × Bool
  receive : σ → UInt8 → σ × Bool
  transmit : σ → σ × UInt8
  release : σ → σ

section Pair

variable {σ τ : Type} [Target σ] [Target τ]

instance : Target (σ × τ) where
  select := fun pair byte =>
    (((Target.select pair.1 byte).1, (Target.select pair.2 byte).1),
      (Target.select pair.1 byte).2 || (Target.select pair.2 byte).2)
  receive := fun pair byte =>
    (((Target.receive pair.1 byte).1, (Target.receive pair.2 byte).1),
      (Target.receive pair.1 byte).2 || (Target.receive pair.2 byte).2)
  transmit := fun pair =>
    (((Target.transmit pair.1).1, (Target.transmit pair.2).1),
      (Target.transmit pair.1).2 &&& (Target.transmit pair.2).2)
  release := fun pair => (Target.release pair.1, Target.release pair.2)

@[simp] theorem select_pair (first : σ) (second : τ) (byte : UInt8) :
    Target.select (first, second) byte =
      (((Target.select first byte).1, (Target.select second byte).1),
        (Target.select first byte).2 || (Target.select second byte).2) := rfl

@[simp] theorem receive_pair (first : σ) (second : τ) (byte : UInt8) :
    Target.receive (first, second) byte =
      (((Target.receive first byte).1, (Target.receive second byte).1),
        (Target.receive first byte).2 || (Target.receive second byte).2) := rfl

@[simp] theorem transmit_pair (first : σ) (second : τ) :
    Target.transmit (first, second) =
      (((Target.transmit first).1, (Target.transmit second).1),
        (Target.transmit first).2 &&& (Target.transmit second).2) := rfl

@[simp] theorem release_pair (first : σ) (second : τ) :
    Target.release (first, second) = (Target.release first, Target.release second) := rfl

end Pair

structure Layout (α : Type) where
  address : UInt8
  width : Nat
  shiftIn : α → UInt8 → α
  next : α → α
  writable : (α → UInt8) → α → Bool

def Layout.store {α : Type} [DecidableEq α] (layout : Layout α) (cells : α → UInt8)
    (pointer : α) (byte : UInt8) : α → UInt8 :=
  if layout.writable cells pointer then Function.update cells pointer byte else cells

inductive Phase
  | idle
  | pointing (left : Nat)
  | reading
deriving Repr, DecidableEq

structure Device {α : Type} (layout : Layout α) where
  cells : α → UInt8
  pointer : α
  phase : Phase

section Device

variable {α : Type} [DecidableEq α] {layout : Layout α}

/-- A device is left idle by every address byte that is not its own. Once all address
bytes are in, received bytes are stored at the pointer, which moves on with each. -/
instance : Target (Device layout) where
  select := fun device byte =>
    if byte = layout.address then ({ device with phase := .pointing layout.width }, true)
    else if byte = layout.address + 1 then ({ device with phase := .reading }, true)
    else ({ device with phase := .idle }, false)
  receive := fun device byte =>
    match device.phase with
    | .pointing (left + 1) =>
        ({ device with
            pointer := layout.shiftIn device.pointer byte
            phase := .pointing left }, true)
    | .pointing 0 =>
        ({ device with
            cells := layout.store device.cells device.pointer byte
            pointer := layout.next device.pointer }, true)
    | _ => (device, false)
  transmit := fun device =>
    match device.phase with
    | .reading =>
        ({ device with pointer := layout.next device.pointer }, device.cells device.pointer)
    | _ => (device, 0xFF)
  release := fun device => { device with phase := .idle }

variable (cells : α → UInt8) (pointer : α) (phase : Phase) (byte : UInt8) (left : Nat)

@[simp] theorem receive_address :
    Target.receive (⟨cells, pointer, .pointing (left + 1)⟩ : Device layout) byte =
      (⟨cells, layout.shiftIn pointer byte, .pointing left⟩, true) := rfl

@[simp] theorem receive_data :
    Target.receive (⟨cells, pointer, .pointing 0⟩ : Device layout) byte =
      (⟨layout.store cells pointer byte, layout.next pointer, .pointing 0⟩, true) := rfl

@[simp] theorem receive_idle :
    Target.receive (⟨cells, pointer, .idle⟩ : Device layout) byte =
      (⟨cells, pointer, .idle⟩, false) := rfl

@[simp] theorem transmit_reading :
    Target.transmit (⟨cells, pointer, .reading⟩ : Device layout) =
      (⟨cells, layout.next pointer, .reading⟩, cells pointer) := rfl

@[simp] theorem transmit_idle :
    Target.transmit (⟨cells, pointer, .idle⟩ : Device layout) =
      (⟨cells, pointer, .idle⟩, 0xFF) := rfl

@[simp] theorem release_device (device : Device layout) :
    Target.release device = { device with phase := .idle } := rfl

end Device

end I2cBus
