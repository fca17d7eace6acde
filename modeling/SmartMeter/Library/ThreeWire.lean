import Mathlib.Logic.Function.Basic

/-!
A device on a select, a strobe and a data line. It is reset while it is not selected, and
takes the level of the data line whenever the strobe rises.
-/

namespace ThreeWire

class Device (σ : Type) where
  reset : σ → σ
  clock : σ → Bool → σ

inductive Pin
  | select
  | strobe
  | data
deriving DecidableEq

/-- The levels; the device is selected while `select` is low. -/
structure Wires where
  select : Bool
  strobe : Bool
  data : Bool
deriving DecidableEq

def Wires.set (wires : Wires) : Pin → Bool → Wires
  | .select, level => { wires with select := level }
  | .strobe, level => { wires with strobe := level }
  | .data, level => { wires with data := level }

/-- `seen` is the level of the strobe that the device saw last. -/
structure Line (σ : Type) where
  wires : Wires
  seen : Bool
  device : σ

namespace Line

variable {σ : Type} [Device σ]

def see (line : Line σ) (wires : Wires) : Line σ where
  wires := wires
  seen := wires.strobe
  device :=
    if wires.select then Device.reset line.device
    else if wires.strobe && !line.seen then Device.clock line.device wires.data
    else line.device

def write (line : Line σ) (change : Pin × Bool) : Line σ :=
  line.see (line.wires.set change.1 change.2)

def run (line : Line σ) (changes : List (Pin × Bool)) : Line σ :=
  changes.foldl write line

theorem run_append (line : Line σ) (first second : List (Pin × Bool)) :
    line.run (first ++ second) = (line.run first).run second :=
  List.foldl_append

structure Selected (line : Line σ) : Prop where
  select : line.wires.select = false
  synced : line.seen = line.wires.strobe

structure Idle (line : Line σ) : Prop where
  select : line.wires.select = true
  synced : line.seen = line.wires.strobe

end Line

def bitChanges (bit : Bool) : List (Pin × Bool) :=
  [(.data, bit), (.strobe, false), (.strobe, true)]

def frameChanges (bits : List Bool) : List (Pin × Bool) :=
  (.select, false) :: bits.flatMap bitChanges ++ [(.select, true)]

namespace Line

variable {σ : Type} [Device σ] {line : Line σ}

theorem Selected.bit (selected : line.Selected) (bit : Bool) :
    (line.run (bitChanges bit)).Selected ∧
      (line.run (bitChanges bit)).device = Device.clock line.device bit := by
  obtain ⟨select, synced⟩ := selected
  constructor
  · constructor <;> simp [run, bitChanges, write, see, Wires.set, select]
  · simp [run, bitChanges, write, see, Wires.set, select, synced]

theorem Selected.bits (selected : line.Selected) (bits : List Bool) :
    (line.run (bits.flatMap bitChanges)).Selected ∧
      (line.run (bits.flatMap bitChanges)).device = bits.foldl Device.clock line.device := by
  induction bits generalizing line with
  | nil => exact ⟨selected, rfl⟩
  | cons bit rest ih =>
      obtain ⟨still, clocked⟩ := selected.bit bit
      obtain ⟨ends, device⟩ := ih still
      rw [List.flatMap_cons, run_append]
      refine ⟨ends, ?_⟩
      rw [device, clocked]
      rfl

/-- Whatever was on the line, the device is reset and ready when its select goes up. -/
theorem run_deselect (line : Line σ) (changes : List (Pin × Bool)) :
    (line.run (changes ++ [(.select, true)])).Idle ∧
      (line.run (changes ++ [(.select, true)])).device = Device.reset (line.run changes).device := by
  rw [run_append]
  constructor
  · constructor <;> simp [run, write, see, Wires.set]
  · simp [run, write, see, Wires.set]

theorem Idle.frame (idle : line.Idle) (bits : List Bool) :
    (line.run (frameChanges bits)).Idle ∧
      (line.run (frameChanges bits)).device =
        Device.reset (bits.foldl Device.clock line.device) := by
  have selected : (line.run [(.select, false)]).Selected ∧
      (line.run [(.select, false)]).device = line.device := by
    constructor
    · constructor <;> simp [run, write, see, Wires.set]
    · simp [run, write, see, Wires.set, idle.synced]
  obtain ⟨_, device⟩ := selected.1.bits bits
  obtain ⟨ends, last⟩ := run_deselect line ((.select, false) :: bits.flatMap bitChanges)
  have start : line.run ((.select, false) :: bits.flatMap bitChanges) =
      (line.run [(.select, false)]).run (bits.flatMap bitChanges) := rfl
  refine ⟨ends, ?_⟩
  rw [frameChanges, last, start, device, selected.2]

end Line

end ThreeWire
