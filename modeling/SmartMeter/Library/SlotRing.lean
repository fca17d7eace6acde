import SmartMeter.Library.Buffer

/-!
A ring of slots that holds a list, which grows at both ends and is taken from the front. The read
index is at the slot in front of the first element.
-/

namespace SlotRing

variable {α : Type} {cells : Nat → α} {size read previous count : Nat} {value : α}

def contents (cells : Nat → α) (size read count : Nat) : List α :=
  Buffer.toList (fun index => cells ((read + 1 + index) % size)) count

@[simp] theorem length_contents (cells : Nat → α) (size read count : Nat) :
    (contents cells size read count).length = count :=
  Buffer.toList_length ..

theorem contents_congr {other : Nat → α}
    (same : ∀ index < count,
      other ((read + 1 + index) % size) = cells ((read + 1 + index) % size)) :
    contents other size read count = contents cells size read count :=
  Buffer.toList_congr same

/-- The slot that many places on is another one. -/
theorem slot_ne (read : Nat) {first second : Nat} (low : first < second)
    (bound : second < first + size) :
    (read + first) % size ≠ (read + second) % size := by
  intro same
  have apart := Nat.sub_mod_eq_zero_of_mod_eq same.symm
  rw [Nat.add_sub_add_left, Nat.mod_eq_of_lt (by omega)] at apart
  omega

theorem contents_back (space : count < size) :
    contents (Function.update cells ((read + 1 + count) % size) value) size read (count + 1) =
      contents cells size read count ++ [value] := by
  rw [contents, Buffer.toList_succ, Function.update_self]
  refine congrArg (· ++ [value]) (contents_congr fun index bound => ?_)
  exact Function.update_of_ne (slot_ne (read + 1) bound (by omega)) ..

theorem contents_step (back : (previous + 1) % size = read) :
    contents cells size previous (count + 1) = cells read :: contents cells size read count := by
  have shift (index : Nat) : (previous + 1 + (1 + index)) % size = (read + 1 + index) % size := by
    rw [← back, Nat.add_assoc (_ % size), Nat.mod_add_mod]
  rw [contents, Nat.add_comm count 1, Buffer.toList_add]
  simp only [shift]
  rw [← back]
  rfl

theorem contents_front (back : (previous + 1) % size = read) (space : count < size)
    (inside : read < size) :
    contents (Function.update cells read value) size previous (count + 1) =
      value :: contents cells size read count := by
  rw [contents_step back, Function.update_self]
  refine congrArg (value :: ·) (contents_congr fun index bound => ?_)
  refine Function.update_of_ne (fun same => ?_) ..
  have apart : (read + 0) % size ≠ (read + (1 + index)) % size :=
    slot_ne read (by omega) (by omega)
  rw [Nat.add_zero, Nat.mod_eq_of_lt inside, ← Nat.add_assoc] at apart
  exact apart same.symm

end SlotRing
