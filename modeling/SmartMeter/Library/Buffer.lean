import Mathlib.Logic.Function.Basic

/-! Buffers as maps from offsets, with the copy, fill and summing loops that work on them. -/

namespace Buffer

variable {α : Type}

def copy (buffer : Nat → α) (offset : Nat) (source : Nat → α) : Nat → Nat → α
  | 0 => buffer
  | count + 1 => Function.update (copy buffer offset source count) (offset + count) (source count)

theorem copy_apply (buffer source : Nat → α) (offset count index : Nat) :
    copy buffer offset source count index =
      if offset ≤ index ∧ index < offset + count then source (index - offset)
      else buffer index := by
  induction count with
  | zero =>
      have outside : ¬(offset ≤ index ∧ index < offset + 0) := by omega
      rw [copy, if_neg outside]
  | succ count ih =>
      rw [copy, Function.update_apply, ih]
      by_cases last : index = offset + count
      · subst last
        simp
      · have same : (offset ≤ index ∧ index < offset + (count + 1)) ↔
            (offset ≤ index ∧ index < offset + count) := by omega
        simp only [last, if_false, same]

theorem copy_inside (buffer source : Nat → α) {offset count index : Nat} (bound : index < count) :
    copy buffer offset source count (offset + index) = source index := by
  simp [copy_apply, bound]

theorem copy_outside (buffer source : Nat → α) {offset count index : Nat}
    (outside : index < offset ∨ offset + count ≤ index) :
    copy buffer offset source count index = buffer index := by
  rw [copy_apply, if_neg (by omega)]

theorem copy_first (buffer source : Nat → α) (offset count : Nat) :
    copy (Function.update buffer offset (source 0)) (offset + 1)
      (fun index => source (index + 1)) count = copy buffer offset source (count + 1) := by
  funext index
  simp only [copy_apply, Function.update_apply]
  by_cases first : index = offset
  · subst first
    have before : ¬(index + 1 ≤ index ∧ index < index + 1 + count) := by omega
    have wider : index ≤ index ∧ index < index + (count + 1) := by omega
    rw [if_neg before, if_pos rfl, if_pos wider, Nat.sub_self]
  · by_cases inside : offset + 1 ≤ index ∧ index < offset + 1 + count
    · have shift : index - (offset + 1) + 1 = index - offset := by omega
      have wider : offset ≤ index ∧ index < offset + (count + 1) := by omega
      rw [if_pos inside, if_pos wider, shift]
    · have narrow : ¬(offset ≤ index ∧ index < offset + (count + 1)) := by omega
      rw [if_neg inside, if_neg narrow, if_neg first]

def fill (buffer : Nat → α) (value : α) (count : Nat) : Nat → α :=
  copy buffer 0 (fun _ => value) count

def toList (buffer : Nat → α) (count : Nat) : List α :=
  (List.range count).map buffer

@[simp] theorem toList_length (buffer : Nat → α) (count : Nat) :
    (toList buffer count).length = count := by
  simp [toList]

@[simp] theorem toList_zero (buffer : Nat → α) : toList buffer 0 = [] := rfl

theorem toList_succ (buffer : Nat → α) (count : Nat) :
    toList buffer (count + 1) = toList buffer count ++ [buffer count] := by
  simp [toList, List.range_succ]

theorem toList_add (buffer : Nat → α) (first second : Nat) :
    toList buffer (first + second) =
      toList buffer first ++ toList (fun index => buffer (first + index)) second := by
  simp [toList, List.range_add]

theorem toList_blocks (buffer : Nat → α) (size blocks : Nat) :
    (List.range blocks).flatMap (fun block =>
      toList (fun index => buffer (size * block + index)) size) =
        toList buffer (size * blocks) := by
  induction blocks with
  | zero => rfl
  | succ blocks ih =>
      rw [List.range_succ, List.flatMap_append, ih, Nat.mul_succ, toList_add]
      simp

theorem toList_congr {first second : Nat → α} {count : Nat}
    (agree : ∀ index < count, first index = second index) :
    toList first count = toList second count := by
  apply List.map_congr_left
  intro index member
  exact agree index (List.mem_range.mp member)

theorem toList_getD (list : List α) (missing : α) :
    toList (fun index => list.getD index missing) list.length = list := by
  apply List.ext_getElem
  · exact toList_length ..
  · intro index _ bound
    simp [toList, bound]

theorem toList_update_last (buffer : Nat → α) (count : Nat) (value : α) :
    toList (Function.update buffer count value) (count + 1) = toList buffer count ++ [value] := by
  rw [toList_succ, Function.update_self]
  congr 1
  apply toList_congr
  intro index bound
  have apart : index ≠ count := by omega
  exact Function.update_of_ne apart value buffer

theorem toList_copy (buffer source : Nat → α) (offset count : Nat) :
    toList (copy buffer offset source count) (offset + count) =
      toList buffer offset ++ toList source count := by
  rw [toList_add]
  congr 1
  · exact toList_congr fun index bound => copy_outside _ _ (by omega)
  · exact toList_congr fun index bound => copy_inside _ _ bound

theorem toList_copy_zero (buffer source : Nat → α) (count : Nat) :
    toList (copy buffer 0 source count) count = toList source count := by
  have whole := toList_copy buffer source 0 count
  rwa [Nat.zero_add, toList_zero, List.nil_append] at whole

theorem toList_inj {first second : Nat → α} {count : Nat} :
    toList first count = toList second count ↔ ∀ index < count, first index = second index := by
  constructor
  · intro same index bound
    have entry := congrArg (fun list => list[index]?) same
    simpa [toList, bound] using entry
  · exact toList_congr

theorem take_toList (buffer : Nat → α) {first count : Nat} (fits : first ≤ count) :
    (toList buffer count).take first = toList buffer first := by
  obtain ⟨second, rfl⟩ := Nat.exists_eq_add_of_le fits
  rw [toList_add, List.take_left' (toList_length buffer first)]

theorem drop_toList (buffer : Nat → α) {first count : Nat} (fits : first ≤ count) :
    (toList buffer count).drop first = toList (fun index => buffer (first + index)) (count - first) := by
  obtain ⟨second, rfl⟩ := Nat.exists_eq_add_of_le fits
  rw [toList_add, List.drop_left' (toList_length buffer first), Nat.add_sub_cancel_left]

theorem toList_prefix_iff {buffer source : Nat → α} {first count : Nat} (fits : first ≤ count) :
    (∃ rest, toList buffer count = toList source first ++ rest) ↔
      ∀ index < first, buffer index = source index := by
  obtain ⟨second, rfl⟩ := Nat.exists_eq_add_of_le fits
  rw [toList_add]
  constructor
  · rintro ⟨rest, same⟩
    exact toList_inj.mp (List.append_inj_left same (by simp))
  · intro agree
    exact ⟨_, by rw [toList_congr agree]⟩

def byteSum (bytes : Nat → UInt8) : Nat → UInt8
  | 0 => 0
  | count + 1 => byteSum bytes count + bytes count

theorem byteSum_eq_foldl (bytes : Nat → UInt8) (count : Nat) :
    byteSum bytes count = (toList bytes count).foldl (· + ·) 0 := by
  induction count with
  | zero => rfl
  | succ count ih => simp [byteSum, toList_succ, ih]

theorem byteSum_congr {first second : Nat → UInt8} {count : Nat}
    (agree : ∀ index < count, first index = second index) :
    byteSum first count = byteSum second count := by
  induction count with
  | zero => rfl
  | succ count ih =>
      rw [byteSum, byteSum, ih (fun index bound => agree index (by omega)), agree count (by omega)]

end Buffer
