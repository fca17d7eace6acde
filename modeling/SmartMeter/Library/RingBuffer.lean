import SmartMeter.Library.Buffer

/-!
Ring buffers with a write index and a read index, one cell always left free. The elements
between the indices, oldest first, are the contents.
-/

namespace RingBuffer

structure Ring (α : Type) (size : Nat) where
  cells : Nat → α
  head : Nat
  tail : Nat
  head_lt : head < size
  tail_lt : tail < size

variable {α : Type}

def latest (keep : Nat) (values : List α) : List α :=
  values.drop (values.length - keep)

theorem latest_length (keep : Nat) (values : List α) :
    (latest keep values).length = min keep values.length := by
  rw [latest, List.length_drop]
  omega

theorem latest_of_short {keep : Nat} {values : List α} (short : values.length ≤ keep) :
    latest keep values = values := by
  rw [latest, Nat.sub_eq_zero_of_le short, List.drop_zero]

theorem latest_append_of_long {keep : Nat} (values : List α) {recent : List α}
    (long : keep ≤ recent.length) : latest keep (values ++ recent) = latest keep recent := by
  have apart : (values ++ recent).length - keep = values.length + (recent.length - keep) := by
    rw [List.length_append]
    omega
  rw [latest, apart, List.drop_length_add_append, latest]

theorem latest_latest_append (keep : Nat) (values recent : List α) :
    latest keep (latest keep values ++ recent) = latest keep (values ++ recent) := by
  have whole : values ++ recent =
      values.take (values.length - keep) ++ (latest keep values ++ recent) := by
    rw [latest, ← List.append_assoc, List.take_append_drop]
  by_cases short : values.length ≤ keep
  · rw [latest_of_short short]
  · have long : keep ≤ (latest keep values ++ recent).length := by
      rw [List.length_append, latest_length]
      omega
    rw [whole, latest_append_of_long _ long]

namespace Ring

variable {size : Nat}

def count (ring : Ring α size) : Nat :=
  (ring.head + size - ring.tail) % size

def contents (ring : Ring α size) : List α :=
  Buffer.toList (fun index => ring.cells ((ring.tail + index) % size)) ring.count

def push (ring : Ring α size) (value : α) : Ring α size where
  cells := Function.update ring.cells ring.head value
  head := (ring.head + 1) % size
  tail := ring.tail
  head_lt := Nat.mod_lt _ (Nat.zero_lt_of_lt ring.head_lt)
  tail_lt := ring.tail_lt

def drop (ring : Ring α size) (amount : Nat) : Ring α size where
  cells := ring.cells
  head := ring.head
  tail := (ring.tail + amount) % size
  head_lt := ring.head_lt
  tail_lt := Nat.mod_lt _ (Nat.zero_lt_of_lt ring.head_lt)

theorem wrap_once {index : Nat} (bound : index < 2 * size) :
    index % size = if index < size then index else index - size := by
  split
  · rename_i inside
    exact Nat.mod_eq_of_lt inside
  · rename_i past
    rw [Nat.mod_eq_sub_mod (by omega), Nat.mod_eq_of_lt (by omega)]

theorem offset_inj {tail first second : Nat} (tailBound : tail < size) (firstBound : first < size)
    (secondBound : second < size) (same : (tail + first) % size = (tail + second) % size) :
    first = second := by
  rw [wrap_once (by omega), wrap_once (by omega)] at same
  split at same <;> split at same <;> omega

theorem count_eq (ring : Ring α size) :
    ring.count =
      if ring.tail ≤ ring.head then ring.head - ring.tail else ring.head + size - ring.tail := by
  have headBound := ring.head_lt
  have tailBound := ring.tail_lt
  rw [count, wrap_once (by omega)]
  split <;> split <;> omega

theorem count_lt (ring : Ring α size) : ring.count < size :=
  Nat.mod_lt _ (Nat.zero_lt_of_lt ring.head_lt)

@[simp] theorem contents_length (ring : Ring α size) : ring.contents.length = ring.count :=
  Buffer.toList_length _ _

theorem contents_eq_nil {ring : Ring α size} (met : ring.head = ring.tail) :
    ring.contents = [] := by
  have none : ring.count = 0 := by
    rw [count_eq, met]
    simp
  rw [contents, none, Buffer.toList_zero]

theorem head_eq (ring : Ring α size) : (ring.tail + ring.count) % size = ring.head := by
  have headBound := ring.head_lt
  have tailBound := ring.tail_lt
  rw [count_eq]
  split
  · rw [wrap_once (by omega)]
    split <;> omega
  · rw [wrap_once (by omega)]
    split <;> omega

theorem position_ne_head (ring : Ring α size) {index : Nat} (bound : index < ring.count) :
    (ring.tail + index) % size ≠ ring.head := by
  have headBound := ring.head_lt
  have tailBound := ring.tail_lt
  have countBound := ring.count_lt
  rw [count_eq] at bound countBound
  rw [wrap_once (by omega)]
  split at bound <;> split <;> omega

theorem count_push (ring : Ring α size) (value : α) (space : ring.count + 1 < size) :
    (ring.push value).count = ring.count + 1 := by
  have headBound := ring.head_lt
  have tailBound := ring.tail_lt
  have moved : (ring.push value).head =
      if ring.head + 1 < size then ring.head + 1 else ring.head + 1 - size :=
    wrap_once (by omega)
  have kept : (ring.push value).tail = ring.tail := rfl
  rw [count_eq] at space
  rw [count_eq, count_eq ring]
  split at space <;> split at moved <;> split <;> omega

theorem contents_push (ring : Ring α size) (value : α) (space : ring.count + 1 < size) :
    (ring.push value).contents = ring.contents ++ [value] := by
  unfold contents
  rw [count_push ring value space, Buffer.toList_succ]
  simp only [push]
  rw [head_eq, Function.update_self]
  congr 1
  apply Buffer.toList_congr
  intro index bound
  exact Function.update_of_ne (ring.position_ne_head bound) _ _

theorem contents_pushAll (ring : Ring α size) (values : List α)
    (space : ring.count + values.length < size) :
    (values.foldl push ring).contents = ring.contents ++ values := by
  induction values generalizing ring with
  | nil => exact (List.append_nil _).symm
  | cons value rest ih =>
      rw [List.length_cons] at space
      have pushed := count_push ring value (by omega)
      rw [List.foldl_cons, ih (ring.push value) (by omega), contents_push ring value (by omega)]
      simp

theorem count_drop (ring : Ring α size) {amount : Nat} (bound : amount ≤ ring.count) :
    (ring.drop amount).count = ring.count - amount := by
  have headBound := ring.head_lt
  have tailBound := ring.tail_lt
  have countBound := ring.count_lt
  have moved : (ring.drop amount).tail =
      if ring.tail + amount < size then ring.tail + amount else ring.tail + amount - size :=
    wrap_once (by omega)
  have kept : (ring.drop amount).head = ring.head := rfl
  rw [count_eq] at bound
  rw [count_eq, count_eq ring]
  split at bound <;> split at moved <;> split <;> omega

theorem contents_drop (ring : Ring α size) {amount : Nat} (bound : amount ≤ ring.count) :
    (ring.drop amount).contents = ring.contents.drop amount := by
  have whole : ring.contents = Buffer.toList (fun index =>
      ring.cells ((ring.tail + index) % size)) (amount + (ring.count - amount)) := by
    rw [Nat.add_sub_cancel' bound]
    rfl
  have length : amount = (Buffer.toList (fun index =>
      ring.cells ((ring.tail + index) % size)) amount).length := by simp
  rw [whole, Buffer.toList_add, List.drop_left' length.symm]
  unfold contents
  rw [count_drop ring bound]
  apply Buffer.toList_congr
  intro index _
  simp only [drop]
  rw [Nat.mod_add_mod, Nat.add_assoc]

theorem drop_drop (ring : Ring α size) (first second : Nat) :
    (ring.drop first).drop second = ring.drop (first + second) := by
  simp only [drop, Nat.mod_add_mod, Nat.add_assoc]

theorem drop_zero (ring : Ring α size) : ring.drop 0 = ring := by
  have kept : ring.tail % size = ring.tail := Nat.mod_eq_of_lt ring.tail_lt
  simp only [drop, Nat.add_zero, kept]

theorem drop_size (ring : Ring α size) : ring.drop size = ring := by
  have kept : ring.tail % size = ring.tail := Nat.mod_eq_of_lt ring.tail_lt
  simp only [drop, Nat.add_mod_right, kept]

theorem drop_count (ring : Ring α size) :
    ring.drop ring.count = { ring with tail := ring.head, tail_lt := ring.head_lt } := by
  simp only [drop, head_eq]

theorem count_drop_past (ring : Ring α size) : (ring.drop (ring.count + 1)).count + 1 = size := by
  have headBound := ring.head_lt
  have moved : (ring.drop (ring.count + 1)).tail =
      if ring.head + 1 < size then ring.head + 1 else ring.head + 1 - size := by
    have step : (ring.tail + (ring.count + 1)) % size = (ring.head + 1) % size := by
      rw [← ring.head_eq, Nat.mod_add_mod, Nat.add_assoc]
    exact step.trans (wrap_once (by omega))
  have kept : (ring.drop (ring.count + 1)).head = ring.head := rfl
  rw [count_eq, kept]
  split at moved <;> split <;> omega

def ahead (ring : Ring α size) (index : Nat) : α := ring.cells ((ring.tail + index) % size)

@[simp] theorem ahead_drop (ring : Ring α size) (amount index : Nat) :
    (ring.drop amount).ahead index = ring.ahead (amount + index) := by
  simp only [ahead, drop, Nat.mod_add_mod, Nat.add_assoc]

theorem ahead_add_size (ring : Ring α size) (index : Nat) :
    ring.ahead (index + size) = ring.ahead index := by
  rw [ahead, ahead, ← Nat.add_assoc, Nat.add_mod_right]

theorem getElem?_contents (ring : Ring α size) {index : Nat} (bound : index < ring.count) :
    ring.contents[index]? = some (ring.ahead index) := by
  simp [contents, Buffer.toList, bound, ahead]

/-- The write of a ring that loses its oldest element when there is no room. -/
def pushOver (ring : Ring α size) (value : α) : Ring α size :=
  if ring.count + 1 < size then ring.push value else (ring.drop 1).push value

theorem contents_pushOver (ring : Ring α size) (value : α) (two : 1 < size) :
    (ring.pushOver value).contents = latest (size - 1) (ring.contents ++ [value]) := by
  have countBound := ring.count_lt
  unfold pushOver latest
  rw [List.length_append, List.length_singleton, contents_length]
  split
  · rename_i space
    rw [contents_push ring value space, show ring.count + 1 - (size - 1) = 0 by omega,
      List.drop_zero]
  · have dropped := count_drop ring (by omega : 1 ≤ ring.count)
    rw [contents_push _ value (by omega), contents_drop ring (by omega),
      show ring.count + 1 - (size - 1) = 1 by omega,
      List.drop_append_of_le_length (by rw [contents_length]; omega)]

theorem contents_pushOverAll (ring : Ring α size) (values : List α) (two : 1 < size) :
    (values.foldl pushOver ring).contents = latest (size - 1) (ring.contents ++ values) := by
  induction values generalizing ring with
  | nil =>
      have countBound := ring.count_lt
      rw [List.append_nil, latest_of_short (by rw [contents_length]; omega)]
      rfl
  | cons value rest ih =>
      rw [List.foldl_cons, ih, contents_pushOver ring value two, latest_latest_append,
        List.append_assoc, List.singleton_append]

/-- What a write does to the cells and the write index, which the read index has no part in. -/
def store (size : Nat) (cells : (Nat → α) × Nat) (value : α) : (Nat → α) × Nat :=
  (Function.update cells.1 cells.2 value, (cells.2 + 1) % size)

theorem store_pushOverAll (ring : Ring α size) (values : List α) :
    ((values.foldl pushOver ring).cells, (values.foldl pushOver ring).head) =
      values.foldl (store size) (ring.cells, ring.head) := by
  induction values generalizing ring with
  | nil => rfl
  | cons value rest ih =>
      have first : ((ring.pushOver value).cells, (ring.pushOver value).head) =
          store size (ring.cells, ring.head) value := by
        unfold pushOver
        split <;> rfl
      rw [List.foldl_cons, List.foldl_cons, ih, first]

theorem store_head (cells : Nat → α) {head : Nat} (values : List α) (inside : head < size) :
    (values.foldl (store size) (cells, head)).2 = (head + values.length) % size := by
  induction values generalizing cells head with
  | nil => exact (Nat.mod_eq_of_lt inside).symm
  | cons value rest ih =>
      rw [List.foldl_cons, store, ih _ (Nat.mod_lt _ (Nat.zero_lt_of_lt inside)), Nat.mod_add_mod,
        List.length_cons, Nat.add_right_comm, Nat.add_assoc]

/-- Bytes that do not reach past the last cell are stored by one copy. -/
theorem store_copy (cells : Nat → α) {head : Nat} (values : List α) (missing : α)
    (inside : head < size) (fits : head + values.length ≤ size) :
    values.foldl (store size) (cells, head) =
      (Buffer.copy cells head (fun index => values.getD index missing) values.length,
        (head + values.length) % size) := by
  induction values generalizing cells head with
  | nil => simp [Buffer.copy, Nat.mod_eq_of_lt inside]
  | cons value rest ih =>
      rw [List.length_cons] at fits ⊢
      rw [List.foldl_cons, store, ← Buffer.copy_first]
      cases rest with
      | nil => rfl
      | cons next rest =>
          rw [List.length_cons] at fits
          have further : (head + 1) % size = head + 1 := Nat.mod_eq_of_lt (by omega)
          have shift : head + 1 + (next :: rest).length = head + ((next :: rest).length + 1) := by
            omega
          simp only [further]
          rw [ih _ (by omega) (by rw [List.length_cons]; omega), shift]
          rfl

theorem tail_of_room (ring : Ring α size) (values : List α)
    (room : ring.count + values.length < size) : (values.foldl pushOver ring).tail = ring.tail := by
  induction values generalizing ring with
  | nil => rfl
  | cons value rest ih =>
      rw [List.length_cons] at room
      have same : ring.pushOver value = ring.push value := if_pos (by omega)
      have pushed := count_push ring value (by omega)
      rw [List.foldl_cons, same, ih _ (by omega)]
      rfl

theorem tail_of_full (ring : Ring α size) (full : ring.count + 1 = size) :
    ring.tail = (ring.head + 1) % size := by
  have headBound := ring.head_lt
  have tailBound := ring.tail_lt
  rw [count_eq] at full
  rw [wrap_once (by omega)]
  split at full <;> split <;> omega

theorem tail_of_excess (ring : Ring α size) (values : List α) (two : 1 < size)
    (excess : size ≤ ring.count + values.length) :
    (values.foldl pushOver ring).tail = ((values.foldl pushOver ring).head + 1) % size := by
  apply tail_of_full
  rw [← contents_length, contents_pushOverAll ring values two, latest_length, List.length_append,
    contents_length]
  omega

end Ring

end RingBuffer
