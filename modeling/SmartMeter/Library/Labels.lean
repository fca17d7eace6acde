import Mathlib.Data.List.Basic

/-!
Names as labels, each behind its length. A byte that is no length stops the labels.
-/

namespace Labels

variable (stop : UInt8 → Bool)

def encode (labels : List (List UInt8)) : List UInt8 :=
  labels.flatMap fun label => UInt8.ofNat label.length :: label

/-- The length is a byte that does not stop. -/
def Lengthy (label : List UInt8) : Prop :=
  label.length < 256 ∧ stop (UInt8.ofNat label.length) = false

/-- The labels agree with cells from an index on, one cell being passed over after each. -/
def Agrees (cells : Nat → UInt8) : Nat → List (List UInt8) → Prop
  | _, [] => True
  | start, label :: rest =>
      (∀ index < label.length, label[index]? = some (cells (start + index))) ∧
        Agrees cells (start + label.length + 1) rest

@[simp] theorem encode_nil : encode [] = [] := rfl

@[simp] theorem encode_cons (label : List UInt8) (rest : List (List UInt8)) :
    encode (label :: rest) = UInt8.ofNat label.length :: (label ++ encode rest) := rfl

variable {stop}

theorem Lengthy.toNat {label : List UInt8} (lengthy : Lengthy stop label) :
    (UInt8.ofNat label.length).toNat = label.length := by
  rw [UInt8.toNat_ofNat', Nat.mod_eq_of_lt lengthy.1]

/-- The labels in front of a byte that stops are the only ones. -/
theorem encode_unique {first second : List (List UInt8)} {byte other : UInt8}
    {rest behind : List UInt8} (firstLengthy : ∀ label ∈ first, Lengthy stop label)
    (secondLengthy : ∀ label ∈ second, Lengthy stop label) (stops : stop byte = true)
    (otherStops : stop other = true)
    (same : encode first ++ byte :: rest = encode second ++ other :: behind) :
    first = second ∧ byte = other ∧ rest = behind := by
  induction first generalizing second with
  | nil =>
      cases second with
      | nil => exact ⟨rfl, List.cons.inj same⟩
      | cons label more =>
          have length := (secondLengthy label List.mem_cons_self).2
          rw [← (List.cons.inj same).1, stops] at length
          cases length
  | cons label more ih =>
      have lengthy := firstLengthy label List.mem_cons_self
      cases second with
      | nil =>
          have length := lengthy.2
          rw [(List.cons.inj same).1, otherStops] at length
          cases length
      | cons twin others =>
          have twinLengthy := secondLengthy twin List.mem_cons_self
          obtain ⟨head, tail⟩ := List.cons.inj same
          have length : label.length = twin.length := by
            rw [← lengthy.toNat, ← twinLengthy.toNat, head]
          simp only [List.append_eq, List.append_assoc] at tail
          obtain ⟨rfl, later⟩ := List.append_inj tail length
          obtain ⟨rfl, ends⟩ := ih
            (fun other member => firstLengthy other (List.mem_cons_of_mem _ member))
            (fun other member => secondLengthy other (List.mem_cons_of_mem _ member)) later
          exact ⟨rfl, ends⟩

theorem encode_length (separator : UInt8) {labels : List (List UInt8)} (some : labels ≠ []) :
    (encode labels).length = (List.intercalate [separator] labels).length + 1 := by
  induction labels with
  | nil => exact absurd rfl some
  | cons label rest ih =>
      cases rest with
      | nil => simp
      | cons next rest =>
          rw [encode_cons, List.intercalate_cons_cons, List.length_cons, List.length_append,
            ih (List.cons_ne_nil _ _)]
          simp only [List.length_append, List.length_cons, List.length_nil]
          omega

/-- A text that is the labels with separators between them agrees with the labels. -/
theorem agrees_intercalate (separator missing : UInt8) (labels : List (List UInt8))
    (before : List UInt8) :
    Agrees (fun index => (before ++ List.intercalate [separator] labels).getD index missing)
      before.length labels := by
  induction labels generalizing before with
  | nil => trivial
  | cons label rest ih =>
      have here (behind : List UInt8) : ∀ index < label.length, label[index]? =
          some ((before ++ (label ++ behind)).getD (before.length + index) missing) := by
        intro index inside
        rw [List.getD_eq_getElem?_getD, List.getElem?_append_right (Nat.le_add_right _ _),
          Nat.add_sub_cancel_left, List.getElem?_append_left inside,
          List.getElem?_eq_getElem inside]
        rfl
      cases rest with
      | nil =>
          have alone := here []
          rw [List.append_nil] at alone
          rw [List.intercalate_singleton]
          exact ⟨alone, trivial⟩
      | cons next rest =>
          rw [List.intercalate_cons_cons, List.append_assoc]
          refine ⟨here _, ?_⟩
          have later := ih (before ++ label ++ [separator])
          have length : (before ++ label ++ [separator]).length =
              before.length + label.length + 1 := by
            rw [List.length_append, List.length_append]
            rfl
          rw [length] at later
          simpa only [List.append_assoc] using later

end Labels
