import Mathlib.Data.List.Basic

/-!
Areas of type, length and value fields, with a code for padding and a code that ends the area.
What stands behind the end is not looked at.
-/

namespace Tlv

inductive Item
  | pad
  | field (code : UInt8) (value : List UInt8)

variable (pad stop : UInt8)

def Item.encode : Item → List UInt8
  | .pad => [pad]
  | .field code value => code :: UInt8.ofNat value.length :: value

/-- The codes that must come with a value of a certain length do. -/
def Item.Proper (proper : UInt8 → Nat → Prop) : Item → Prop
  | .pad => True
  | .field code value =>
      code ≠ pad ∧ code ≠ stop ∧ value.length < 256 ∧ proper code value.length

def WellFormed (proper : UInt8 → Nat → Prop) (area : List UInt8) : Prop :=
  ∃ (items : List Item) (rest : List UInt8), (∀ item ∈ items, Item.Proper pad stop proper item) ∧
    area = items.flatMap (Item.encode pad) ++ stop :: rest

variable {pad stop} {proper : UInt8 → Nat → Prop}

theorem not_wellFormed_nil : ¬WellFormed pad stop proper [] := by
  rintro ⟨items, rest, -, nothing⟩
  exact List.cons_ne_nil _ _ (List.append_eq_nil_iff.mp nothing.symm).2

theorem wellFormed_stop (rest : List UInt8) : WellFormed pad stop proper (stop :: rest) :=
  ⟨[], rest, fun _ member => absurd member List.not_mem_nil, rfl⟩

theorem wellFormed_pad (apart : pad ≠ stop) (rest : List UInt8) :
    WellFormed pad stop proper (pad :: rest) ↔ WellFormed pad stop proper rest := by
  constructor
  · rintro ⟨items, behind, right, same⟩
    cases items with
    | nil => exact absurd (List.cons.inj same).1 apart
    | cons item items =>
        have others := fun other member => right other (List.mem_cons_of_mem _ member)
        cases item with
        | pad => exact ⟨items, behind, others, (List.cons.inj same).2⟩
        | field code value =>
            have first := right _ List.mem_cons_self
            exact absurd (List.cons.inj same).1.symm first.1
  · rintro ⟨items, behind, right, rfl⟩
    refine ⟨.pad :: items, behind, ?_, rfl⟩
    intro item member
    rcases List.mem_cons.mp member with rfl | later
    · trivial
    · exact right item later

/-- A field must have its length and its value within the area. -/
theorem wellFormed_field {code : UInt8} (notPad : code ≠ pad) (notStop : code ≠ stop)
    (rest : List UInt8) :
    WellFormed pad stop proper (code :: rest) ↔ ∃ length more, rest = length :: more ∧
      length.toNat ≤ more.length ∧ proper code length.toNat ∧
      WellFormed pad stop proper (more.drop length.toNat) := by
  constructor
  · rintro ⟨items, behind, right, same⟩
    cases items with
    | nil => exact absurd (List.cons.inj same).1 notStop
    | cons item items =>
        have others := fun other member => right other (List.mem_cons_of_mem _ member)
        cases item with
        | pad => exact absurd (List.cons.inj same).1 notPad
        | field other value =>
            obtain ⟨-, -, short, right⟩ := right _ List.mem_cons_self
            have whole : code :: rest = other :: UInt8.ofNat value.length ::
                (value ++ (items.flatMap (Item.encode pad) ++ stop :: behind)) := by
              simpa [Item.encode] using same
            obtain ⟨rfl, rfl⟩ := List.cons.inj whole
            have length : (UInt8.ofNat value.length).toNat = value.length := by
              rw [UInt8.toNat_ofNat', Nat.mod_eq_of_lt short]
            refine ⟨UInt8.ofNat value.length, _, rfl, ?_, ?_, ?_⟩
            · rw [length]
              simp
            · rwa [length]
            · rw [length, List.drop_left]
              exact ⟨items, behind, others, rfl⟩
  · rintro ⟨length, more, rfl, inside, right, items, behind, others, same⟩
    have value : (more.take length.toNat).length = length.toNat := by
      rw [List.length_take, Nat.min_eq_left inside]
    refine ⟨.field code (more.take length.toNat) :: items, behind, ?_, ?_⟩
    · intro item member
      rcases List.mem_cons.mp member with rfl | later
      · exact ⟨notPad, notStop, by rw [value]; exact length.toNat_lt, by rwa [value]⟩
      · exact others item later
    · rw [List.flatMap_cons, Item.encode, value, UInt8.ofNat_toNat, List.append_assoc, ← same]
      simp

end Tlv
