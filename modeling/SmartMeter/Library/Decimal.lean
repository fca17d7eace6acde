import Mathlib.Data.List.Basic

/-!
Decimal numbers as texts of ASCII digits, with an optional minus sign, and their value in the
arithmetic of words.
-/

namespace Decimal

def IsDigit (ch : UInt8) : Prop := 48 ≤ ch ∧ ch ≤ 57

instance (ch : UInt8) : Decidable (IsDigit ch) := inferInstanceAs (Decidable (_ ∧ _))

def digit (ch : UInt8) : Nat := ch.toNat - 48

def value (digits : List UInt8) : Nat := digits.foldl (fun sum ch => 10 * sum + digit ch) 0

def Digits (text : List UInt8) : Prop := text ≠ [] ∧ ∀ ch ∈ text, IsDigit ch

instance (text : List UInt8) : Decidable (Digits text) :=
  decidable_of_iff (text ≠ [] ∧ text.all (fun ch => decide (IsDigit ch)) = true) (by simp [Digits])

def unsigned (text : List UInt8) : Option Nat :=
  if Digits text then some (value text) else none

def signed : List UInt8 → Option Int
  | [] => none
  | ch :: text => if ch = 45 then (unsigned text).map fun (number : Nat) => -(number : Int)
      else (unsigned (ch :: text)).map fun (number : Nat) => (number : Int)

def text (number : Nat) : List UInt8 :=
  if number < 10 then [UInt8.ofNat (48 + number)]
  else text (number / 10) ++ [UInt8.ofNat (48 + number % 10)]
termination_by number
decreasing_by omega

theorem digit_ofNat {number : Nat} (small : number < 10) :
    IsDigit (UInt8.ofNat (48 + number)) ∧ digit (UInt8.ofNat (48 + number)) = number := by
  have all : ∀ number : Fin 10, IsDigit (UInt8.ofNat (48 + number.val)) ∧
      digit (UInt8.ofNat (48 + number.val)) = number.val := by decide
  exact all ⟨number, small⟩

theorem unsigned_append {digits : List UInt8} {number : Nat} (read : unsigned digits = some number)
    {ch : UInt8} (isDigit : IsDigit ch) :
    unsigned (digits ++ [ch]) = some (10 * number + digit ch) := by
  unfold unsigned at read ⊢
  split at read
  · rename_i proper
    cases read
    have whole : Digits (digits ++ [ch]) := by
      refine ⟨by simp, ?_⟩
      intro other member
      rcases List.mem_append.mp member with early | last
      · exact proper.2 other early
      · rwa [List.mem_singleton.mp last]
    rw [if_pos whole, value, List.foldl_append]
    rfl
  · cases read

theorem unsigned_text (number : Nat) : unsigned (text number) = some number := by
  induction number using Nat.strongRecOn with
  | ind number ih =>
      unfold text
      split
      · rename_i small
        obtain ⟨isDigit, same⟩ := digit_ofNat small
        have proper : Digits [UInt8.ofNat (48 + number)] := by
          refine ⟨List.cons_ne_nil _ _, ?_⟩
          intro ch member
          rwa [List.mem_singleton.mp member]
        rw [unsigned, if_pos proper, value, List.foldl_cons, List.foldl_nil, same]
        simp
      · obtain ⟨isDigit, same⟩ := digit_ofNat (Nat.mod_lt number (by decide : 0 < 10))
        rw [unsigned_append (ih (number / 10) (by omega)) isDigit, same]
        congr 1
        omega

theorem unsigned_digit {digits : List UInt8} {number : Nat}
    (read : unsigned digits = some number) {ch : UInt8} (member : ch ∈ digits) : IsDigit ch := by
  unfold unsigned at read
  split at read
  · rename_i proper
    exact proper.2 ch member
  · cases read

theorem signed_of_unsigned {digits : List UInt8} {number : Nat}
    (read : unsigned digits = some number) : signed digits = some (number : Int) := by
  cases digits with
  | nil => cases read
  | cons ch rest =>
      have first := unsigned_digit read List.mem_cons_self
      have plain : ch ≠ 45 := by
        rintro rfl
        exact absurd first (by decide)
      rw [signed, if_neg plain, read]
      rfl

/-- Taking every step modulo the word size comes to the same as doing so at the end. -/
theorem foldl_bmod (size : Nat) (digits : List UInt8) (sum : Int) :
    digits.foldl (fun (sum : Int) ch => (10 * sum + digit ch).bmod size) (sum.bmod size) =
      (digits.foldl (fun (sum : Int) ch => 10 * sum + digit ch) sum).bmod size := by
  induction digits generalizing sum with
  | nil => rfl
  | cons ch rest ih =>
      have step : (10 * sum.bmod size + digit ch).bmod size = (10 * sum + digit ch).bmod size := by
        rw [← Int.bmod_add_bmod, Int.mul_bmod_bmod, Int.bmod_add_bmod]
      rw [List.foldl_cons, List.foldl_cons, step, ih]

theorem foldl_cast (digits : List UInt8) (sum : Nat) :
    digits.foldl (fun (sum : Int) ch => 10 * sum + digit ch) sum =
      (digits.foldl (fun sum ch => 10 * sum + digit ch) sum : Nat) := by
  induction digits generalizing sum with
  | nil => rfl
  | cons ch rest ih =>
      rw [List.foldl_cons, List.foldl_cons, ← ih]
      rfl

end Decimal
