import Mathlib.Data.List.Basic

/-!
A receiver that waits for one number after the other. Whatever is repeated, skipped, reordered or
has no readable number, it takes the messages numbered `0`, `1`, `2` and so on, each once.
-/

namespace Numbered

variable {α : Type} (number : α → Option Nat)

def taken : Nat → List α → List α
  | _, [] => []
  | next, message :: rest =>
      if number message = some next then message :: taken (next + 1) rest else taken next rest

theorem taken_append (next : Nat) (first second : List α) :
    taken number next (first ++ second) =
      taken number next first ++ taken number (next + (taken number next first).length) second := by
  induction first generalizing next with
  | nil => simp [taken]
  | cons message rest ih =>
      rw [List.cons_append, taken, taken]
      split
      · have counted : next + 1 + (taken number (next + 1) rest).length =
            next + ((taken number (next + 1) rest).length + 1) := by omega
        rw [ih, List.cons_append, List.length_cons, counted]
      · exact ih next

theorem taken_snoc (next : Nat) (messages : List α) (message : α) :
    taken number next (messages ++ [message]) =
      if number message = some (next + (taken number next messages).length) then
        taken number next messages ++ [message]
      else taken number next messages := by
  rw [taken_append]
  simp only [taken]
  split <;> simp

theorem taken_sublist (next : Nat) (messages : List α) :
    (taken number next messages).Sublist messages := by
  induction messages generalizing next with
  | nil => exact List.Sublist.slnil
  | cons message rest ih =>
      rw [taken]
      split
      · exact (ih (next + 1)).cons_cons message
      · exact (ih next).cons message

theorem taken_numbers (next : Nat) (messages : List α) :
    (taken number next messages).map number =
      (List.range' next (taken number next messages).length).map some := by
  induction messages generalizing next with
  | nil => rfl
  | cons message rest ih =>
      rw [taken]
      split
      · rename_i expected
        rw [List.map_cons, List.length_cons, List.range'_succ, List.map_cons, expected, ih]
      · exact ih next

end Numbered
