import Mathlib.Data.List.Basic
import Mathlib.Logic.Function.Basic

/-!
Handles that are opened and closed, and a fixed number of slots that keep the open ones. Closing
only what a slot holds and emptying it is enough for nothing to be closed twice; what is never
closed is what the slots hold at the end.
-/

namespace Handles

variable {α : Type} [DecidableEq α]

inductive Event (α : Type)
  | opened (handle : α)
  | closed (handle : α)
deriving DecidableEq

def opens (log : List (Event α)) (handle : α) : Nat := log.count (.opened handle)

def closes (log : List (Event α)) (handle : α) : Nat := log.count (.closed handle)

def Owned (log : List (Event α)) : Prop :=
  ∀ before after, log = before ++ after → ∀ handle, closes before handle ≤ opens before handle

/-- Besides, each handle that has been opened is closed. -/
def Released (log : List (Event α)) : Prop :=
  Owned log ∧ ∀ handle, closes log handle = opens log handle

section Log

variable {log : List (Event α)} {handle other : α}

@[simp] theorem opens_append (first second : List (Event α)) :
    opens (first ++ second) handle = opens first handle + opens second handle :=
  List.count_append

@[simp] theorem closes_append (first second : List (Event α)) :
    closes (first ++ second) handle = closes first handle + closes second handle :=
  List.count_append

@[simp] theorem opens_opened :
    opens [.opened handle] other = if handle = other then 1 else 0 := by
  simp [opens, List.count_singleton]

@[simp] theorem opens_closed : opens [.closed handle] other = 0 := by
  simp [opens]

@[simp] theorem closes_opened : closes [.opened handle] other = 0 := by
  simp [closes]

@[simp] theorem closes_closed :
    closes [.closed handle] other = if handle = other then 1 else 0 := by
  simp [closes, List.count_singleton]

theorem owned_nil : Owned ([] : List (Event α)) := by
  intro before after split handle
  obtain ⟨rfl, -⟩ := List.append_eq_nil_iff.mp split.symm
  exact Nat.le_refl 0

theorem Owned.append_one (owned : Owned log) {event : Event α}
    (last : ∀ handle, closes (log ++ [event]) handle ≤ opens (log ++ [event]) handle) :
    Owned (log ++ [event]) := by
  intro before after split
  rcases List.eq_nil_or_concat after with rfl | ⟨earlier, final, rfl⟩
  · rw [List.append_nil] at split
    rw [← split]
    exact last
  · rw [List.concat_eq_append, ← List.append_assoc] at split
    exact owned before earlier (List.append_inj' split rfl).1

theorem Owned.left {first second : List (Event α)} (owned : Owned (first ++ second)) :
    Owned first := by
  intro before after split
  exact owned before (after ++ second) (by rw [split, List.append_assoc])

/-- What is closed first has not been opened. -/
theorem not_owned_of_closed (handle : α) : ¬Owned [.closed handle] := by
  intro owned
  have first := owned [.closed handle] [] rfl handle
  simp at first

end Log

def held (slots : Nat → Option α) (count : Nat) (handle : α) : Nat :=
  (List.range count).countP fun slot => slots slot = some handle

/-- The open handles are those in the slots. -/
structure Accounts (log : List (Event α)) (slots : Nat → Option α) (count : Nat) : Prop where
  owned : Owned log
  open_ : ∀ handle, opens log handle = closes log handle + held slots count handle

section Slots

variable {log : List (Event α)} {slots : Nat → Option α} {count slot : Nat} {handle : α}

theorem held_succ : held slots (count + 1) handle =
    held slots count handle + if slots count = some handle then 1 else 0 := by
  simp [held, List.range_succ, List.countP_singleton]

theorem held_update_above (above : count ≤ slot) (value : Option α) :
    held (Function.update slots slot value) count handle = held slots count handle := by
  apply List.countP_congr
  intro index member
  rw [Function.update_of_ne (by have := List.mem_range.mp member; omega)]

/-- A slot that is written gives up what it held. -/
theorem held_update (inside : slot < count) (value : Option α) :
    held (Function.update slots slot value) count handle +
        (if slots slot = some handle then 1 else 0) =
      held slots count handle + if value = some handle then 1 else 0 := by
  induction count with
  | zero => omega
  | succ count ih =>
      rw [held_succ, held_succ]
      by_cases last : slot = count
      · subst last
        rw [Function.update_self, held_update_above (Nat.le_refl slot)]
        omega
      · rw [Function.update_of_ne (Ne.symm last)]
        have earlier := ih (by omega)
        omega

theorem held_empty (empty : ∀ slot < count, slots slot = none) (handle : α) :
    held slots count handle = 0 := by
  rw [held, List.countP_eq_zero]
  intro slot member
  simp [empty slot (List.mem_range.mp member)]

theorem accounts_nil (empty : ∀ slot < count, slots slot = none) :
    Accounts ([] : List (Event α)) slots count := by
  refine ⟨owned_nil, fun handle => ?_⟩
  rw [held_empty empty]
  rfl

theorem Accounts.open_slot (accounts : Accounts log slots count) (inside : slot < count)
    (free : slots slot = none) (handle : α) :
    Accounts (log ++ [.opened handle]) (Function.update slots slot (some handle)) count := by
  have balance (other : α) : opens (log ++ [.opened handle]) other =
      closes (log ++ [.opened handle]) other +
        held (Function.update slots slot (some handle)) count other := by
    have before := accounts.open_ other
    have moved := @held_update α _ slots count slot other inside (some handle)
    simp only [free, opens_append, closes_append, opens_opened, closes_opened, Option.some.injEq,
      reduceCtorEq, if_false] at moved ⊢
    omega
  exact ⟨accounts.owned.append_one fun other => by have := balance other; omega, balance⟩

theorem Accounts.close_slot (accounts : Accounts log slots count) (inside : slot < count)
    (holds : slots slot = some handle) :
    Accounts (log ++ [.closed handle]) (Function.update slots slot none) count := by
  have balance (other : α) : opens (log ++ [.closed handle]) other =
      closes (log ++ [.closed handle]) other +
        held (Function.update slots slot none) count other := by
    have before := accounts.open_ other
    have moved := @held_update α _ slots count slot other inside none
    simp only [holds, opens_append, closes_append, opens_closed, closes_closed, Option.some.injEq,
      reduceCtorEq, if_false] at moved ⊢
    omega
  exact ⟨accounts.owned.append_one fun other => by have := balance other; omega, balance⟩

theorem Accounts.released_iff (accounts : Accounts log slots count) :
    Released log ↔ ∀ slot < count, slots slot = none := by
  constructor
  · rintro ⟨-, settled⟩ slot inside
    cases holds : slots slot with
    | none => rfl
    | some handle =>
        have balance := accounts.open_ handle
        rw [settled handle] at balance
        have counted : 0 < held slots count handle := by
          rw [held, List.countP_pos_iff]
          exact ⟨slot, List.mem_range.mpr inside, decide_eq_true holds⟩
        omega
  · intro empty
    refine ⟨accounts.owned, fun handle => ?_⟩
    rw [accounts.open_ handle, held_empty empty, Nat.add_zero]

end Slots

end Handles
