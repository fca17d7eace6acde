import Mathlib.Logic.Function.Basic
import Mathlib.Tactic.NthRewrite

/-!
A receiver that puts numbered pieces together. It marks the numbers it has seen and holds the
pieces of one total at a time; another total throws the pieces away but leaves the marks.
-/

structure Piece (α : Type) where
  total : Nat
  number : Nat
  content : α

structure Assembly (α β : Type) where
  marked : Nat → Bool
  total : Nat
  held : Nat → Option α
  delivered : Option β

namespace Assembly

variable {α β : Type}

def heldOf (total : Nat) (assembly : Assembly α β) (number : Nat) : Option α :=
  if assembly.total = total then assembly.held number else none

def Full (held : Nat → Option α) (total : Nat) : Prop :=
  ∀ number < total, (held number).isSome

instance (held : Nat → Option α) (total : Nat) : Decidable (Full held total) :=
  inferInstanceAs (Decidable (∀ number < total, _))

def count (held : Nat → Option α) (total : Nat) : Nat :=
  (List.range total).countP fun number => (held number).isSome

def contents (held : Nat → Option α) (total : Nat) : List α :=
  (List.range total).filterMap held

def hold (join : List α → β) (piece : Piece α) (assembly : Assembly α β) : Assembly α β :=
  let held := Function.update (assembly.heldOf piece.total) piece.number (some piece.content)
  if Full held piece.total then
    { assembly with
      total := 0
      held := fun _ => none
      delivered := some (join (contents held piece.total)) }
  else { assembly with total := piece.total, held := held }

def mark (number : Nat) (assembly : Assembly α β) : Assembly α β :=
  { assembly with marked := Function.update assembly.marked number true }

/-- Nothing is held any more once a message has been delivered. -/
def receive (join : List α → β) (assembly : Assembly α β) (piece : Piece α) : Assembly α β :=
  if assembly.marked piece.number then assembly
  else if assembly.delivered.isSome then assembly.mark piece.number
  else (assembly.mark piece.number).hold join piece

structure Sound (assembly : Assembly α β) : Prop where
  marked : ∀ number, (assembly.held number).isSome → assembly.marked number = true
  short : 0 < assembly.total → ¬Full assembly.held assembly.total

variable {assembly : Assembly α β} {piece : Piece α} {join : List α → β}

theorem count_le (held : Nat → Option α) (total : Nat) : count held total ≤ total := by
  simpa [count] using (List.range total).countP_le_length (p := fun number => (held number).isSome)

theorem count_succ (held : Nat → Option α) (total : Nat) :
    count held (total + 1) = count held total + if (held total).isSome then 1 else 0 := by
  simp [count, List.range_succ, List.countP_append, List.countP_singleton]

theorem count_eq_iff_full (held : Nat → Option α) (total : Nat) :
    count held total = total ↔ Full held total := by
  have length : total = (List.range total).length := List.length_range.symm
  rw [count]
  nth_rewrite 2 [length]
  rw [List.countP_eq_length]
  constructor
  · intro all number bound
    exact all number (List.mem_range.mpr bound)
  · intro full number member
    exact full number (List.mem_range.mp member)

theorem count_update_beyond (held : Nat → Option α) {number total : Nat} (beyond : total ≤ number)
    (content : Option α) : count (Function.update held number content) total = count held total := by
  induction total with
  | zero => rfl
  | succ total ih =>
      have apart : total ≠ number := by omega
      rw [count_succ, count_succ, ih (by omega), Function.update_of_ne apart]

theorem count_update {held : Nat → Option α} {number total : Nat} (bound : number < total)
    (missing : held number = none) (content : α) :
    count (Function.update held number (some content)) total = count held total + 1 := by
  induction total with
  | zero => omega
  | succ total ih =>
      rw [count_succ, count_succ]
      by_cases last : number = total
      · subst last
        rw [count_update_beyond held (Nat.le_refl number), Function.update_self, missing]
        rfl
      · rw [ih (by omega), Function.update_of_ne (Ne.symm last)]
        omega

theorem heldOf_isSome {total number : Nat} (present : (assembly.heldOf total number).isSome) :
    assembly.total = total ∧ (assembly.held number).isSome := by
  rw [heldOf] at present
  split at present
  · rename_i same
    exact ⟨same, present⟩
  · cases present

theorem heldOf_self (marked : Nat → Bool) (total : Nat) (held : Nat → Option α)
    (delivered : Option β) :
    (Assembly.mk marked total held delivered).heldOf total = held := by
  funext number
  exact if_pos rfl

theorem hold_sound (sound : assembly.Sound) (fresh : assembly.marked piece.number = true) :
    (assembly.hold join piece).Sound := by
  rw [hold]
  split
  · constructor
    · intro number present
      cases present
    · intro positive
      cases positive
  · rename_i missing
    constructor
    · intro number present
      by_cases here : number = piece.number
      · rw [here]
        exact fresh
      · dsimp only at present
        rw [Function.update_of_ne here] at present
        exact sound.marked number (heldOf_isSome present).2
    · intro _
      exact missing

theorem mark_sound (sound : assembly.Sound) (number : Nat) : (assembly.mark number).Sound := by
  constructor
  · intro other present
    change Function.update assembly.marked number true other = true
    rw [Function.update_apply]
    split
    · rfl
    · exact sound.marked other present
  · exact sound.short

theorem receive_sound (sound : assembly.Sound) (piece : Piece α) :
    (assembly.receive join piece).Sound := by
  rw [receive]
  split
  · exact sound
  · split
    · exact mark_sound sound _
    · exact hold_sound (mark_sound sound _) (Function.update_self ..)

theorem receive_marked (assembly : Assembly α β) (piece : Piece α) (number : Nat) :
    (assembly.receive join piece).marked number =
      if number = piece.number then true else assembly.marked number := by
  have kept (assembly : Assembly α β) : (assembly.hold join piece).marked = assembly.marked := by
    rw [hold]
    split <;> rfl
  rw [receive]
  split
  · rename_i seen
    split
    · rename_i here
      rw [here]
      exact seen
    · rfl
  · split
    · exact Function.update_apply ..
    · rw [kept]
      exact Function.update_apply ..

/-! A message of `total` pieces: when do its pieces alone, in any order and with repetitions,
deliver `text`? -/

section Message

variable (join : List α → β) (total : Nat) (content : Nat → α) (text : β)

def filled (assembly : Assembly α β) : List α :=
  (List.range total).map fun number => (assembly.heldOf total number).getD (content number)

/-- Every piece that will not be taken any more is held, and what is held spells `text`. -/
def Recovers (assembly : Assembly α β) : Prop :=
  match assembly.delivered with
  | some given => given = text
  | none =>
      (∀ number < total, assembly.marked number = true →
        (assembly.heldOf total number).isSome) ∧
      join (filled total content assembly) = text

variable {join total content text}

theorem contents_of_full {held : Nat → Option α} (full : Full held total) :
    contents held total = (List.range total).map fun number => (held number).getD (content number) := by
  induction total with
  | zero => rfl
  | succ total ih =>
      obtain ⟨given, present⟩ := Option.isSome_iff_exists.mp (full total (by omega))
      have before := ih fun number bound => full number (by omega)
      rw [contents] at before ⊢
      rw [List.range_succ, List.filterMap_append, List.map_append, before]
      simp [present]

theorem recovers_mark (given : assembly.delivered.isSome) (number : Nat) :
    Recovers join total content text (assembly.mark number) ↔
      Recovers join total content text assembly := by
  obtain ⟨found, delivered⟩ := Option.isSome_iff_exists.mp given
  simp only [Recovers, mark, delivered]

theorem filled_update {held : Nat → Option α} {number : Nat} (missing : held number = none) :
    (fun place => ((Function.update held number (some (content number))) place).getD
      (content place)) = fun place => (held place).getD (content place) := by
  funext place
  rw [Function.update_apply]
  split
  · rename_i here
    rw [here, missing]
    rfl
  · rfl

/-- A piece of the message that is taken changes nothing about what the message will become. -/
theorem recovers_hold (undelivered : assembly.delivered = none) {number : Nat} (bound : number < total)
    (fresh : assembly.marked number = false) (sound : assembly.Sound) :
    Recovers join total content text
        ((assembly.mark number).hold join ⟨total, number, content number⟩) ↔
      Recovers join total content text assembly := by
  have missing : assembly.heldOf total number = none := by
    by_contra present
    have marked := sound.marked number (heldOf_isSome (Option.isSome_iff_ne_none.mpr present)).2
    rw [fresh] at marked
    cases marked
  have same : (assembly.mark number).heldOf total = assembly.heldOf total := rfl
  have spelled : (List.range total).map (fun place =>
      (Function.update (assembly.heldOf total) number (some (content number)) place).getD
        (content place)) = filled total content assembly := by
    rw [filled_update missing]
    rfl
  rw [hold, same]
  dsimp only
  split
  · rename_i full
    have all : ∀ place < total, assembly.marked place = true →
        (assembly.heldOf total place).isSome := by
      intro place inside marked
      have present := full place inside
      rw [Function.update_apply] at present
      split at present
      · rename_i here
        rw [here, fresh] at marked
        cases marked
      · exact present
    simp only [Recovers, undelivered]
    rw [contents_of_full full, spelled]
    exact (and_iff_right all).symm
  · simp only [Recovers, mark, undelivered, filled, heldOf_self]
    rw [spelled, filled]
    apply and_congr_left
    intro _
    constructor
    · intro all place inside marked
      have apart : place ≠ number := by
        rintro rfl
        rw [fresh] at marked
        cases marked
      have present := all place inside (by rw [Function.update_of_ne apart]; exact marked)
      rwa [Function.update_of_ne apart] at present
    · intro all place inside marked
      by_cases first : place = number
      · rw [first, Function.update_self]
        rfl
      · rw [Function.update_of_ne first] at marked ⊢
        exact all place inside marked

theorem recovers_receive (sound : assembly.Sound) {number : Nat} (bound : number < total) :
    Recovers join total content text (assembly.receive join ⟨total, number, content number⟩) ↔
      Recovers join total content text assembly := by
  rw [receive]
  split
  · rfl
  · rename_i fresh
    split
    · rename_i given
      exact recovers_mark given number
    · rename_i closed
      have undelivered : assembly.delivered = none := Option.not_isSome_iff_eq_none.mp closed
      exact recovers_hold undelivered bound (Bool.eq_false_iff.mpr fresh) sound

def IsPieceOf (total : Nat) (content : Nat → α) (piece : Piece α) : Prop :=
  piece.total = total ∧ piece.number < total ∧ piece.content = content piece.number

theorem recovers_foldl (sound : assembly.Sound) {pieces : List (Piece α)}
    (ours : ∀ piece ∈ pieces, IsPieceOf total content piece) :
    Recovers join total content text (pieces.foldl (receive join) assembly) ↔
      Recovers join total content text assembly := by
  induction pieces generalizing assembly with
  | nil => rfl
  | cons piece rest ih =>
      obtain ⟨sameTotal, bound, sameContent⟩ := ours piece List.mem_cons_self
      have here : piece = ⟨total, piece.number, content piece.number⟩ := by
        rw [← sameContent, ← sameTotal]
      rw [List.foldl_cons, ih (receive_sound sound piece)
        fun later member => ours later (List.mem_cons_of_mem piece member), here]
      exact recovers_receive sound bound

theorem foldl_sound (sound : assembly.Sound) (pieces : List (Piece α)) :
    (pieces.foldl (receive join) assembly).Sound := by
  induction pieces generalizing assembly with
  | nil => exact sound
  | cons piece rest ih => exact ih (receive_sound sound piece)

theorem foldl_marked (assembly : Assembly α β) (pieces : List (Piece α)) (number : Nat) :
    (pieces.foldl (receive join) assembly).marked number = true ↔
      assembly.marked number = true ∨ ∃ piece ∈ pieces, piece.number = number := by
  induction pieces generalizing assembly with
  | nil => simp
  | cons piece rest ih =>
      rw [List.foldl_cons, ih, receive_marked]
      split
      · rename_i here
        simp [here]
      · rename_i apart
        simp [Ne.symm apart]

/-- When all its numbers are marked, the message has been delivered or never will be. -/
theorem delivered_of_recovers (sound : assembly.Sound) (positive : 0 < total)
    (all : ∀ number < total, assembly.marked number = true) :
    assembly.delivered = some text ↔ Recovers join total content text assembly := by
  cases given : assembly.delivered with
  | some found => simp only [Recovers, given, Option.some.injEq]
  | none =>
      constructor
      · intro delivered
        cases delivered
      · intro recovers
        simp only [Recovers, given] at recovers
        have present (number : Nat) (bound : number < total) :=
          heldOf_isSome (recovers.1 number bound (all number bound))
        have same : assembly.total = total := (present 0 positive).1
        exact absurd (fun number bound => (present number (same ▸ bound)).2)
          (sound.short (same ▸ positive))

theorem delivered_iff_recovers (sound : assembly.Sound) (positive : 0 < total)
    {pieces : List (Piece α)} (ours : ∀ piece ∈ pieces, IsPieceOf total content piece)
    (each : ∀ number < total, ∃ piece ∈ pieces, piece.number = number) :
    (pieces.foldl (receive join) assembly).delivered = some text ↔
      Recovers join total content text assembly := by
  have all (number : Nat) (bound : number < total) :
      (pieces.foldl (receive join) assembly).marked number = true :=
    (foldl_marked assembly pieces number).mpr (.inr (each number bound))
  exact (delivered_of_recovers (foldl_sound sound pieces) positive all).trans
    (recovers_foldl sound ours)

end Message

end Assembly
