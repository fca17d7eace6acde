import Mathlib.Algebra.BigOperators.Group.List.Basic
import Mathlib.Algebra.Ring.Nat

/-! Intervals cut into pieces that lie one behind the other. -/

namespace Tiles

structure Piece where
  start : Nat
  size : Nat
deriving DecidableEq

def Covers : Nat → List Piece → Nat → Prop
  | start, [], stop => start = stop
  | start, piece :: rest, stop => piece.start = start ∧ Covers (start + piece.size) rest stop

def divide (pieces : List Piece) (piece : Piece) (parts : List Piece) : List Piece :=
  pieces.flatMap fun other => if other = piece then parts else [other]

/-- Every piece of `fine` lies in a piece of `coarse`. -/
def Within (fine coarse : List Piece) : Prop :=
  ∀ piece ∈ fine, ∃ whole ∈ coarse,
    whole.start ≤ piece.start ∧ piece.start + piece.size ≤ whole.start + whole.size

variable {start middle stop least : Nat} {pieces before after parts : List Piece}
  {piece other : Piece}

theorem covers_append : Covers start (before ++ after) stop ↔
    ∃ middle, Covers start before middle ∧ Covers middle after stop := by
  induction before generalizing start with
  | nil => simp [Covers]
  | cons head rest ih => simp [Covers, ih, and_assoc]

theorem covers_pair : Covers start [piece, other] stop ↔
    piece.start = start ∧ other.start = start + piece.size ∧
      start + piece.size + other.size = stop := by
  simp [Covers]

theorem Covers.sum (covers : Covers start pieces stop) :
    start + (pieces.map Piece.size).sum = stop := by
  induction pieces generalizing start with
  | nil => simpa [Covers] using covers
  | cons head rest ih =>
      have total := ih covers.2
      simp only [List.map_cons, List.sum_cons]
      omega

theorem Covers.bounds (covers : Covers start pieces stop) (member : piece ∈ pieces) :
    start ≤ piece.start ∧ piece.start + piece.size ≤ stop := by
  induction pieces generalizing start with
  | nil => cases member
  | cons head rest ih =>
      have total := covers.2.sum
      rcases List.mem_cons.mp member with rfl | later
      · exact ⟨Nat.le_of_eq covers.1.symm, by rw [covers.1]; omega⟩
      · have inside := ih covers.2 later
        omega

theorem Covers.pairwise (covers : Covers start pieces stop) :
    pieces.Pairwise fun first second => first.start + first.size ≤ second.start := by
  induction pieces generalizing start with
  | nil => simp
  | cons head rest ih =>
      refine List.pairwise_cons.mpr ⟨fun later member => ?_, ih covers.2⟩
      rw [covers.1]
      exact (covers.2.bounds member).1

theorem Covers.apart (covers : Covers start pieces stop) (member : piece ∈ pieces)
    (member' : other ∈ pieces) (different : piece ≠ other) :
    piece.start + piece.size ≤ other.start ∨ other.start + other.size ≤ piece.start := by
  have ordered := covers.pairwise
  clear covers
  induction pieces with
  | nil => cases member
  | cons head rest ih =>
      rcases List.mem_cons.mp member with rfl | later
      · rcases List.mem_cons.mp member' with rfl | later'
        · exact absurd rfl different
        · exact .inl ((List.pairwise_cons.mp ordered).1 other later')
      · rcases List.mem_cons.mp member' with rfl | later'
        · exact .inr ((List.pairwise_cons.mp ordered).1 piece later)
        · exact ih later later' (List.pairwise_cons.mp ordered).2

theorem Covers.length_mul_le (covers : Covers start pieces stop)
    (large : ∀ piece ∈ pieces, least ≤ piece.size) : pieces.length * least ≤ stop - start := by
  induction pieces generalizing start with
  | nil => simp
  | cons head rest ih =>
      have more := ih covers.2 fun piece member => large piece (List.mem_cons_of_mem _ member)
      have first := large head List.mem_cons_self
      have total := covers.2.sum
      rw [List.length_cons, Nat.add_mul, Nat.one_mul]
      omega

theorem Covers.dvd_start {unit : Nat} (covers : Covers start pieces stop) (aligned : unit ∣ start)
    (whole : ∀ piece ∈ pieces, unit ∣ piece.size) (member : piece ∈ pieces) :
    unit ∣ piece.start := by
  induction pieces generalizing start with
  | nil => cases member
  | cons head rest ih =>
      rcases List.mem_cons.mp member with rfl | later
      · exact covers.1 ▸ aligned
      · refine ih covers.2 (Nat.dvd_add aligned (whole head List.mem_cons_self)) ?_ later
        exact fun piece member => whole piece (List.mem_cons_of_mem _ member)

theorem Covers.nodup (covers : Covers start pieces stop)
    (some_ : ∀ piece ∈ pieces, 0 < piece.size) :
    pieces.Nodup := by
  refine covers.pairwise.imp_of_mem fun {first second} member _ ordered same => ?_
  have size := some_ first member
  rw [same] at ordered size
  omega

@[simp] theorem mem_divide : other ∈ divide pieces piece parts ↔
    piece ∈ pieces ∧ other ∈ parts ∨ other ∈ pieces ∧ other ≠ piece := by
  simp only [divide, List.mem_flatMap]
  constructor
  · rintro ⟨source, member, part⟩
    split at part
    next same => exact .inl ⟨same ▸ member, part⟩
    next different =>
      rw [List.mem_singleton.mp part]
      exact .inr ⟨member, different⟩
  · rintro (⟨member, part⟩ | ⟨member, different⟩)
    · exact ⟨piece, member, by simpa using part⟩
    · exact ⟨other, member, by simp [different]⟩

/-- Parts that cover a piece take its place. -/
theorem Covers.divide (covers : Covers start pieces stop)
    (parts_cover : Covers piece.start parts (piece.start + piece.size)) :
    Covers start (divide pieces piece parts) stop := by
  induction pieces generalizing start with
  | nil => exact covers
  | cons head rest ih =>
      have more := ih covers.2
      rw [Tiles.divide, List.flatMap_cons]
      refine covers_append.mpr ⟨start + head.size, ?_, more⟩
      split
      next same =>
        subst same
        rwa [covers.1] at parts_cover
      next different => exact ⟨covers.1, rfl⟩

theorem within_refl (pieces : List Piece) : Within pieces pieces :=
  fun piece member => ⟨piece, member, Nat.le_refl _, Nat.le_refl _⟩

theorem Within.trans (first : Within before pieces) (second : Within pieces after) :
    Within before after := by
  intro piece member
  obtain ⟨whole, held, low, high⟩ := first piece member
  obtain ⟨wider, held', low', high'⟩ := second whole held
  exact ⟨wider, held', Nat.le_trans low' low, Nat.le_trans high high'⟩

theorem within_divide (parts_cover : Covers piece.start parts (piece.start + piece.size)) :
    Within (divide pieces piece parts) pieces := by
  intro part member
  rcases mem_divide.mp member with ⟨held, inside⟩ | ⟨held, -⟩
  · exact ⟨piece, held, parts_cover.bounds inside⟩
  · exact ⟨part, held, Nat.le_refl _, Nat.le_refl _⟩

end Tiles
