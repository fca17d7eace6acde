import SmartMeter.Atcmd.AtcmdCore

/-!
Where a line of the ring ends. The end is the first `\r` or `\n`, or the second of two different
ones that follow each other, unless the last cell of the buffer stands between them.
-/

namespace SmartMeter

open RingBuffer

def IsEol (value : UInt8) : Prop := value = 13 ∨ value = 10

instance (value : UInt8) : Decidable (IsEol value) := inferInstanceAs (Decidable (_ ∨ _))

def EolPair (first second : UInt8) : Prop := first = 13 ∧ second = 10 ∨ first = 10 ∧ second = 13

instance (first second : UInt8) : Decidable (EolPair first second) :=
  inferInstanceAs (Decidable (_ ∨ _))

theorem EolPair.right {first second : UInt8} (pair : EolPair first second) : IsEol second := by
  rcases pair with ⟨_, lf⟩ | ⟨_, cr⟩
  · exact .inr lf
  · exact .inl cr

section Search

variable {cells : Nat → UInt8} {value : UInt8}

theorem memchr_eq_none {src len : Nat} (missed : memchr cells value src len = none) :
    ∀ index, src ≤ index → index < src + len → cells index ≠ value := by
  induction len generalizing src with
  | zero =>
      intro index lower upper
      omega
  | succ len ih =>
      intro index lower upper
      rw [memchr] at missed
      split at missed
      · cases missed
      · rename_i other
        by_cases first : index = src
        · rw [first]
          exact other
        · exact ih missed index (by omega) (by omega)

theorem memchr_eq_some {src len place : Nat} (found : memchr cells value src len = some place) :
    src ≤ place ∧ place < src + len ∧ cells place = value ∧
      ∀ index, src ≤ index → index < place → cells index ≠ value := by
  induction len generalizing src with
  | zero => cases found
  | succ len ih =>
      rw [memchr] at found
      split at found
      · rename_i here
        cases found
        refine ⟨Nat.le_refl _, by omega, here, ?_⟩
        intro index lower upper
        omega
      · rename_i other
        obtain ⟨lower, upper, same, before⟩ := ih found
        refine ⟨by omega, by omega, same, ?_⟩
        intro index least below
        by_cases first : index = src
        · rw [first]
          exact other
        · exact before index (by omega) below

/-- The line end that `find_atcmd_eol` looks for in a part of the buffer. -/
structure EolFound (cells : Nat → UInt8) (src len first eol : Nat) : Prop where
  lower : src ≤ first
  upper : first < src + len
  isEol : IsEol (cells first)
  before : ∀ index, src ≤ index → index < first → ¬IsEol (cells index)
  eol : eol = if first + 1 < src + len ∧ EolPair (cells first) (cells (first + 1)) then first + 1
    else first

theorem findAtcmdEol_cases (cells : Nat → UInt8) (src len : Nat) :
    (∃ first eol, EolFound cells src len first eol ∧ findAtcmdEol cells src len = some eol) ∨
      (∀ index, src ≤ index → index < src + len → ¬IsEol (cells index)) ∧
        findAtcmdEol cells src len = none := by
  unfold findAtcmdEol
  cases cr : memchr cells 13 src len with
  | none =>
      have noCr := memchr_eq_none cr
      cases lf : memchr cells 10 src len with
      | none =>
          have noLf := memchr_eq_none lf
          refine .inr ⟨?_, rfl⟩
          rintro index lower upper (eol | eol)
          · exact noCr index lower upper eol
          · exact noLf index lower upper eol
      | some q =>
          obtain ⟨lower, upper, same, before⟩ := memchr_eq_some lf
          refine .inl ⟨q, q, ⟨lower, upper, .inr same, ?_, ?_⟩, rfl⟩
          · rintro index least below (eol | eol)
            · exact noCr index least (by omega) eol
            · exact before index least below eol
          · rw [if_neg]
            rintro ⟨further, ⟨first, _⟩ | ⟨_, second⟩⟩
            · exact noCr q lower upper first
            · exact noCr (q + 1) (by omega) further second
  | some p =>
      obtain ⟨lowerP, upperP, sameP, beforeP⟩ := memchr_eq_some cr
      cases lf : memchr cells 10 src len with
      | none =>
          have noLf := memchr_eq_none lf
          refine .inl ⟨p, p, ⟨lowerP, upperP, .inl sameP, ?_, ?_⟩, rfl⟩
          · rintro index least below (eol | eol)
            · exact beforeP index least below eol
            · exact noLf index least (by omega) eol
          · rw [if_neg]
            rintro ⟨further, ⟨_, second⟩ | ⟨first, _⟩⟩
            · exact noLf (p + 1) (by omega) further second
            · exact noLf p lowerP upperP first
      | some q =>
          obtain ⟨lowerQ, upperQ, sameQ, beforeQ⟩ := memchr_eq_some lf
          have apart : p ≠ q := by
            rintro rfl
            rw [sameP] at sameQ
            exact absurd sameQ (by decide)
          left
          rcases Nat.lt_or_gt_of_ne apart with crFirst | lfFirst
          · refine ⟨p, if q = p + 1 then q else p, ⟨lowerP, upperP, .inl sameP, ?_, ?_⟩, ?_⟩
            · rintro index least below (eol | eol)
              · exact beforeP index least below eol
              · exact beforeQ index least (by omega) eol
            · by_cases next : q = p + 1
              · rw [if_pos next, if_pos ⟨by omega, .inl ⟨sameP, next ▸ sameQ⟩⟩, next]
              · rw [if_neg next, if_neg]
                rintro ⟨further, ⟨_, second⟩ | ⟨first, _⟩⟩
                · exact beforeQ (p + 1) (by omega) (by omega) second
                · exact beforeQ p lowerP crFirst first
            · dsimp only
              by_cases next : q = p + 1
              · rw [if_neg (by omega), if_neg (by omega), if_neg (by omega), if_pos next, if_pos next]
              · rw [if_neg (by omega), if_pos (by omega), if_neg next]
          · refine ⟨q, if p = q + 1 then p else q, ⟨lowerQ, upperQ, .inr sameQ, ?_, ?_⟩, ?_⟩
            · rintro index least below (eol | eol)
              · exact beforeP index least (by omega) eol
              · exact beforeQ index least below eol
            · by_cases next : p = q + 1
              · rw [if_pos next, if_pos ⟨by omega, .inr ⟨sameQ, next ▸ sameP⟩⟩, next]
              · rw [if_neg next, if_neg]
                rintro ⟨further, ⟨first, _⟩ | ⟨_, second⟩⟩
                · exact beforeP q lowerQ lfFirst first
                · exact beforeP (q + 1) (by omega) (by omega) second
            · dsimp only
              by_cases next : p = q + 1
              · rw [if_neg (by omega), if_neg (by omega), if_pos next, if_pos next]
              · rw [if_pos (by omega), if_neg next]

end Search

namespace TlsUartCircBuf

variable {recv : TlsUartCircBuf}

/-- How far the search for a line end goes: when nothing is unread, it goes through the whole
buffer. -/
def span (recv : TlsUartCircBuf) : Nat :=
  if recv.head = recv.tail then tlsUartRxBufSize else recv.count

structure LineEnd (recv : TlsUartCircBuf) (span first eol : Nat) : Prop where
  inside : first < span
  isEol : IsEol (recv.ahead first)
  before : ∀ index < first, ¬IsEol (recv.ahead index)
  eol : eol = if first + 1 < span ∧ recv.tail + first + 1 ≠ tlsUartRxBufSize ∧
      EolPair (recv.ahead first) (recv.ahead (first + 1)) then first + 1 else first

def cutLine (recv : TlsUartCircBuf) (eol : Nat) : TlsUartCircBuf :=
  if eol > 128 then jumpEol (discard recv) else recv.drop (eol + 1)

namespace LineEnd

variable {span first eol : Nat}

theorem eol_or (line : LineEnd recv span first eol) :
    eol = first ∨ eol = first + 1 ∧ first + 1 < span := by
  have eolEq := line.eol
  split at eolEq
  · rename_i pair
    exact .inr ⟨eolEq, pair.1⟩
  · exact .inl eolEq

theorem eol_lt (line : LineEnd recv span first eol) : eol < span := by
  have inside := line.inside
  rcases line.eol_or with same | ⟨next, further⟩ <;> omega

theorem isEol_eol (line : LineEnd recv span first eol) : IsEol (recv.ahead eol) := by
  have eolEq := line.eol
  split at eolEq
  · rename_i pair
    rw [eolEq]
    exact pair.2.2.right
  · rw [eolEq]
    exact line.isEol

theorem first_le (line : LineEnd recv span first eol) {index : Nat}
    (isEol : IsEol (recv.ahead index)) : first ≤ index :=
  Nat.le_of_not_lt fun below => line.before index below isEol

theorem unique (line : LineEnd recv span first eol) {first' eol' : Nat}
    (other : LineEnd recv span first' eol') : first = first' ∧ eol = eol' := by
  have same : first = first' :=
    Nat.le_antisymm (line.first_le other.isEol) (other.first_le line.isEol)
  subst same
  exact ⟨rfl, line.eol.trans other.eol.symm⟩

end LineEnd

theorem ahead_below {index : Nat} (below : recv.tail + index < tlsUartRxBufSize) :
    recv.ahead index = recv.cells (recv.tail + index) := by
  rw [Ring.ahead, Nat.mod_eq_of_lt below]

theorem ahead_wrapped {index : Nat} (past : tlsUartRxBufSize ≤ recv.tail + index)
    (once : recv.tail + index < 2 * tlsUartRxBufSize) :
    recv.ahead index = recv.cells (recv.tail + index - tlsUartRxBufSize) := by
  rw [Ring.ahead, Ring.wrap_once once, if_neg (by omega)]

theorem jumpEol_modifyAtcmdTail {eol : Nat} (isEol : IsEol (recv.ahead eol)) :
    jumpEol (modifyAtcmdTail recv (recv.tail + eol)) = cutLine recv eol := by
  rw [modifyAtcmdTail, cutLine, Nat.add_sub_cancel_left]
  split
  · rfl
  · rw [jumpEol]
    exact (if_pos isEol).trans (Ring.drop_drop ..)

theorem LineEnd.of_below {len first eol : Nat}
    (found : EolFound recv.cells recv.tail len first eol)
    (inside : recv.tail + len ≤ tlsUartRxBufSize) {span : Nat} (fits : len ≤ span)
    (whole : len = span ∧ recv.tail + len < tlsUartRxBufSize ∨ recv.tail + len = tlsUartRxBufSize) :
    LineEnd recv span (first - recv.tail) (eol - recv.tail) := by
  have size : tlsUartRxBufSize = 4096 := rfl
  obtain ⟨lower, upper, isEol, before, eolEq⟩ := found
  have cell : recv.ahead (first - recv.tail) = recv.cells first := by
    rw [ahead_below (by omega), Nat.add_sub_cancel' lower]
  refine ⟨by omega, cell ▸ isEol, ?_, ?_⟩
  · intro index below
    rw [ahead_below (by omega)]
    exact before _ (by omega) (by omega)
  · rw [cell]
    by_cases further : first + 1 < recv.tail + len
    · have next : recv.ahead (first - recv.tail + 1) = recv.cells (first + 1) := by
        rw [ahead_below (by omega), ← Nat.add_assoc, Nat.add_sub_cancel' lower]
      rw [next]
      by_cases pair : EolPair (recv.cells first) (recv.cells (first + 1))
      · rw [if_pos ⟨further, pair⟩] at eolEq
        rw [if_pos ⟨by omega, by omega, pair⟩]
        omega
      · rw [if_neg (fun both => pair both.2)] at eolEq
        rw [if_neg (fun all => pair all.2.2), eolEq]
    · rw [if_neg (fun both => further both.1)] at eolEq
      rw [if_neg (by rintro ⟨_, _, _⟩; omega), eolEq]

theorem LineEnd.of_wrapped {first eol : Nat} (found : EolFound recv.cells 0 recv.head first eol)
    (wrapped : recv.head ≤ recv.tail)
    (none : ∀ index, recv.tail ≤ index → index < tlsUartRxBufSize → ¬IsEol (recv.cells index)) :
    LineEnd recv (recv.head + tlsUartRxBufSize - recv.tail) (first + tlsUartRxBufSize - recv.tail)
      (eol + tlsUartRxBufSize - recv.tail) := by
  have size : tlsUartRxBufSize = 4096 := rfl
  have tailBound := recv.tail_lt
  obtain ⟨lower, upper, isEol, before, eolEq⟩ := found
  have cell (index : Nat) (inside : index < recv.head) :
      recv.ahead (index + tlsUartRxBufSize - recv.tail) = recv.cells index := by
    have same : recv.tail + (index + tlsUartRxBufSize - recv.tail) - tlsUartRxBufSize = index := by
      omega
    rw [ahead_wrapped (by omega) (by omega), same]
  have nextCell : first + tlsUartRxBufSize - recv.tail + 1 =
      first + 1 + tlsUartRxBufSize - recv.tail := by omega
  refine ⟨by omega, cell first (by omega) ▸ isEol, ?_, ?_⟩
  · intro index below
    by_cases low : recv.tail + index < tlsUartRxBufSize
    · rw [ahead_below low]
      exact none _ (by omega) low
    · rw [ahead_wrapped (by omega) (by omega)]
      exact before _ (by omega) (by omega)
  · rw [cell first (by omega), nextCell]
    by_cases further : first + 1 < recv.head
    · rw [cell (first + 1) further]
      by_cases pair : EolPair (recv.cells first) (recv.cells (first + 1))
      · rw [if_pos ⟨by omega, pair⟩] at eolEq
        rw [if_pos ⟨by omega, by omega, pair⟩, eolEq]
      · rw [if_neg (fun both => pair both.2)] at eolEq
        rw [if_neg (fun all => pair all.2.2), eolEq]
    · rw [if_neg (by rintro ⟨_, _⟩; omega)] at eolEq
      rw [if_neg (by rintro ⟨_, _, _⟩; omega), eolEq]

theorem span_of_ahead (before : recv.tail < recv.head) :
    span recv = recv.head - recv.tail ∧ recv.tail + span recv < tlsUartRxBufSize := by
  have headBound := recv.head_lt
  have count := recv.count_eq
  rw [if_pos (Nat.le_of_lt before)] at count
  rw [span, if_neg (by omega), count]
  omega

theorem span_of_wrapped (wrapped : recv.head ≤ recv.tail) :
    span recv = recv.head + tlsUartRxBufSize - recv.tail := by
  have count := recv.count_eq
  rw [span]
  split
  · omega
  · rw [count, if_neg (by omega)]

theorem span_pos (recv : TlsUartCircBuf) : 0 < span recv := by
  have tailBound := recv.tail_lt
  by_cases before : recv.tail < recv.head
  · have ahead := (span_of_ahead before).1
    omega
  · have wrapped := span_of_wrapped (Nat.le_of_not_lt before)
    omega

theorem jumpEol_of_none (none : ¬IsEol (recv.ahead 0)) : jumpEol recv = recv := by
  have here : recv.ahead 0 = recv.cells recv.tail := by
    rw [ahead_below recv.tail_lt, Nat.add_zero]
  rw [here] at none
  exact if_neg none

theorem parseAtcmdEol_cases (recv : TlsUartCircBuf) :
    (∃ first eol, LineEnd recv (span recv) first eol ∧
      parseAtcmdEol recv = (some ((recv.tail + eol) % tlsUartRxBufSize), cutLine recv eol)) ∨
    (∀ index < span recv, ¬IsEol (recv.ahead index)) ∧ parseAtcmdEol recv = (none, recv) := by
  have size : tlsUartRxBufSize = 4096 := rfl
  have headBound := recv.head_lt
  have tailBound := recv.tail_lt
  by_cases before : recv.head > recv.tail
  · have spanEq := span_of_ahead before
    rcases findAtcmdEol_cases recv.cells recv.tail (recv.head - recv.tail) with
      ⟨first, eol, found, result⟩ | ⟨missed, result⟩
    · have line : LineEnd recv (span recv) (first - recv.tail) (eol - recv.tail) :=
        .of_below found (by omega) (by omega) (.inl ⟨by omega, by omega⟩)
      have later : recv.tail + (eol - recv.tail) = eol := by
        have lower := found.lower
        have eolEq := found.eol
        split at eolEq <;> omega
      have bound := line.eol_lt
      refine .inl ⟨_, _, line, ?_⟩
      rw [← jumpEol_modifyAtcmdTail line.isEol_eol, later, Nat.mod_eq_of_lt (by omega)]
      simp only [parseAtcmdEol, if_pos before, result]
    · have none : ∀ index < span recv, ¬IsEol (recv.ahead index) := by
        intro index below
        rw [ahead_below (by omega)]
        exact missed _ (by omega) (by omega)
      refine .inr ⟨none, ?_⟩
      simp only [parseAtcmdEol, if_pos before, result, jumpEol_of_none (none 0 (span_pos recv))]
  · have spanEq := span_of_wrapped (Nat.le_of_not_lt before)
    rcases findAtcmdEol_cases recv.cells recv.tail (tlsUartRxBufSize - recv.tail) with
      ⟨first, eol, found, result⟩ | ⟨missed, result⟩
    · have line : LineEnd recv (span recv) (first - recv.tail) (eol - recv.tail) :=
        .of_below found (by omega) (by omega) (.inr (by omega))
      have later : recv.tail + (eol - recv.tail) = eol ∧ eol < tlsUartRxBufSize := by
        have lower := found.lower
        have upper := found.upper
        have eolEq := found.eol
        split at eolEq <;> omega
      refine .inl ⟨_, _, line, ?_⟩
      rw [← jumpEol_modifyAtcmdTail line.isEol_eol, later.1, Nat.mod_eq_of_lt later.2]
      simp only [parseAtcmdEol, if_neg before, result]
    · have low : ∀ index, recv.tail ≤ index → index < tlsUartRxBufSize →
          ¬IsEol (recv.cells index) := by
        intro index lower upper
        exact missed index lower (by omega)
      rcases findAtcmdEol_cases recv.cells 0 recv.head with
        ⟨first, eol, found, resultHigh⟩ | ⟨missedHigh, resultHigh⟩
      · have line := LineEnd.of_wrapped found (Nat.le_of_not_lt before) low
        rw [← spanEq] at line
        have bound := line.eol_lt
        have later : recv.tail + (eol + tlsUartRxBufSize - recv.tail) = eol + tlsUartRxBufSize := by
          omega
        refine .inl ⟨_, _, line, ?_⟩
        rw [← jumpEol_modifyAtcmdTail line.isEol_eol, later, Nat.add_mod_right,
          Nat.mod_eq_of_lt (by omega)]
        simp only [parseAtcmdEol, if_neg before, result, resultHigh]
      · have none : ∀ index < span recv, ¬IsEol (recv.ahead index) := by
          intro index below
          by_cases inside : recv.tail + index < tlsUartRxBufSize
          · rw [ahead_below inside]
            exact low _ (by omega) inside
          · rw [ahead_wrapped (by omega) (by omega)]
            exact missedHigh _ (Nat.zero_le _) (by omega)
        refine .inr ⟨none, ?_⟩
        simp only [parseAtcmdEol, if_neg before, result, resultHigh,
          jumpEol_of_none (none 0 (span_pos recv))]

/-! ### The rounds of `parse_atcmd_line` -/

theorem span_le (recv : TlsUartCircBuf) : span recv ≤ tlsUartRxBufSize := by
  have countBound := recv.count_lt
  unfold span
  split <;> omega

theorem span_eq_count (recv : TlsUartCircBuf) (filled : 0 < recv.count) : span recv = recv.count := by
  apply if_neg
  intro met
  rw [Ring.count_eq, met] at filled
  simp at filled

theorem span_of_count_zero (empty : recv.count = 0) : span recv = tlsUartRxBufSize := by
  have headBound := recv.head_lt
  have tailBound := recv.tail_lt
  rw [Ring.count_eq] at empty
  apply if_pos
  split at empty <;> omega

theorem AtPrefix.not_isEol (pre : AtPrefix recv) {index : Nat} (bound : index < 3) :
    ¬IsEol (recv.ahead index) := by
  obtain ⟨first, second, third⟩ := pre
  have : index = 0 ∨ index = 1 ∨ index = 2 := by omega
  rcases this with rfl | rfl | rfl
  · rcases first with same | same <;> rw [same] <;> decide
  · rcases second with same | same <;> rw [same] <;> decide
  · rw [third]
    decide

section Prefix

variable {span first eol : Nat} (pre : AtPrefix recv) (line : LineEnd (recv.drop 3) span first eol)

include pre line

theorem prefix_not_isEol {index : Nat} (bound : index < 3 + first) : ¬IsEol (recv.ahead index) := by
  by_cases inside : index < 3
  · exact pre.not_isEol inside
  · have before := line.before (index - 3) (by omega)
    rwa [Ring.ahead_drop, Nat.add_sub_cancel' (by omega)] at before

theorem prefix_eol_lt (whole : span ≤ tlsUartRxBufSize) : 3 + eol < tlsUartRxBufSize := by
  have size : tlsUartRxBufSize = 4096 := rfl
  apply Nat.lt_of_not_le
  intro past
  have bound := line.eol_lt
  have isEol := line.isEol_eol
  have around : 3 + eol = 3 + eol - tlsUartRxBufSize + tlsUartRxBufSize := by omega
  rw [Ring.ahead_drop, around, Ring.ahead_add_size] at isEol
  exact pre.not_isEol (by omega) isEol

/-- The command is the line up to its end, with one newline. -/
theorem closeCommand_line : closeCommand (Buffer.toList recv.ahead (3 + eol)) =
    ⟨Buffer.toList recv.ahead (3 + first) ++ [10, 0], 3 + first + 1⟩ := by
  have value {count index : Nat} (inside : index < count) :
      (Buffer.toList recv.ahead count).getD index 0 = recv.ahead index := by
    simp [Buffer.toList, inside]
  have early : ¬IsEol ((Buffer.toList recv.ahead (3 + eol)).getD (3 + eol - 2) 0) := by
    have eolOr := line.eol_or
    rw [value (by omega)]
    exact prefix_not_isEol pre line (by omega)
  unfold IsEol at early
  unfold closeCommand
  dsimp only
  rw [Buffer.toList_length, if_neg early]
  rcases line.eol_or with rfl | ⟨rfl, _⟩
  · have last : ¬IsEol ((Buffer.toList recv.ahead (3 + eol)).getD (3 + eol - 1) 0) := by
      rw [value (by omega)]
      exact prefix_not_isEol pre line (by omega)
    unfold IsEol at last
    rw [if_neg last]
  · have last : IsEol ((Buffer.toList recv.ahead (3 + (first + 1))).getD (3 + (first + 1) - 1) 0) := by
      rw [value (by omega), show 3 + (first + 1) - 1 = 3 + first by omega, ← Ring.ahead_drop]
      exact line.isEol
    unfold IsEol at last
    rw [if_pos last, show 3 + (first + 1) - 1 = 3 + first by omega,
      Buffer.take_toList recv.ahead (by omega)]
    rfl

end Prefix

theorem lineCells_eq {start len : Nat} (inside : start < tlsUartRxBufSize)
    (bound : len < tlsUartRxBufSize) :
    lineCells start ((start + len) % tlsUartRxBufSize) =
      Buffer.toList (fun index => (start + index) % tlsUartRxBufSize) len := by
  unfold lineCells Buffer.toList
  rw [Ring.wrap_once (by omega)]
  split
  · rename_i below
    rw [if_pos (by omega), Nat.add_sub_cancel_left, List.range'_eq_map_range]
    apply List.map_congr_left
    intro index member
    have := List.mem_range.mp member
    rw [Nat.mod_eq_of_lt (by omega)]
  · rename_i past
    have parts : len = tlsUartRxBufSize - start + (start + len - tlsUartRxBufSize) := by omega
    have tailLen : tlsUartRxBufSize - 1 - start + 1 = tlsUartRxBufSize - start := by omega
    rw [if_neg (by omega)]
    dsimp only
    conv => rhs; rw [parts]
    rw [tailLen, List.range_add, List.map_append, List.map_map, List.range'_eq_map_range]
    apply congrArg₂ (· ++ ·)
    · apply List.map_congr_left
      intro index member
      have := List.mem_range.mp member
      rw [Nat.mod_eq_of_lt (by omega)]
    · conv => lhs; rw [← List.map_id (List.range _)]
      apply List.map_congr_left
      intro index member
      have := List.mem_range.mp member
      have around : start + (tlsUartRxBufSize - start + index) = index + tlsUartRxBufSize := by omega
      simp only [id_eq, Function.comp_apply]
      rw [around, Nat.add_mod_right, Nat.mod_eq_of_lt (by omega)]

section Rounds

variable {alloc : Nat → Bool} {rounds : Nat} {first eol : Nat}

theorem parseLoop_short (few : recv.count < 3) :
    parseLoop alloc (rounds + 1) recv = some ⟨recv, [], none, false⟩ := by
  rw [parseLoop, cnt_eq_count, if_neg (by omega)]

theorem parseLoop_prefix_none (many : 3 ≤ recv.count) (pre : AtPrefix recv)
    (none : ∀ index < span (recv.drop 3), ¬IsEol ((recv.drop 3).ahead index)) :
    parseLoop alloc (rounds + 1) recv =
      some ⟨if recv.count > 131 then discard recv else recv, [], .none, false⟩ := by
  have result : parseAtcmdEol (recv.drop 3) = (.none, recv.drop 3) := by
    rcases parseAtcmdEol_cases (recv.drop 3) with ⟨first, _, line, _⟩ | ⟨_, result⟩
    · exact absurd line.isEol (none first line.inside)
    · exact result
  have count := recv.count_drop many
  have back : (recv.drop 3).drop (tlsUartRxBufSize - 3) = recv := by
    rw [Ring.drop_drop]
    exact recv.drop_size
  rw [parseLoop, cnt_eq_count, if_pos many, if_pos pre, result]
  dsimp only
  rw [cnt_eq_count, count, back]
  by_cases long : recv.count > 131
  · rw [if_pos long, if_pos (by omega)]
    rfl
  · rw [if_neg long, if_neg (by omega)]

def passLine (alloc : Nat → Bool) (recv : TlsUartCircBuf) (first eol : Nat) : AtcmdCall :=
  if alloc (3 + eol + 2) then
    ⟨cutLine (recv.drop 3) eol,
      Buffer.toList (fun index => (recv.tail + index) % tlsUartRxBufSize) (3 + eol),
      some ⟨Buffer.toList recv.ahead (3 + first) ++ [10, 0], 3 + first + 1⟩,
      decide (0 < (cutLine (recv.drop 3) eol).count)⟩
  else ⟨cutLine (recv.drop 3) eol, [], none, false⟩

theorem parseLoop_prefix_line (many : 3 ≤ recv.count) (pre : AtPrefix recv)
    (line : LineEnd (recv.drop 3) (span (recv.drop 3)) first eol) :
    parseLoop alloc (rounds + 1) recv = some (passLine alloc recv first eol) := by
  have result : parseAtcmdEol (recv.drop 3) =
      (some ((recv.tail + (3 + eol)) % tlsUartRxBufSize), cutLine (recv.drop 3) eol) := by
    rcases parseAtcmdEol_cases (recv.drop 3) with ⟨first', eol', other, result⟩ | ⟨missed, _⟩
    · obtain ⟨rfl, rfl⟩ := line.unique other
      rw [result]
      simp only [Ring.drop, Nat.mod_add_mod, Nat.add_assoc]
    · exact absurd line.isEol (missed first line.inside)
  have cells := lineCells_eq recv.tail_lt (prefix_eol_lt pre line (span_le _))
  have bytes : (Buffer.toList (fun index => (recv.tail + index) % tlsUartRxBufSize) (3 + eol)).map
      recv.cells = Buffer.toList recv.ahead (3 + eol) := List.map_map ..
  rw [parseLoop, cnt_eq_count, if_pos many, if_pos pre, result]
  dsimp only
  rw [cells, bytes, closeCommand_line pre line, Buffer.toList_length, cnt_eq_count, passLine]
  split <;> rfl

theorem parseLoop_junk (many : 3 ≤ recv.count) (junk : ¬AtPrefix recv)
    (line : LineEnd recv recv.count first eol) :
    parseLoop alloc (rounds + 1) recv = parseLoop alloc rounds (cutLine recv eol) := by
  have spanEq := span_eq_count recv (by omega)
  rw [parseLoop, cnt_eq_count, if_pos many, if_neg junk]
  rcases parseAtcmdEol_cases recv with ⟨first', eol', other, result⟩ | ⟨missed, _⟩
  · rw [spanEq] at other
    obtain ⟨rfl, rfl⟩ := line.unique other
    rw [result]
  · rw [spanEq] at missed
    exact absurd line.isEol (missed first line.inside)

theorem parseLoop_junk_none (many : 3 ≤ recv.count) (junk : ¬AtPrefix recv)
    (none : ∀ index < recv.count, ¬IsEol (recv.ahead index)) :
    parseLoop alloc (rounds + 2) recv = some ⟨discard recv, [], .none, false⟩ := by
  have spanEq := span_eq_count recv (by omega)
  have empty : (discard recv).count = 0 := by
    rw [Ring.count_eq]
    simp [discard]
  rw [parseLoop, cnt_eq_count, if_pos many, if_neg junk]
  rcases parseAtcmdEol_cases recv with ⟨first, _, line, _⟩ | ⟨_, result⟩
  · rw [spanEq] at line
    exact absurd line.isEol (none first line.inside)
  · rw [result]
    exact parseLoop_short (by omega)

end Rounds

theorem lineEnd_or_none (recv : TlsUartCircBuf) :
    (∃ first eol, LineEnd recv (span recv) first eol) ∨
      ∀ index < span recv, ¬IsEol (recv.ahead index) := by
  rcases parseAtcmdEol_cases recv with ⟨first, eol, line, _⟩ | ⟨missed, _⟩
  · exact .inl ⟨first, eol, line⟩
  · exact .inr missed

end TlsUartCircBuf

end SmartMeter
