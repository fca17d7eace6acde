import SmartMeter.Atcmd.LineEnds

/-!
When a call of `parse_atcmd_line` keeps to the received bytes. It leaves them where `at+` is all
that is unread, so that the search for the line end starts at the write index, and where the cell
at the write index looks like the end of a line that was thrown away.
-/

namespace SmartMeter

open RingBuffer

namespace TlsUartCircBuf

variable {recv : TlsUartCircBuf}

/-- The tail stays between its old place and the write index, only unread bytes are copied, and a
command has at most 128 characters before its newline. -/
structure Within (recv : TlsUartCircBuf) (call : AtcmdCall) : Prop where
  tail : ∃ amount ≤ recv.count, call.recv = recv.drop amount
  copied : ∀ cell ∈ call.copied, ∃ index < recv.count, cell = (recv.tail + index) % tlsUartRxBufSize
  short : ∀ command ∈ call.command, command.length ≤ 128 + 1

/-- Where lines start, up to the first that is a command, incomplete or too long. -/
inductive LineStart (recv : TlsUartCircBuf) : Nat → Prop
  | here : LineStart recv 0
  | next {start first eol : Nat} : LineStart recv start → start + 3 ≤ recv.count →
      ¬AtPrefix (recv.drop start) → LineEnd (recv.drop start) (recv.count - start) first eol →
      eol ≤ 128 → LineStart recv (start + eol + 1)

structure LineOk (recv : TlsUartCircBuf) (start : Nat) : Prop where
  alone : AtPrefix (recv.drop start) → start + 3 = recv.count →
    (∀ cell < tlsUartRxBufSize, ¬IsEol (recv.cells cell)) ∨
      recv.count + 1 = tlsUartRxBufSize ∧ LineEnd (recv.drop recv.count) tlsUartRxBufSize 0 0
  command : AtPrefix (recv.drop start) → start + 3 < recv.count → ∀ first eol,
    LineEnd (recv.drop (start + 3)) (recv.count - (start + 3)) first eol → 3 + first ≤ 128
  junk : ¬AtPrefix (recv.drop start) → ∀ first eol,
    LineEnd (recv.drop start) (recv.count - start) first eol → 128 < eol →
      ¬IsEol (recv.cells recv.head)

def Clean (recv : TlsUartCircBuf) : Prop :=
  ∀ start, LineStart recv start → start + 3 ≤ recv.count → LineOk recv start

theorem discard_drop {start : Nat} (inside : start ≤ recv.count) :
    discard (recv.drop start) = recv.drop recv.count := by
  have whole := (recv.drop start).drop_count
  rw [recv.count_drop inside, Ring.drop_drop, Nat.add_sub_cancel' inside] at whole
  exact whole.symm

theorem within_of_drop {amount : Nat} (inside : amount ≤ recv.count) :
    recv.Within ⟨recv.drop amount, [], none, false⟩ :=
  ⟨⟨amount, inside, rfl⟩, nofun, nofun⟩

theorem passLine_within {start first eol : Nat} (alloc : Nat → Bool)
    (inside : start + 3 + eol ≤ recv.count)
    (cut : ∃ amount ≤ recv.count, cutLine ((recv.drop start).drop 3) eol = recv.drop amount)
    (short : 3 + first ≤ 128) : recv.Within (passLine alloc (recv.drop start) first eol) := by
  unfold passLine
  split
  · refine ⟨cut, ?_, ?_⟩
    · intro cell member
      obtain ⟨index, bound, rfl⟩ := List.mem_map.mp member
      have below := List.mem_range.mp bound
      refine ⟨start + index, by omega, ?_⟩
      simp only [Ring.drop, Nat.mod_add_mod, Nat.add_assoc]
    · intro command member
      cases member
      change 3 + first + 1 ≤ 128 + 1
      omega
  · refine ⟨cut, ?_, ?_⟩
    · intro cell member
      exact absurd member List.not_mem_nil
    · intro command member
      cases member

theorem parse_within_prefix {start : Nat} (alloc : Nat → Bool) (rounds : Nat)
    (many : start + 3 ≤ recv.count) (pre : AtPrefix (recv.drop start)) (ok : LineOk recv start) :
    ∃ call, parseLoop alloc (rounds + 1) (recv.drop start) = some call ∧ recv.Within call := by
  have count := recv.count_drop (by omega : start ≤ recv.count)
  have behind := recv.count_drop many
  rcases lineEnd_or_none ((recv.drop start).drop 3) with ⟨first, eol, line⟩ | missed
  · refine ⟨_, parseLoop_prefix_line (by omega) pre line, ?_⟩
    have bound := line.eol_lt
    have firstLe : first ≤ eol := line.first_le line.isEol_eol
    rw [Ring.drop_drop] at line bound
    by_cases alone : start + 3 = recv.count
    · rcases ok.alone pre alone with clear | ⟨full, here⟩
      · exact absurd line.isEol (clear _ (Nat.mod_lt _ (by decide)))
      · rw [span_of_count_zero (by omega), alone] at line
        obtain ⟨rfl, rfl⟩ := line.unique here
        refine passLine_within alloc (by omega) ⟨0, Nat.zero_le _, ?_⟩ (by decide)
        rw [cutLine, if_neg (by decide), Ring.drop_drop, Ring.drop_drop, ← Nat.add_assoc, alone,
          full, Ring.drop_size, Ring.drop_zero]
    · rw [span_eq_count _ (by omega), behind] at line bound
      have short := ok.command pre (by omega) first eol line
      have eolOr := line.eol_or
      refine passLine_within alloc (by omega) ⟨start + 3 + (eol + 1), by omega, ?_⟩ short
      rw [cutLine, if_neg (by omega), Ring.drop_drop, Ring.drop_drop, Nat.add_assoc]
  · refine ⟨_, parseLoop_prefix_none (by omega) pre missed, ?_⟩
    split
    · rw [discard_drop (by omega)]
      exact within_of_drop (Nat.le_refl _)
    · exact within_of_drop (by omega)

theorem parse_within (clean : recv.Clean) (alloc : Nat → Bool) {start : Nat} {rounds : Nat}
    (reached : LineStart recv start) (inside : start ≤ recv.count)
    (enough : recv.count - start + 2 ≤ rounds) :
    ∃ call, parseLoop alloc rounds (recv.drop start) = some call ∧ recv.Within call := by
  induction rounds generalizing start with
  | zero => omega
  | succ rounds ih =>
      have count := recv.count_drop inside
      by_cases many : start + 3 ≤ recv.count
      · have ok := clean start reached many
        by_cases pre : AtPrefix (recv.drop start)
        · exact parse_within_prefix alloc rounds many pre ok
        · have spanEq := span_eq_count (recv.drop start) (by omega)
          rcases lineEnd_or_none (recv.drop start) with ⟨first, eol, line⟩ | missed
          · have bound := line.eol_lt
            rw [spanEq] at line bound
            rw [parseLoop_junk (by omega) pre line, cutLine]
            rw [count] at line
            by_cases long : eol > 128
            · obtain ⟨rounds, rfl⟩ := Nat.exists_eq_add_of_le' (by omega : 1 ≤ rounds)
              have kept : jumpEol (discard (recv.drop start)) = discard (recv.drop start) :=
                if_neg (ok.junk pre first eol line long)
              have empty := recv.count_drop (Nat.le_refl recv.count)
              rw [if_pos long, kept, discard_drop inside, parseLoop_short (by omega)]
              exact ⟨_, rfl, within_of_drop (Nat.le_refl _)⟩
            · rw [if_neg long, Ring.drop_drop, ← Nat.add_assoc]
              exact ih (.next reached many pre line (by omega)) (by omega) (by omega)
          · obtain ⟨rounds, rfl⟩ := Nat.exists_eq_add_of_le' (by omega : 1 ≤ rounds)
            rw [spanEq] at missed
            rw [parseLoop_junk_none (by omega) pre missed, discard_drop inside]
            exact ⟨_, rfl, within_of_drop (Nat.le_refl _)⟩
      · rw [parseLoop_short (by omega)]
        exact ⟨_, rfl, within_of_drop inside⟩

/-! ### Calls that leave the received bytes -/

theorem parseLoop_reaches {alloc : Nat → Bool} {rounds start : Nat} {call : AtcmdCall}
    (reached : LineStart recv start) (ran : parseLoop alloc rounds recv = some call) :
    ∃ later, parseLoop alloc later (recv.drop start) = some call := by
  induction reached with
  | here => exact ⟨rounds, by rw [Ring.drop_zero]; exact ran⟩
  | @next start first eol reached many junk line short ih =>
      obtain ⟨later, ran⟩ := ih
      cases later with
      | zero => cases ran
      | succ later =>
          have count := recv.count_drop (by omega : start ≤ recv.count)
          rw [← count] at line
          rw [parseLoop_junk (by omega) junk line, cutLine, if_neg (by omega), Ring.drop_drop,
            ← Nat.add_assoc] at ran
          exact ⟨later, ran⟩

/-- Behind a line end there is no command before the first line that is not skipped. -/
theorem no_prefix_before {start : Nat} (reached : LineStart recv start) :
    ∀ place < start, place = 0 ∨ IsEol (recv.ahead (place - 1)) → ¬AtPrefix (recv.drop place) := by
  induction reached with
  | here => nofun
  | @next start first eol reached many junk line short ih =>
      intro place before behind pre
      have notEol := pre.not_isEol (by decide : 0 < 3)
      rw [Ring.ahead_drop, Nat.add_zero] at notEol
      rcases Nat.lt_trichotomy place start with earlier | rfl | later
      · exact ih place earlier behind pre
      · exact junk pre
      · have isEol := behind.resolve_left (by omega)
        have offset : place - 1 = start + (place - 1 - start) := by omega
        rw [offset, ← Ring.ahead_drop] at isEol
        have least := line.first_le isEol
        rcases line.eol_or with rfl | ⟨rfl, _⟩
        · omega
        · have last : place = start + (first + 1) := by omega
          rw [last, ← Ring.ahead_drop] at notEol
          exact notEol line.isEol_eol

theorem not_within_of_copied {call : AtcmdCall} (index : Nat) (past : recv.count ≤ index)
    (once : index < tlsUartRxBufSize)
    (member : (recv.tail + index) % tlsUartRxBufSize ∈ call.copied) : ¬recv.Within call := by
  intro within
  obtain ⟨count, below, same⟩ := within.copied _ member
  have bound := recv.count_lt
  have equal := Ring.offset_inj recv.tail_lt once (by omega) same
  omega

theorem mem_cells {count start : Nat} (index : Nat) (below : index < count) :
    (recv.tail + (start + index)) % tlsUartRxBufSize ∈
      Buffer.toList (fun index => ((recv.drop start).tail + index) % tlsUartRxBufSize) count := by
  refine List.mem_map.mpr ⟨index, List.mem_range.mpr below, ?_⟩
  simp only [Ring.drop, Nat.mod_add_mod, Nat.add_assoc]

/-- A search that starts at the write index takes a line out of what was there before. -/
theorem not_within_alone {rounds start : Nat} {call : AtcmdCall} (alone : start + 3 = recv.count)
    (pre : AtPrefix (recv.drop start))
    (ran : parseLoop (fun _ => true) rounds (recv.drop start) = some call)
    (within : recv.Within call) :
    (∀ cell < tlsUartRxBufSize, ¬IsEol (recv.cells cell)) ∨
      recv.count + 1 = tlsUartRxBufSize ∧
        LineEnd (recv.drop recv.count) tlsUartRxBufSize 0 0 := by
  have size : tlsUartRxBufSize = 4096 := rfl
  have tailBound := recv.tail_lt
  have count := recv.count_drop (by omega : start ≤ recv.count)
  have empty := recv.count_drop (Nat.le_refl recv.count)
  rcases lineEnd_or_none ((recv.drop start).drop 3) with ⟨first, eol, line⟩ | missed
  · right
    cases rounds with
    | zero => cases ran
    | succ rounds =>
        rw [parseLoop_prefix_line (by omega) pre line] at ran
        cases ran
        have past := prefix_eol_lt pre line (span_le _)
        rw [Ring.drop_drop, alone, span_of_count_zero (by omega)] at line
        by_cases here : eol = 0
        · subst here
          have least := line.first_le line.isEol_eol
          have firstEq : first = 0 := by omega
          subst firstEq
          refine ⟨?_, line⟩
          obtain ⟨amount, inside, same⟩ := within.tail
          have tail : (recv.tail + (recv.count + 1)) % tlsUartRxBufSize =
              (recv.tail + amount) % tlsUartRxBufSize := by
            have cut : cutLine ((recv.drop start).drop 3) 0 = recv.drop (recv.count + 1) := by
              rw [cutLine, if_neg (by decide), Ring.drop_drop, Ring.drop_drop, ← Nat.add_assoc, alone]
            exact congrArg Ring.tail (cut.symm.trans same)
          have bound := recv.count_lt
          apply Nat.le_antisymm bound
          apply Nat.le_of_not_lt
          intro room
          have equal := Ring.offset_inj recv.tail_lt room (by omega) tail
          omega
        · have stale : (recv.tail + (start + 3)) % tlsUartRxBufSize ∈
              (passLine (fun _ => true) (recv.drop start) first eol).copied :=
            mem_cells _ (by omega)
          rw [alone] at stale
          exact absurd within (not_within_of_copied _ (Nat.le_refl _) recv.count_lt stale)
  · left
    intro cell bound isEol
    rw [Ring.drop_drop, alone, span_of_count_zero (by omega)] at missed
    have headBound := (recv.drop recv.count).tail_lt
    have around : (recv.drop recv.count).tail + (cell + tlsUartRxBufSize -
        (recv.drop recv.count).tail) = cell + tlsUartRxBufSize := by omega
    have same : (recv.drop recv.count).ahead ((cell + tlsUartRxBufSize -
        (recv.drop recv.count).tail) % tlsUartRxBufSize) = recv.cells cell := by
      rw [Ring.ahead, Nat.add_mod_mod, around, Nat.add_mod_right, Nat.mod_eq_of_lt bound]
      rfl
    exact missed _ (Nat.mod_lt _ (by decide)) (same ▸ isEol)

section Lost

variable {start first eol : Nat} (reached : LineStart recv start) (many : start + 3 ≤ recv.count)
  (junk : ¬AtPrefix (recv.drop start))
  (line : LineEnd (recv.drop start) (recv.count - start) first eol) (long : 128 < eol)
  (headEol : IsEol (recv.cells recv.head))

theorem ahead_around (offset index : Nat) (whole : offset = tlsUartRxBufSize) :
    recv.ahead (offset + index) = recv.ahead index := by
  rw [whole, Nat.add_comm, Ring.ahead_add_size]

include headEol in
theorem jumpEol_discard (place : Nat) :
    jumpEol (discard (recv.drop place)) = recv.drop (recv.count + 1) := by
  have head : discard (recv.drop place) = recv.drop recv.count := recv.drop_count.symm
  rw [← Ring.drop_drop, ← head]
  exact if_pos headEol

include reached junk in
/-- In the pass over the whole buffer a command can only start in front of the unread bytes. -/
theorem place_before_unread {place : Nat} (most : recv.count + 1 + place ≤ tlsUartRxBufSize + start)
    (behind : place = 0 ∨ IsEol (recv.ahead (recv.count + 1 + (place - 1))))
    (pre : AtPrefix (recv.drop (recv.count + 1 + place))) :
    recv.count + 1 + place < tlsUartRxBufSize := by
  apply Nat.lt_of_not_le
  intro past
  obtain ⟨again, same⟩ := Nat.exists_eq_add_of_le past
  rw [same, ← Ring.drop_drop, Ring.drop_size] at pre
  by_cases last : again = start
  · exact junk (last ▸ pre)
  · refine no_prefix_before reached again (by omega) ?_ pre
    have bound := recv.count_lt
    rcases behind with zero | isEol
    · exact .inl (by omega)
    · by_cases first : again = 0
      · exact .inl first
      · have offset : recv.count + 1 + (place - 1) = tlsUartRxBufSize + (again - 1) := by omega
        rw [offset, ahead_around _ _ rfl] at isEol
        exact .inr isEol

include line in
theorem isEol_around : IsEol (recv.ahead (tlsUartRxBufSize + (start + eol))) := by
  have isEol := line.isEol_eol
  rwa [Ring.ahead_drop, ← ahead_around tlsUartRxBufSize _ rfl] at isEol

include reached many junk line long headEol

/-- The call goes through the whole buffer again and again, or takes a command out of it that
starts in front of the unread bytes. -/
theorem not_within_lost {rounds : Nat} {call : AtcmdCall} (place : Nat)
    (most : recv.count + 1 + place ≤ tlsUartRxBufSize + start)
    (behind : place = 0 ∨ IsEol (recv.ahead (recv.count + 1 + (place - 1))))
    (ran : parseLoop (fun _ => true) rounds (recv.drop (recv.count + 1 + place)) = some call) :
    ¬recv.Within call := by
  have size : tlsUartRxBufSize = 4096 := rfl
  have bound := line.eol_lt
  have around := isEol_around line
  induction rounds generalizing place with
  | zero => cases ran
  | succ rounds ih =>
      have left : (recv.drop (recv.count + 1 + place)).count = tlsUartRxBufSize - 1 - place := by
        have whole := recv.count_drop_past
        rw [← Ring.drop_drop, Ring.count_drop _ (by omega)]
        omega
      by_cases pre : AtPrefix (recv.drop (recv.count + 1 + place))
      · have early := place_before_unread reached junk most behind pre
        have behindPre := Ring.count_drop (recv.drop (recv.count + 1 + place)) (by omega : 3 ≤ _)
        rcases lineEnd_or_none ((recv.drop (recv.count + 1 + place)).drop 3) with
          ⟨first', eol', line'⟩ | missed
        · rw [parseLoop_prefix_line (by omega) pre line'] at ran
          cases ran
          exact not_within_of_copied (recv.count + 1 + place) (by omega) early
            (mem_cells 0 (by omega))
        · rw [span_eq_count _ (by omega)] at missed
          have here := missed (tlsUartRxBufSize + (start + eol) - (recv.count + 1 + place + 3))
            (by omega)
          rw [Ring.drop_drop, Ring.ahead_drop, Nat.add_sub_cancel' (by omega)] at here
          exact absurd around here
      · rcases lineEnd_or_none (recv.drop (recv.count + 1 + place)) with
          ⟨first', eol', line'⟩ | missed
        · rw [span_eq_count _ (by omega)] at line'
          rw [parseLoop_junk (by omega) pre line', cutLine] at ran
          by_cases far : eol' > 128
          · rw [if_pos far, jumpEol_discard headEol] at ran
            exact ih 0 (by omega) (.inl rfl) ran
          · rw [if_neg far, Ring.drop_drop, Nat.add_assoc _ place] at ran
            have isEol := line'.isEol_eol
            rw [Ring.ahead_drop] at isEol
            refine ih _ ?_ (.inr ?_) ran
            · apply Nat.le_of_not_lt
              intro beyond
              obtain ⟨beyondBy, same⟩ := Nat.exists_eq_add_of_le
                (by omega : tlsUartRxBufSize + start ≤ recv.count + 1 + place + eol')
              rw [same, Nat.add_assoc, ahead_around _ _ rfl, ← Ring.ahead_drop] at isEol
              have least := line.first_le isEol
              have eolOr := line.eol_or
              have start' : recv.count + 1 + place = tlsUartRxBufSize + start := by omega
              have spans : (recv.drop (recv.count + 1 + place)).count = recv.count - start := by omega
              rw [spans, start', ← Ring.drop_drop, Ring.drop_size] at line'
              have equal := (line.unique line').2
              omega
            · rw [← Nat.add_assoc, Nat.add_sub_cancel, ← Nat.add_assoc]
              exact isEol
        · rw [span_eq_count _ (by omega)] at missed
          have here := missed (tlsUartRxBufSize + (start + eol) - (recv.count + 1 + place)) (by omega)
          rw [Ring.ahead_drop, Nat.add_sub_cancel' (by omega)] at here
          exact absurd around here

end Lost

theorem clean_of_within {rounds : Nat} {call : AtcmdCall}
    (ran : parseLoop (fun _ => true) rounds recv = some call) (within : recv.Within call) :
    recv.Clean := by
  intro start reached many
  obtain ⟨later, ran⟩ := parseLoop_reaches reached ran
  have size : tlsUartRxBufSize = 4096 := rfl
  have bound := recv.count_lt
  have count := recv.count_drop (by omega : start ≤ recv.count)
  have behind := recv.count_drop many
  refine ⟨?_, ?_, ?_⟩
  · intro pre alone
    exact not_within_alone alone pre ran within
  · intro pre more first eol line
    cases later with
    | zero => cases ran
    | succ later =>
        rw [← behind, ← span_eq_count _ (by omega), ← Ring.drop_drop] at line
        rw [parseLoop_prefix_line (by omega) pre line] at ran
        cases ran
        have short := within.short _ rfl
        exact Nat.le_of_succ_le_succ short
  · intro junk first eol line long headEol
    cases later with
    | zero => cases ran
    | succ later =>
        have restarted := ran
        rw [parseLoop_junk (by omega) junk (count ▸ line), cutLine, if_pos long,
          jumpEol_discard headEol] at restarted
        exact not_within_lost reached many junk line long headEol 0 (by omega) (.inl rfl)
          restarted within

/-- Whatever allocations do, a call keeps to the received bytes and passes on no long line exactly
if no line that it comes to is a lone `at+` with a line end somewhere in the buffer, a command
that is too long, or a line without `at+` that is thrown away in front of a line end. -/
theorem parse_within_iff (recv : TlsUartCircBuf) :
    (∀ alloc, ∃ rounds call, parseLoop alloc rounds recv = some call ∧ recv.Within call) ↔
      recv.Clean := by
  constructor
  · intro every
    obtain ⟨_, call, ran, within⟩ := every fun _ => true
    exact clean_of_within ran within
  · intro clean alloc
    obtain ⟨call, ran, within⟩ := parse_within clean alloc .here (Nat.zero_le _) (Nat.le_refl _)
    rw [Ring.drop_zero] at ran
    exact ⟨_, call, ran, within⟩

/-- A lone `at+` with a line end behind it that was read before. -/
def stalePrefix : TlsUartCircBuf where
  cells := fun cell => [65, 84, 43, 90, 13].getD cell 0
  head := 3
  tail := 0
  head_lt := by decide
  tail_lt := tlsUartRxBufSize_pos

theorem stale_line_copied :
    ¬∀ alloc, ∃ rounds call, parseLoop alloc rounds stalePrefix = some call ∧
      stalePrefix.Within call := by
  intro every
  obtain ⟨_, call, ran, within⟩ := every fun _ => true
  have ok := clean_of_within ran within 0 .here (by decide)
  rcases ok.alone (by decide) (by decide) with clear | ⟨full, _⟩
  · exact clear 4 (by decide) (by decide)
  · exact absurd full (by decide)

end TlsUartCircBuf

end SmartMeter
