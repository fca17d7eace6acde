import SmartMeter.Platform.UartCore

/-!
The look back for `+++` at the end of the receive part of `UART1_IRQHandler`.
-/

namespace SmartMeter

open RingBuffer

/-- What `recv->buf` is read with at an index: a cell, or memory around the cells. -/
def readCell (recv : TlsUartCircBuf) (outside : UInt32 → UInt8) (index : UInt32) : UInt8 :=
  if index.toNat < tlsUartRxBufSize then recv.cells index.toNat else outside index

structure EscapeCheck where
  plusCharCnt : Nat
  inspected : List UInt32

/-- The two tests behind the last byte; the second is made only if the first holds. -/
def lookBack (recv : TlsUartCircBuf) (outside : UInt32 → UInt8) (second first : UInt32) :
    EscapeCheck :=
  if readCell recv outside second = 43 then
    if readCell recv outside first = 43 then ⟨3, [second, first]⟩ else ⟨0, [second, first]⟩
  else ⟨0, [second]⟩

def escapeCheck (recv : TlsUartCircBuf) (outside : UInt32 → UInt8) (escapefifocnt : Nat)
    (ch : UInt8) : EscapeCheck :=
  let head := UInt32.ofNat recv.head
  let size := UInt32.ofNat tlsUartRxBufSize
  if escapefifocnt = 3 ∧ ch = 43 then
    match head - 1 with
    | 0 => lookBack recv outside (size - 1) (size - 2)
    | 1 => lookBack recv outside 0 (size - 1)
    | _ => lookBack recv outside (head - 2) (head - 3)
  else ⟨0, []⟩

/-- The receive part of the handler; `ch` is the last byte taken, also of those thrown away. -/
def TlsUartCircBuf.uart1IrqHandler (recv : TlsUartCircBuf) (outside : UInt32 → UInt8)
    (intr : RxInterrupt) : TlsUartCircBuf × EscapeCheck :=
  let recv := uart1IrqReceive recv intr
  (recv, escapeCheck recv outside intr.fifo.length (intr.fifo.getLastD 0))

def TlsUartCircBuf.behind (recv : TlsUartCircBuf) (places : Nat) : UInt8 :=
  recv.cells ((recv.head + tlsUartRxBufSize - places) % tlsUartRxBufSize)

theorem readCell_of_lt (recv : TlsUartCircBuf) (outside : UInt32 → UInt8) {index : Nat}
    (inside : index < tlsUartRxBufSize) :
    readCell recv outside (UInt32.ofNat index) = recv.cells index := by
  have size : tlsUartRxBufSize = 4096 := rfl
  have same : (UInt32.ofNat index).toNat = index := by
    rw [UInt32.toNat_ofNat']
    omega
  rw [readCell, same, if_pos inside]

/-- Away from the wrap the tests are of the two cells behind the last one written. -/
theorem escapeCheck_of_ne {recv : TlsUartCircBuf} (outside : UInt32 → UInt8)
    (apart : recv.head ≠ 0) :
    ∃ second first, escapeCheck recv outside 3 43 =
        lookBack recv outside (UInt32.ofNat second) (UInt32.ofNat first) ∧
      second = (recv.head + tlsUartRxBufSize - 2) % tlsUartRxBufSize ∧
      first = (recv.head + tlsUartRxBufSize - 3) % tlsUartRxBufSize := by
  have size : tlsUartRxBufSize = 4096 := rfl
  have bound := recv.head_lt
  rw [escapeCheck]
  simp only [and_self, if_true]
  generalize place : recv.head = head at *
  by_cases one : head = 1
  · subst one
    exact ⟨4095, 4094, rfl, rfl, rfl⟩
  · by_cases two : head = 2
    · subst two
      exact ⟨0, 4095, rfl, rfl, rfl⟩
    · have minus (amount : Nat) (small : amount ≤ head) (few : amount ≤ 3) :
          UInt32.ofNat head - UInt32.ofNat amount = UInt32.ofNat (head - amount) := by
        apply UInt32.toNat_inj.mp
        rw [UInt32.toNat_sub, UInt32.toNat_ofNat', UInt32.toNat_ofNat', UInt32.toNat_ofNat']
        omega
      have last := minus 1 (by omega) (by omega)
      have other (value : Nat) (small : value < 2) :
          UInt32.ofNat (head - 1) ≠ UInt32.ofNat value := by
        intro same
        have number := congrArg UInt32.toNat same
        rw [UInt32.toNat_ofNat', UInt32.toNat_ofNat'] at number
        omega
      have wrap (places : Nat) (few : places ≤ 3) (enough : places ≤ head) :
          head - places = (head + tlsUartRxBufSize - places) % tlsUartRxBufSize := by
        rw [size]
        omega
      refine ⟨head - 2, head - 3, ?_, wrap 2 (by omega) (by omega), wrap 3 (by omega) (by omega)⟩
      rw [← minus 2 (by omega) (by omega), ← minus 3 (by omega) (by omega)]
      split
      · rename_i zero
        exact absurd (last.symm.trans zero) (other 0 (by omega))
      · rename_i unit
        exact absurd (last.symm.trans unit) (other 1 (by omega))
      · rfl

theorem lookBack_inside {recv : TlsUartCircBuf} (outside : UInt32 → UInt8) {second first : Nat}
    (secondInside : second < tlsUartRxBufSize) (firstInside : first < tlsUartRxBufSize) :
    ((lookBack recv outside (UInt32.ofNat second) (UInt32.ofNat first)).plusCharCnt = 3 ↔
      recv.cells second = 43 ∧ recv.cells first = 43) ∧
    ∀ index ∈ (lookBack recv outside (UInt32.ofNat second) (UInt32.ofNat first)).inspected,
      index.toNat < tlsUartRxBufSize := by
  have size : tlsUartRxBufSize = 4096 := rfl
  have number {index : Nat} (inside : index < tlsUartRxBufSize) :
      (UInt32.ofNat index).toNat < tlsUartRxBufSize := by
    rw [UInt32.toNat_ofNat']
    omega
  have secondNumber := number secondInside
  have firstNumber := number firstInside
  rw [lookBack, readCell_of_lt recv outside secondInside, readCell_of_lt recv outside firstInside]
  split
  · split <;> simp_all
  · simp_all

/-- With the write index wrapped to zero the first test is of a cell before the ring. -/
theorem escapeCheck_wrapped {recv : TlsUartCircBuf} (outside : UInt32 → UInt8)
    (wrapped : recv.head = 0) :
    ∃ index ∈ (escapeCheck recv outside 3 43).inspected, ¬index.toNat < tlsUartRxBufSize := by
  have check : escapeCheck recv outside 3 43 = lookBack recv outside (0 - 2) (0 - 3) := by
    rw [escapeCheck, wrapped]
    rfl
  refine ⟨0 - 2, ?_, by decide⟩
  rw [check, lookBack]
  split
  · split <;> exact List.mem_cons_self
  · exact List.mem_cons_self

theorem escapeCheck_right {recv : TlsUartCircBuf} (outside : UInt32 → UInt8) {ch : UInt8}
    (right : ch ≠ 43 ∨ recv.head ≠ 0) :
    ((escapeCheck recv outside 3 ch).plusCharCnt = 3 ↔
        ch = 43 ∧ recv.behind 2 = 43 ∧ recv.behind 3 = 43) ∧
      ∀ index ∈ (escapeCheck recv outside 3 ch).inspected, index.toNat < tlsUartRxBufSize := by
  by_cases plus : ch = 43
  · obtain ⟨second, first, check, secondIs, firstIs⟩ :=
      escapeCheck_of_ne outside (right.resolve_left (not_not_intro plus))
    have tests := @lookBack_inside recv outside second first
      (secondIs ▸ Nat.mod_lt _ (by decide)) (firstIs ▸ Nat.mod_lt _ (by decide))
    rw [plus, check, TlsUartCircBuf.behind, TlsUartCircBuf.behind, ← secondIs, ← firstIs]
    simpa using tests
  · simp [escapeCheck, plus]

def threeBytes (error : Bool) (first second third : UInt8) : RxInterrupt where
  error := error
  fifo := [first, second, third]
  fifo_length := by simp

theorem uart1IrqReceive_error (recv : TlsUartCircBuf) (first second third : UInt8) :
    (uart1IrqReceive recv (threeBytes true first second third)).head = recv.head ∧
      (uart1IrqReceive recv (threeBytes true first second third)).cells = recv.cells := by
  unfold uart1IrqReceive
  split <;> exact ⟨rfl, rfl⟩

theorem behind_pushed (recv : TlsUartCircBuf) (first second third : UInt8) :
    ([first, second, third].foldl Ring.push recv).head = (recv.head + 3) % tlsUartRxBufSize ∧
      TlsUartCircBuf.behind ([first, second, third].foldl Ring.push recv) 2 = second ∧
      TlsUartCircBuf.behind ([first, second, third].foldl Ring.push recv) 3 = first := by
  have size : tlsUartRxBufSize = 4096 := rfl
  have bound := recv.head_lt
  simp only [List.foldl_cons, List.foldl_nil, TlsUartCircBuf.behind, Ring.push, size] at *
  refine ⟨by omega, ?_, ?_⟩
  · have place : ((((recv.head + 1) % 4096 + 1) % 4096 + 1) % 4096 + 4096 - 2) % 4096 =
        (recv.head + 1) % 4096 := by omega
    rw [place, Function.update_of_ne (by omega), Function.update_self]
  · have place : ((((recv.head + 1) % 4096 + 1) % 4096 + 1) % 4096 + 4096 - 3) % 4096 =
        recv.head := by omega
    rw [place, Function.update_of_ne (by omega), Function.update_of_ne (by omega),
      Function.update_self]

theorem uart1IrqReceive_stored (recv : TlsUartCircBuf) (first second third : UInt8) :
    (uart1IrqReceive recv (threeBytes false first second third)).head =
        (recv.head + 3) % tlsUartRxBufSize ∧
      (uart1IrqReceive recv (threeBytes false first second third)).behind 2 = second ∧
      (uart1IrqReceive recv (threeBytes false first second third)).behind 3 = first := by
  unfold uart1IrqReceive
  split
  · exact behind_pushed (recv.drop rxCacheLimit) first second third
  · exact behind_pushed recv first second third

/-- The count is three exactly for `+++`, and no cell outside the ring is inspected. -/
def Detects (recv : TlsUartCircBuf) (outside : UInt32 → UInt8) (intr : RxInterrupt) : Prop :=
  ((recv.uart1IrqHandler outside intr).2.plusCharCnt = 3 ↔ intr.fifo = [43, 43, 43]) ∧
    ∀ index ∈ (recv.uart1IrqHandler outside intr).2.inspected, index.toNat < tlsUartRxBufSize

theorem detects_behind (recv : TlsUartCircBuf) (outside : UInt32 → UInt8) (error : Bool)
    (first second third : UInt8) {after : TlsUartCircBuf}
    (received : uart1IrqReceive recv (threeBytes error first second third) = after) :
    Detects recv outside (threeBytes error first second third) ↔ third ≠ 43 ∨
      (after.head ≠ 0 ∧ (after.behind 2 = 43 ∧ after.behind 3 = 43 ↔ first = 43 ∧ second = 43)) := by
  have handled : (recv.uart1IrqHandler outside (threeBytes error first second third)).2 =
      escapeCheck after outside 3 third := by
    rw [TlsUartCircBuf.uart1IrqHandler, received]
    rfl
  have bytes : (threeBytes error first second third).fifo = [43, 43, 43] ↔
      first = 43 ∧ second = 43 ∧ third = 43 := by
    simp [threeBytes]
  rw [Detects, handled, bytes]
  by_cases plus : third = 43
  · by_cases wrapped : after.head = 0
    · obtain ⟨index, member, beyond⟩ := escapeCheck_wrapped outside wrapped
      refine iff_of_false (fun detects => beyond (detects.2 index (plus ▸ member))) ?_
      simp [plus, wrapped]
    · have right := @escapeCheck_right after outside third (Or.inr wrapped)
      rw [right.1]
      simp only [plus, wrapped, ne_eq, not_true_eq_false, not_false_eq_true, false_or, true_and,
        and_true]
      exact and_iff_left (plus ▸ right.2)
  · have right := @escapeCheck_right after outside third (Or.inl plus)
    rw [right.1]
    simp only [plus, false_and, and_false, true_and]
    exact iff_of_true right.2 (Or.inl plus)

/-- A third `+` must not fill the last cell. With a reception error none of the bytes is stored,
and older bytes are looked at in their place. -/
theorem detects_iff (recv : TlsUartCircBuf) (outside : UInt32 → UInt8) (error : Bool)
    (first second third : UInt8) :
    Detects recv outside (threeBytes error first second third) ↔ third ≠ 43 ∨
      if error then
        recv.head ≠ 0 ∧ (recv.behind 2 = 43 ∧ recv.behind 3 = 43 ↔ first = 43 ∧ second = 43)
      else recv.head ≠ tlsUartRxBufSize - 3 := by
  rw [detects_behind recv outside error first second third rfl]
  cases error with
  | false =>
      obtain ⟨head, two, three⟩ := uart1IrqReceive_stored recv first second third
      have size : tlsUartRxBufSize = 4096 := rfl
      have bound := recv.head_lt
      have place : (recv.head + 3) % tlsUartRxBufSize ≠ 0 ↔ recv.head ≠ tlsUartRxBufSize - 3 := by
        generalize recv.head = position at *
        rw [size] at *
        omega
      rw [head, two, three, place, if_neg Bool.false_ne_true]
      exact or_congr_right (and_iff_left and_comm)
  | true =>
      obtain ⟨head, cells⟩ := uart1IrqReceive_error recv first second third
      have same (places : Nat) : (uart1IrqReceive recv
          (threeBytes true first second third)).behind places = recv.behind places := by
        rw [TlsUartCircBuf.behind, TlsUartCircBuf.behind, head, cells]
      rw [head, same, same, if_pos rfl]

/-- The third `+` goes to the last cell of an empty ring. -/
theorem last_cell_not_detects : ¬Detects ⟨fun _ => 0, 4093, 4093, by decide, by decide⟩
    (fun _ => 0) (threeBytes false 43 43 43) := by
  intro detects
  rcases (detects_behind _ _ false 43 43 43 rfl).mp detects with other | ⟨apart, -⟩
  · exact other rfl
  · exact apart (uart1IrqReceive_stored _ 43 43 43).1

end SmartMeter
