import SmartMeter.Platform.FlashCore

/-! What `tls_fls_read` leaves in memory, byte for byte, in the buffer and behind it. -/

namespace SmartMeter

theorem getFlashDensity_le (code : UInt8) : getFlashDensity code ≤ 1048576 := by
  rw [getFlashDensity]
  split
  · rename_i known
    rcases known with rfl | rfl
    · decide
    · decide
  · decide

theorem clearBack_apply {last count : Nat} (memory : Nat → UInt8) (index : Nat)
    (fits : count ≤ last + 1) :
    clearBack last count memory index =
      if index ≤ last ∧ last < index + count then 0 else memory index := by
  induction count generalizing last memory with
  | zero =>
      rw [clearBack, if_neg (by omega)]
  | succ count ih =>
      rw [clearBack]
      by_cases done : count = 0
      · subst done
        rw [clearBack, Function.update_apply]
        by_cases here : index = last
        · rw [if_pos here, if_pos (by omega)]
        · rw [if_neg here, if_neg (by omega)]
      · rw [ih _ (by omega), Function.update_apply]
        by_cases here : index = last
        · rw [if_neg (by omega), if_pos here, if_pos (by omega)]
        · rw [if_neg here]
          by_cases cleared : index ≤ last - 1 ∧ last - 1 < index + count
          · rw [if_pos cleared, if_pos (by omega)]
          · rw [if_neg cleared, if_neg (by omega)]

namespace FlashDriver

variable (driver : FlashDriver)

theorem density_le : driver.density ≤ 1048576 := getFlashDensity_le driver.densityCode

section ReadByCMD

variable (addr buf sz : Nat) (memory : Nat → UInt8) {index : Nat}

theorem readByCMD_words (low : buf ≤ index) (high : index < buf + 4 * (sz / 4)) :
    driver.readByCMD addr buf sz memory index =
      driver.cells ((addr + (index - buf)) % 1048576) := by
  have inside : index - buf < sz := by omega
  rw [readByCMD]
  dsimp only
  split
  · rw [clearBack_apply _ _ (by omega), if_neg (by omega), Buffer.copy_outside _ _ (by omega),
      Buffer.copy_apply, if_pos ⟨low, high⟩, if_pos inside]
  · rw [Buffer.copy_apply, if_pos ⟨low, high⟩, if_pos inside]

theorem readByCMD_outside (outside : index < buf ∨ buf + 4 * ((sz + 3) / 4) ≤ index) :
    driver.readByCMD addr buf sz memory index = memory index := by
  rw [readByCMD]
  dsimp only
  split
  · rw [clearBack_apply _ _ (by omega), if_neg (by omega), Buffer.copy_outside _ _ (by omega),
      Buffer.copy_outside _ _ (by omega)]
  · rw [Buffer.copy_outside _ _ (by omega)]

/-- The last word: its last bytes are cleared, as many as should have been kept. -/
theorem readByCMD_tail (low : buf + 4 * (sz / 4) ≤ index)
    (high : index < buf + 4 * ((sz + 3) / 4)) :
    driver.readByCMD addr buf sz memory index =
      if buf + 4 * (sz / 4) + 4 ≤ index + sz % 4 then 0
      else if index < buf + sz then driver.cells ((addr + (index - buf)) % 1048576)
      else driver.dataRegs (index - buf) := by
  have rest : sz % 4 > 0 := by omega
  have place : 4 * (sz / 4) + (index - (buf + 4 * (sz / 4))) = index - buf := by omega
  rw [readByCMD]
  dsimp only
  rw [if_pos rest, clearBack_apply _ _ (by omega)]
  by_cases cleared : buf + 4 * (sz / 4) + 4 ≤ index + sz % 4
  · rw [if_pos cleared, if_pos (by omega)]
  · rw [if_neg cleared, if_neg (by omega), Buffer.copy_apply, if_pos (by omega), place]
    by_cases inside : index < buf + sz
    · rw [if_pos inside, if_pos (by omega)]
    · rw [if_neg inside, if_neg (by omega)]

end ReadByCMD

variable (addr sz : Nat) (memory : Nat → UInt8) {index : Nat}

theorem readBlocks_apply (blocks index : Nat) :
    (List.range blocks).foldl (fun memory i =>
        driver.readByCMD (addr + 256 * i) (256 * i) 256 memory) memory index =
      if index < 256 * blocks then driver.cells ((addr + index) % 1048576) else memory index := by
  induction blocks with
  | zero => rfl
  | succ blocks ih =>
      rw [List.range_succ, List.foldl_append, List.foldl_cons, List.foldl_nil]
      by_cases here : 256 * blocks ≤ index ∧ index < 256 * blocks + 256
      · have place : addr + 256 * blocks + (index - 256 * blocks) = addr + index := by omega
        rw [readByCMD_words driver _ _ _ _ here.1 (by omega), if_pos (by omega), place]
      · rw [readByCMD_outside driver _ _ _ _ (by omega), ih]
        by_cases before : index < 256 * blocks
        · rw [if_pos before, if_pos (by omega)]
        · rw [if_neg before, if_neg (by omega)]

theorem flashRead_words (inside : index < 4 * (sz / 4)) :
    driver.flashRead addr sz memory index = driver.cells ((addr + index) % 1048576) := by
  rw [flashRead]
  by_cases block : index < 256 * (sz / 256)
  · split
    · rw [readByCMD_outside driver _ _ _ _ (by omega), readBlocks_apply, if_pos block]
    · rw [readBlocks_apply, if_pos block]
  · have place : addr + 256 * (sz / 256) + (index - 256 * (sz / 256)) = addr + index := by omega
    rw [if_pos (by omega), readByCMD_words driver _ _ _ _ (by omega) (by omega), place]

theorem flashRead_behind (behind : 4 * ((sz + 3) / 4) ≤ index) :
    driver.flashRead addr sz memory index = memory index := by
  rw [flashRead]
  split
  · rw [readByCMD_outside driver _ _ _ _ (by omega), readBlocks_apply, if_neg (by omega)]
  · rw [readBlocks_apply, if_neg (by omega)]

theorem flashRead_tail (low : 4 * (sz / 4) ≤ index) (high : index < 4 * ((sz + 3) / 4)) :
    driver.flashRead addr sz memory index =
      if 4 * (sz / 4) + 4 ≤ index + sz % 4 then 0
      else if index < sz then driver.cells ((addr + index) % 1048576)
      else driver.dataRegs (index - 256 * (sz / 256)) := by
  have place : addr + 256 * (sz / 256) + (index - 256 * (sz / 256)) = addr + index := by omega
  rw [flashRead]
  rw [if_pos (by omega), readByCMD_tail driver _ _ _ _ (by omega) (by omega), place]
  by_cases cleared : 4 * (sz / 4) + 4 ≤ index + sz % 4
  · rw [if_pos cleared, if_pos (by omega)]
  · rw [if_neg cleared, if_neg (by omega)]
    by_cases inside : index < sz
    · rw [if_pos inside, if_pos (by omega)]
    · rw [if_neg inside, if_neg (by omega)]

def InRange (addr : UInt32) (len : Nat) (driver : FlashDriver) : Prop :=
  addr.toNat % 134217728 + len ≤ driver.density

theorem InRange.inChip {addr : UInt32} {len : Nat} {driver : FlashDriver}
    (range : driver.InRange addr len) (some_len : len ≠ 0) : driver.inChip addr = true := by
  rw [FlashDriver.inChip, decide_eq_true_eq]
  rw [InRange] at range
  omega

theorem InRange.address {addr : UInt32} {len index : Nat} {driver : FlashDriver}
    (range : driver.InRange addr len) (inside : index < len) :
    (addr.toNat + index) % 1048576 = addr.toNat % 134217728 + index := by
  have bound := driver.density_le
  rw [InRange] at range
  omega

/-- The read fills the buffer with the flash, and nothing else. -/
def ReadsExactly (addr : UInt32) (len : Nat) (memory : Nat → UInt8) (driver : FlashDriver) : Prop :=
  ∃ read, driver.tlsFlsRead addr len memory = some read ∧
    (∀ index < len, read index = driver.cells (addr.toNat % 134217728 + index)) ∧
    ∀ index, len ≤ index → read index = memory index

/-- The last partial word does no harm: what is written over has that value already. -/
def TailHarmless (addr : UInt32) (len : Nat) (memory : Nat → UInt8) (driver : FlashDriver) : Prop :=
  len % 4 = 0 ∨
  len % 4 = 1 ∧ memory len = driver.dataRegs (len % 256) ∧
    memory (len + 1) = driver.dataRegs (len % 256 + 1) ∧ memory (len + 2) = 0 ∨
  len % 4 = 2 ∧ memory len = 0 ∧ memory (len + 1) = 0 ∨
  len % 4 = 3 ∧ driver.cells (addr.toNat % 134217728 + (len - 2)) = 0 ∧
    driver.cells (addr.toNat % 134217728 + (len - 1)) = 0 ∧ memory len = 0

section ReadsExactly

variable {driver : FlashDriver} {addr : UInt32} {len : Nat} {memory : Nat → UInt8}

/-- Only the bytes of the last partial word decide. -/
theorem readsExactly_iff_tail (some_len : len ≠ 0) (range : driver.InRange addr len) :
    driver.ReadsExactly addr len memory ↔
      ∀ index, 4 * (len / 4) ≤ index → index < 4 * ((len + 3) / 4) →
        driver.flashRead addr.toNat len memory index =
          if index < len then driver.cells (addr.toNat % 134217728 + index) else memory index := by
  have read : driver.tlsFlsRead addr len memory = some (driver.flashRead addr.toNat len memory) := by
    rw [tlsFlsRead, if_neg (by simp [range.inChip some_len, some_len])]
  constructor
  · rintro ⟨result, same, inside, behind⟩ index _ _
    rw [read] at same
    cases same
    by_cases below : index < len
    · rw [if_pos below, inside index below]
    · rw [if_neg below, behind index (by omega)]
  · intro tail
    refine ⟨_, read, ?_, ?_⟩
    · intro index below
      by_cases word : index < 4 * (len / 4)
      · rw [flashRead_words driver _ _ _ word, range.address below]
      · rw [tail index (by omega) (by omega), if_pos below]
    · intro index behind
      by_cases far : 4 * ((len + 3) / 4) ≤ index
      · rw [flashRead_behind driver _ _ _ far]
      · rw [tail index (by omega) (by omega), if_neg (by omega)]

theorem flashRead_cleared {index : Nat} (low : 4 * (len / 4) ≤ index)
    (high : index < 4 * ((len + 3) / 4)) (cleared : 4 * (len / 4) + 4 ≤ index + len % 4) :
    driver.flashRead addr.toNat len memory index = 0 := by
  rw [flashRead_tail driver _ _ _ low high, if_pos cleared]

theorem flashRead_spilled {index : Nat} (behind : len ≤ index) (high : index < 4 * ((len + 3) / 4))
    (left : index + len % 4 < 4 * (len / 4) + 4) :
    driver.flashRead addr.toNat len memory index = driver.dataRegs (index - 256 * (len / 256)) := by
  rw [flashRead_tail driver _ _ _ (by omega) high, if_neg (by omega), if_neg (by omega)]

theorem flashRead_kept {index : Nat} (range : driver.InRange addr len)
    (low : 4 * (len / 4) ≤ index) (below : index < len)
    (left : index + len % 4 < 4 * (len / 4) + 4) :
    driver.flashRead addr.toNat len memory index =
      driver.cells (addr.toNat % 134217728 + index) := by
  rw [flashRead_tail driver _ _ _ low (by omega), if_neg (by omega), if_pos below,
    range.address below]

theorem readsExactly_one (range : driver.InRange addr len) (rest : len % 4 = 1) :
    driver.ReadsExactly addr len memory ↔ memory len = driver.dataRegs (len % 256) ∧
      memory (len + 1) = driver.dataRegs (len % 256 + 1) ∧ memory (len + 2) = 0 := by
  have first : len - 256 * (len / 256) = len % 256 := by omega
  have second : len + 1 - 256 * (len / 256) = len % 256 + 1 := by omega
  have spilled := @flashRead_spilled driver addr len memory len (by omega) (by omega) (by omega)
  have spilled' := @flashRead_spilled driver addr len memory (len + 1) (by omega) (by omega) (by omega)
  have cleared := @flashRead_cleared driver addr len memory (len + 2) (by omega) (by omega) (by omega)
  rw [first] at spilled
  rw [second] at spilled'
  rw [readsExactly_iff_tail (by omega) range]
  constructor
  · intro tail
    have here := tail len (by omega) (by omega)
    have next := tail (len + 1) (by omega) (by omega)
    have last := tail (len + 2) (by omega) (by omega)
    rw [if_neg (by omega)] at here next last
    exact ⟨here.symm.trans spilled, next.symm.trans spilled', last.symm.trans cleared⟩
  · rintro ⟨here, next, last⟩ index low high
    by_cases below : index < len
    · rw [if_pos below, flashRead_kept range low below (by omega)]
    · rw [if_neg below]
      obtain rfl | rfl | rfl : index = len ∨ index = len + 1 ∨ index = len + 2 := by omega
      · rw [spilled, here]
      · rw [spilled', next]
      · rw [cleared, last]

theorem readsExactly_two (range : driver.InRange addr len) (rest : len % 4 = 2) :
    driver.ReadsExactly addr len memory ↔ memory len = 0 ∧ memory (len + 1) = 0 := by
  have cleared := @flashRead_cleared driver addr len memory len (by omega) (by omega) (by omega)
  have cleared' := @flashRead_cleared driver addr len memory (len + 1) (by omega) (by omega) (by omega)
  rw [readsExactly_iff_tail (by omega) range]
  constructor
  · intro tail
    have here := tail len (by omega) (by omega)
    have next := tail (len + 1) (by omega) (by omega)
    rw [if_neg (by omega)] at here next
    exact ⟨here.symm.trans cleared, next.symm.trans cleared'⟩
  · rintro ⟨here, next⟩ index low high
    by_cases below : index < len
    · rw [if_pos below, flashRead_kept range low below (by omega)]
    · rw [if_neg below]
      obtain rfl | rfl : index = len ∨ index = len + 1 := by omega
      · rw [cleared, here]
      · rw [cleared', next]

theorem readsExactly_three (range : driver.InRange addr len) (rest : len % 4 = 3) :
    driver.ReadsExactly addr len memory ↔
      driver.cells (addr.toNat % 134217728 + (len - 2)) = 0 ∧
        driver.cells (addr.toNat % 134217728 + (len - 1)) = 0 ∧ memory len = 0 := by
  have cleared {index : Nat} (low : len - 2 ≤ index) (high : index ≤ len) :=
    @flashRead_cleared driver addr len memory index (by omega) (by omega) (by omega)
  rw [readsExactly_iff_tail (by omega) range]
  constructor
  · intro tail
    have second := tail (len - 2) (by omega) (by omega)
    have third := tail (len - 1) (by omega) (by omega)
    have here := tail len (by omega) (by omega)
    rw [cleared (by omega) (by omega)] at second third here
    rw [if_pos (by omega)] at second third
    rw [if_neg (by omega)] at here
    exact ⟨second.symm, third.symm, here.symm⟩
  · rintro ⟨second, third, here⟩ index low high
    by_cases first : index = 4 * (len / 4)
    · rw [if_pos (by omega), flashRead_kept range low (by omega) (by omega)]
    · rw [cleared (by omega) (by omega)]
      obtain rfl | rfl | rfl : index = len - 2 ∨ index = len - 1 ∨ index = len := by omega
      · rw [if_pos (by omega), second]
      · rw [if_pos (by omega), third]
      · rw [if_neg (by omega), here]

/-- A read is exact exactly for lengths in whole words, or where the stray bytes of the last word
change nothing. -/
theorem readsExactly_iff (some_len : len ≠ 0) (range : driver.InRange addr len) :
    driver.ReadsExactly addr len memory ↔ driver.TailHarmless addr len memory := by
  have rest : len % 4 < 4 := Nat.mod_lt _ (by decide)
  rw [TailHarmless]
  obtain whole | one | two | three : len % 4 = 0 ∨ len % 4 = 1 ∨ len % 4 = 2 ∨ len % 4 = 3 := by
    omega
  · refine iff_of_true ?_ (.inl whole)
    rw [readsExactly_iff_tail some_len range]
    intro index low high
    omega
  · rw [readsExactly_one range one]
    simp [one]
  · rw [readsExactly_two range two]
    simp [two]
  · rw [readsExactly_three range three]
    simp [three]

def blank : FlashDriver := ⟨0x14, fun _ => 0, fun _ => 0xFF, none, 0⟩

theorem blank_inRange {len : Nat} (fits : len ≤ 1048576) : blank.InRange 0 len := by
  have density : blank.density = 1048576 := rfl
  rw [InRange, density, UInt32.toNat_zero, Nat.zero_mod]
  omega

theorem readsExactly_iff_word : blank.ReadsExactly 0 4 fun _ => 0 :=
  (readsExactly_iff (by decide) (blank_inRange (by decide))).mpr (.inl rfl)

theorem three_bytes_inexact : ¬blank.ReadsExactly 0 3 fun _ => 0 := by
  rw [readsExactly_three (blank_inRange (by decide)) rfl]
  rintro ⟨second, _⟩
  exact absurd second (by decide)

end ReadsExactly

end FlashDriver

end SmartMeter
