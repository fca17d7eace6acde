import SmartMeter.Platform.FlashRead

/-!
`tls_fls_write` as an overlay of the flash, sector by sector.
-/

namespace SmartMeter

theorem programSector_inside {sector index : Nat} (cache cells : Nat → UInt8)
    (inside : index / 4096 = sector % 256) :
    programSector sector cache cells index = cells index &&& cache (index % 4096) := by
  have pages (count : Nat) (bound : count ≤ 16) : (List.range count).foldl (fun cells page =>
      programPage (sector * 4096 + page * 256) (fun index => cache (page * 256 + index)) cells)
        cells index =
      if index % 4096 < count * 256 then cells index &&& cache (index % 4096)
      else cells index := by
    induction count with
    | zero => rw [if_neg (by omega)]; rfl
    | succ count ih =>
        rw [List.range_succ, List.foldl_append, List.foldl_cons, List.foldl_nil, programPage]
        have page : (sector * 4096 + count * 256) % 1048576 / 256 = sector % 256 * 16 + count := by
          omega
        have same : index / 256 = sector % 256 * 16 + index % 4096 / 256 := by omega
        rw [page, same, ih (by omega)]
        by_cases here : index % 4096 / 256 = count
        · have place : count * 256 + index % 256 = index % 4096 := by omega
          rw [if_pos (by omega), if_neg (by omega), if_pos (by omega), place]
        · rw [if_neg (by omega)]
          have same : index % 4096 < (count + 1) * 256 ↔ index % 4096 < count * 256 := by omega
          simp only [same]
  rw [programSector, pages 16 (Nat.le_refl 16), if_pos (by omega)]

theorem programSector_outside {sector index : Nat} (cache cells : Nat → UInt8)
    (outside : index / 4096 ≠ sector % 256) :
    programSector sector cache cells index = cells index := by
  have pages (count : Nat) (bound : count ≤ 16) : (List.range count).foldl (fun cells page =>
      programPage (sector * 4096 + page * 256) (fun index => cache (page * 256 + index)) cells)
        cells index = cells index := by
    induction count with
    | zero => rfl
    | succ count ih =>
        have page : index / 256 ≠ (sector * 4096 + count * 256) % 1048576 / 256 := by omega
        rw [List.range_succ, List.foldl_append, List.foldl_cons, List.foldl_nil, programPage,
          if_neg page, ih (by omega)]
  exact pages 16 (Nat.le_refl 16)

theorem programSector_eraseSector (sector : Nat) (cache cells : Nat → UInt8) (index : Nat) :
    programSector sector cache (eraseSector (sector * 4096) cells) index =
      if index / 4096 = sector % 256 then cache (index % 4096) else cells index := by
  by_cases inside : index / 4096 = sector % 256
  · rw [programSector_inside cache _ inside, if_pos inside, eraseSector, if_pos (by omega)]
    exact UInt8.neg_one_and
  · rw [programSector_outside cache _ inside, if_neg inside, eraseSector, if_neg (by omega)]

namespace FlashDriver

theorem sectorPart_le (offset : Fin 4096) (len : Nat) : sectorPart offset len ≤ len := by
  rw [sectorPart]
  split
  · omega
  · omega

theorem sectorPart_fits (offset : Fin 4096) (len : Nat) : offset + sectorPart offset len ≤ 4096 := by
  have bound := offset.isLt
  rw [sectorPart]
  split
  · omega
  · omega

theorem sectorPart_full {offset : Fin 4096} {len : Nat} (more : sectorPart offset len ≠ len) :
    offset + sectorPart offset len = 4096 := by
  have bound := offset.isLt
  unfold sectorPart at more ⊢
  split
  · simp_all
  · omega

/-- The flash with `count` bytes of a buffer laid over it. -/
def overlay (start : Nat) (buf : Nat → UInt8) (count : Nat) (cells : Nat → UInt8) (index : Nat) :
    UInt8 :=
  if start ≤ index ∧ index < start + count then buf (index - start) else cells index

theorem overlay_add (start first second : Nat) (buf cells : Nat → UInt8) :
    overlay (start + first) (fun index => buf (first + index)) second
      (overlay start buf first cells) = overlay start buf (first + second) cells := by
  funext index
  simp only [overlay]
  by_cases late : start + first ≤ index ∧ index < start + first + second
  · have place : first + (index - (start + first)) = index - start := by omega
    rw [if_pos late, if_pos (by omega), place]
  · rw [if_neg late]
    have same : (start ≤ index ∧ index < start + first) ↔
        (start ≤ index ∧ index < start + (first + second)) := by omega
    simp only [same]

theorem overlay_zero (start : Nat) (buf cells : Nat → UInt8) : overlay start buf 0 cells = cells := by
  funext index
  exact if_neg (by omega)

section FlsWrite

variable (memory : Nat → UInt8) (driver : FlashDriver)

@[simp] theorem rewriteSector_densityCode (sector secoff : Nat) (buf : Nat → UInt8)
    (secremain : Nat) : (driver.rewriteSector memory sector secoff buf secremain).densityCode =
      driver.densityCode := rfl

theorem rewriteSector_cells {sector : Nat} (below : sector < 256) {secoff secremain : Nat}
    (fits : secoff + secremain ≤ 4096) (buf : Nat → UInt8) :
    (driver.rewriteSector memory sector secoff buf secremain).cells =
      overlay (sector * 4096 + secoff) buf secremain driver.cells := by
  funext index
  simp only [rewriteSector, overlay]
  rw [programSector_eraseSector]
  by_cases inside : index / 4096 = sector % 256
  · have place : (sector * 4096 + index % 4096) % 1048576 = index := by omega
    have same : (secoff ≤ index % 4096 ∧ index % 4096 < secoff + secremain) ↔
        (sector * 4096 + secoff ≤ index ∧ index < sector * 4096 + secoff + secremain) := by omega
    have shift : index % 4096 - secoff = index - (sector * 4096 + secoff) := by omega
    rw [if_pos inside, Buffer.copy_apply, flashRead_words driver _ _ _ (by omega), place, shift]
    simp only [same]
  · rw [if_neg inside, if_neg (by omega)]

/-- The loop over the sectors, whatever their number. -/
theorem flsWriteLoop_cells {sector : Nat} {secoff : Fin 4096} {len : Nat} (buf : Nat → UInt8)
    (fits : sector * 4096 + secoff + len ≤ 1048576) :
    (driver.flsWriteLoop memory sector secoff buf len).cells =
      overlay (sector * 4096 + secoff) buf len driver.cells := by
  induction len using Nat.strongRecOn generalizing sector secoff buf driver with
  | ind len ih =>
      rw [flsWriteLoop]
      by_cases done : len = 0
      · rw [done, overlay_zero]
        rfl
      · have part := sectorPart_pos secoff done
        have most := sectorPart_le secoff len
        have width := sectorPart_fits secoff len
        have bound := secoff.isLt
        have below : sector < 256 := by omega
        have first := driver.rewriteSector_cells memory below width buf
        simp only [done, if_false]
        by_cases last : sectorPart secoff len = len
        · rw [last] at first ⊢
          rw [Nat.sub_self, flsWriteLoop, if_pos rfl, first]
        · have full := sectorPart_full last
          have next : (sector + 1) * 4096 + (0 : Fin 4096).val =
              sector * 4096 + secoff + sectorPart secoff len := by
            show (sector + 1) * 4096 + 0 = _
            omega
          have rest : sectorPart secoff len + (len - sectorPart secoff len) = len := by omega
          have fits' : (sector + 1) * 4096 + (0 : Fin 4096).val + (len - sectorPart secoff len) ≤
              1048576 := by
            rw [next, Nat.add_assoc _ (sectorPart secoff len), rest]
            exact fits
          rw [ih _ (by omega) _ (fun index => buf (sectorPart secoff len + index)) fits', first,
            next, overlay_add, rest]

theorem tlsFlsWrite_cells {memory : Option (Nat → UInt8)} {driver written : FlashDriver}
    {addr : UInt32} {len : Nat} {buf : Nat → UInt8} (range : driver.InRange addr len)
    (done : driver.tlsFlsWrite memory addr buf len = some written) :
    written.cells = overlay (addr.toNat % 134217728) buf len driver.cells := by
  have bound := driver.density_le
  have start : addr.toNat % 134217728 / 4096 * 4096 + addr.toNat % 134217728 % 4096 =
      addr.toNat % 134217728 := Nat.div_add_mod' _ _
  rw [tlsFlsWrite] at done
  split at done
  · cases done
  · cases memory with
    | none => cases done
    | some memory =>
        cases done
        have fits : addr.toNat % 134217728 + len ≤ 1048576 := Nat.le_trans range bound
        have loop := @flsWriteLoop_cells memory driver (addr.toNat % 134217728 / 4096)
          ⟨addr.toNat % 134217728 % 4096, Nat.mod_lt _ (by decide)⟩ len buf
        simp only [start] at loop
        exact loop fits

/-- A write lays its buffer over the flash and changes nothing else. -/
theorem tlsFlsWrite_overlay {memory : Option (Nat → UInt8)} {driver written : FlashDriver}
    {addr : UInt32} {len : Nat} {buf : Nat → UInt8} (range : driver.InRange addr len)
    (done : driver.tlsFlsWrite memory addr buf len = some written) :
    (∀ index < len, written.cells (addr.toNat % 134217728 + index) = buf index) ∧
      ∀ index, index < addr.toNat % 134217728 ∨ addr.toNat % 134217728 + len ≤ index →
        written.cells index = driver.cells index := by
  rw [tlsFlsWrite_cells range done]
  constructor
  · intro index inside
    rw [overlay, if_pos (by omega), Nat.add_sub_cancel_left]
  · intro index outside
    rw [overlay, if_neg (by omega)]

def numbered : FlashDriver := ⟨0x14, fun _ => 0, UInt8.ofNat, none, 0⟩

theorem tlsFlsWrite_overlay_numbered : ∃ written,
    numbered.tlsFlsWrite (some fun _ => 0) 0x08000FF3 (fun _ => 0x5A) 5000 = some written ∧
      (∀ index < 5000, written.cells (0xFF3 + index) = 0x5A) ∧
      ∀ index, index < 0xFF3 ∨ 0xFF3 + 5000 ≤ index →
        written.cells index = UInt8.ofNat index := by
  have place : (0x08000FF3 : UInt32).toNat % 134217728 = 0xFF3 := rfl
  have range : numbered.InRange 0x08000FF3 5000 := by
    have density : numbered.density = 1048576 := rfl
    rw [InRange, density, place]
    decide
  obtain ⟨written, done⟩ : ∃ written,
      numbered.tlsFlsWrite (some fun _ => 0) 0x08000FF3 (fun _ => 0x5A) 5000 = some written :=
    ⟨_, if_neg (by decide)⟩
  have overlaid := tlsFlsWrite_overlay range done
  rw [place] at overlaid
  exact ⟨written, done, overlaid⟩

end FlsWrite

end FlashDriver

end SmartMeter
