import SmartMeter.Platform.FastRefines

/-!
What keeps the calls of the flash driver inside the chip, and inside the sectors that they name
or whose bytes wait in the cache.
-/

namespace SmartMeter

namespace FlashDriver

open Runs

inductive FlashCall
  | write (memory : Option (Nat → UInt8)) (addr : UInt32) (buf : Nat → UInt8) (len : Nat)
  | fastInit (cache : Nat → UInt8)
  | fastWrite (addr : UInt32) (buf : Nat → UInt8) (length : Nat)
  | fastDestroy
  | read (addr : UInt32) (len : Nat) (into : Nat → UInt8)
  | erase (sector : Nat)

/-- `none` for an error. -/
def FlashCall.run (driver : FlashDriver) : FlashCall → Option FlashDriver
  | write memory addr buf len => driver.tlsFlsWrite memory addr buf len
  | fastInit cache => some (driver.fastWriteInit cache)
  | fastWrite addr buf length => driver.tlsFlsFastWrite addr buf length
  | fastDestroy => some driver.fastWriteDestroy
  | read addr len into => (driver.tlsFlsRead addr len into).map fun _ => driver
  | erase sector => driver.tlsFlsErase sector

def namedSector (sector : Nat) : Nat :=
  if sector < 32768 then sector else sector - 32768

def RangeNames (addr : UInt32) (len sector : Nat) : Prop :=
  ∃ offset < len, (addr.toNat % 134217728 + offset) / 4096 = sector

def FlashCall.Names (sector : Nat) : FlashCall → Prop
  | write _ addr _ len => RangeNames addr len sector
  | fastInit _ => False
  | fastWrite addr _ length => RangeNames addr length sector
  | fastDestroy => False
  | read addr len _ => RangeNames addr len sector
  | erase named => namedSector named = sector

def FlashCall.InChip (driver : FlashDriver) : FlashCall → Prop
  | write _ addr _ len => driver.InRange addr len
  | fastInit _ => True
  | fastWrite addr _ length => driver.InRange addr length
  | fastDestroy => True
  | read addr len _ => driver.InRange addr len
  | erase sector => namedSector sector < driver.density / 4096

/-- The driver, and the sector whose bytes wait in the cache: that of the last byte of the last
fast write. -/
structure FlashRun where
  driver : FlashDriver
  waiting : Option Nat

def FlashCall.waits (run : FlashRun) : FlashCall → Option Nat
  | fastWrite addr _ length => run.driver.gsflscache.map fun _ =>
      (addr.toNat % 134217728 + length - 1) / 4096
  | fastDestroy => none
  | _ => run.waiting

def FlashRun.step (run : FlashRun) (call : FlashCall) : FlashRun :=
  match call.run run.driver with
  | none => run
  | some driver => ⟨driver, call.waits run⟩

/-- A request outside the chip is refused, and what is accepted changes no sector but those
that it names and that whose bytes wait in the cache. An erase erases. -/
structure Contained (run : FlashRun) (call : FlashCall) : Prop where
  refuses : ¬call.InChip run.driver → call.run run.driver = none
  spares : ∀ after, call.run run.driver = some after → ∀ index,
    ¬call.Names (index / 4096) → run.waiting ≠ some (index / 4096) →
      after.cells index = run.driver.cells index
  erases : ∀ sector, call = .erase sector → ∀ after, call.run run.driver = some after →
    ∀ index, index / 4096 = namedSector sector → after.cells index = 0xFF

/-- The cached sector is named or waits, or the chip holds there what the cache does. A sector
number that `tls_fls_erase` refuses is programmed without an erase, which only clears bits. -/
def FlushContained (run : FlashRun) (call : FlashCall) : Prop :=
  call.Names (run.driver.gsSector % 256) ∨ run.waiting = some (run.driver.gsSector % 256) ∨
    ∀ cache, run.driver.gsflscache = some cache → ∀ index,
      index / 4096 = run.driver.gsSector % 256 →
        if run.driver.density / 4096 + 32768 ≤ run.driver.gsSector then
          run.driver.cells index &&& cache (index % 4096) = run.driver.cells index
        else cache (index % 4096) = run.driver.cells index

def Allowed (run : FlashRun) (call : FlashCall) : Prop :=
  let driver := run.driver
  match call with
  | .write memory addr _ len =>
      driver.InRange addr len ∨ driver.inChip addr = false ∨ len = 0 ∨ memory = none
  | .fastInit _ => True
  | .fastWrite addr _ length =>
      driver.inChip addr = false ∨ length = 0 ∨ driver.InRange addr length ∧
        (addr.toNat / 4096 = driver.gsSector ∨ driver.gsSector = 0 ∨ FlushContained run call)
  | .fastDestroy => FlushContained run call
  | .read addr len _ => driver.InRange addr len ∨ driver.inChip addr = false ∨ len = 0
  | .erase sector => sector < driver.density / 4096 ∨ 32768 ≤ sector

section

variable {run : FlashRun}

theorem flush_spares_iff {call : FlashCall} :
    (∀ index, ¬call.Names (index / 4096) → run.waiting ≠ some (index / 4096) →
        run.driver.flushSector.cells index = run.driver.cells index) ↔
      FlushContained run call := by
  constructor
  · intro spares
    by_cases named : call.Names (run.driver.gsSector % 256)
    · exact .inl named
    by_cases waits : run.waiting = some (run.driver.gsSector % 256)
    · exact .inr (.inl waits)
    refine .inr (.inr ?_)
    intro cache installed index inside
    have same := spares index (by rwa [inside]) (by rwa [inside])
    rw [flushSector_cells installed, if_pos inside, flushByte] at same
    split
    next far => rwa [if_pos far] at same
    next near => rwa [if_neg near] at same
  · intro flushes index unnamed idle
    by_cases inside : index / 4096 = run.driver.gsSector % 256
    · rw [inside] at unnamed idle
      have agrees := (flushes.resolve_left unnamed).resolve_left idle
      cases installed : run.driver.gsflscache with
      | none => rw [flushSector, installed]
      | some cache =>
          have same := agrees cache installed index inside
          rw [flushSector_cells installed, if_pos inside, flushByte]
          split
          next far => rwa [if_pos far] at same
          next near => rwa [if_neg near] at same
    · exact flushSector_outside _ inside

theorem enterSector_cells (sector index : Nat) (driver : FlashDriver) :
    (driver.enterSector sector).cells index =
      if sector ≠ driver.gsSector ∧ driver.gsSector ≠ 0 then driver.flushSector.cells index
      else driver.cells index := by
  rw [enterSector]
  dsimp only
  split
  · rfl
  · rfl

/-- Behind the flush at its start a fast write keeps to the sectors of its range. -/
theorem fastWrite_cells {driver written : FlashDriver} {addr : UInt32} {buf : Nat → UInt8}
    {length index : Nat} (range : driver.InRange addr length)
    (done : driver.tlsFlsFastWrite addr buf length = some written)
    (unnamed : ¬RangeNames addr length (index / 4096)) :
    written.cells index = (driver.enterSector (addr.toNat / 4096)).cells index := by
  have bound := Nat.le_trans range driver.density_le
  rw [tlsFlsFastWrite_eq] at done
  split at done
  · cases done
  · cases done
    refine putBytes_outside buf length (enterSector_gsSector _ _) ?_
    intro sector low high same
    apply unnamed
    refine ⟨sector * 4096 - addr.toNat, ?_, ?_⟩
    · omega
    · omega

theorem fastDestroy_contained_iff :
    Contained run .fastDestroy ↔ FlushContained run .fastDestroy := by
  rw [← flush_spares_iff]
  constructor
  · intro contained
    exact contained.spares run.driver.fastWriteDestroy rfl
  · intro spares
    refine ⟨fun outside => absurd trivial outside, ?_, fun _ same => by cases same⟩
    intro after done
    cases done
    exact spares

theorem fastWrite_contained_iff {addr : UInt32} {buf : Nat → UInt8} {length : Nat} :
    Contained run (.fastWrite addr buf length) ↔ Allowed run (.fastWrite addr buf length) := by
  simp only [Allowed]
  by_cases refused : run.driver.inChip addr = false ∨ length = 0
  · have none : FlashCall.run run.driver (.fastWrite addr buf length) = none := if_pos refused
    refine iff_of_true ?_ (refused.elim .inl fun empty => .inr (.inl empty))
    refine ⟨fun _ => none, ?_, fun _ same => by cases same⟩
    intro after done
    rw [none] at done
    cases done
  · obtain ⟨written, done⟩ : ∃ written, run.driver.tlsFlsFastWrite addr buf length = some written :=
      ⟨_, if_neg refused⟩
    obtain ⟨chip, filled⟩ := not_or.mp refused
    rw [or_iff_right chip, or_iff_right filled, ← flush_spares_iff]
    constructor
    · intro contained
      have range : run.driver.InRange addr length := by
        by_contra outside
        cases done.symm.trans (contained.refuses outside)
      refine ⟨range, ?_⟩
      by_cases stays : addr.toNat / 4096 = run.driver.gsSector ∨ run.driver.gsSector = 0
      · exact stays.elim .inl fun first => .inr (.inl first)
      · refine .inr (.inr ?_)
        intro index unnamed idle
        have spared := contained.spares written done index unnamed idle
        rw [fastWrite_cells range done unnamed, enterSector_cells,
          if_pos (not_or.mp stays)] at spared
        exact spared
    · rintro ⟨range, flushes⟩
      refine ⟨fun outside => absurd range outside, ?_, fun _ same => by cases same⟩
      intro after ends index unnamed idle
      rw [fastWrite_cells range ends unnamed, enterSector_cells]
      split
      next moved =>
        rcases flushes with same | first | spares
        · exact absurd same moved.1
        · exact absurd first moved.2
        · exact spares index unnamed idle
      next => rfl

theorem write_contained_iff {memory : Option (Nat → UInt8)} {addr : UInt32} {buf : Nat → UInt8}
    {len : Nat} :
    Contained run (.write memory addr buf len) ↔ Allowed run (.write memory addr buf len) := by
  simp only [Allowed]
  constructor
  · intro contained
    by_cases range : run.driver.InRange addr len
    · exact .inl range
    · have refused := contained.refuses range
      rw [FlashCall.run, tlsFlsWrite] at refused
      split at refused
      next outside => exact .inr (outside.elim .inl fun empty => .inr (.inl empty))
      next => exact .inr (.inr (.inr (Option.map_eq_none_iff.mp refused)))
  · intro allowed
    refine ⟨?_, ?_, fun _ same => by cases same⟩
    · intro outside
      rcases allowed with range | chip | empty | noMemory
      · exact absurd range outside
      · exact if_pos (.inl chip)
      · exact if_pos (.inr empty)
      · rw [FlashCall.run, tlsFlsWrite, noMemory, Option.map_none, ite_self]
    · intro after done index unnamed _
      have range : run.driver.InRange addr len := by
        by_contra outside
        rw [FlashCall.run, tlsFlsWrite] at done
        rcases allowed with range | chip | empty | noMemory
        · exact absurd range outside
        · rw [if_pos (.inl chip)] at done
          cases done
        · rw [if_pos (.inr empty)] at done
          cases done
        · rw [noMemory, Option.map_none, ite_self] at done
          cases done
      rw [tlsFlsWrite_cells range done, overlay, if_neg]
      rintro ⟨low, high⟩
      refine unnamed ⟨index - addr.toNat % 134217728, by omega, ?_⟩
      congr 1
      omega

theorem read_contained_iff {addr : UInt32} {len : Nat} {into : Nat → UInt8} :
    Contained run (.read addr len into) ↔ Allowed run (.read addr len into) := by
  simp only [Allowed]
  constructor
  · intro contained
    by_cases range : run.driver.InRange addr len
    · exact .inl range
    · have refused := Option.map_eq_none_iff.mp (contained.refuses range)
      rw [tlsFlsRead] at refused
      split at refused
      next outside => exact .inr outside
      next => cases refused
  · intro allowed
    refine ⟨?_, ?_, fun _ same => by cases same⟩
    · intro outside
      have refused := allowed.resolve_left outside
      rw [FlashCall.run, tlsFlsRead, if_pos refused]
      rfl
    · intro after done index unnamed _
      obtain ⟨memory, _, same⟩ := Option.map_eq_some_iff.mp done
      rw [← same]

theorem erase_contained_iff {sector : Nat} :
    Contained run (.erase sector) ↔ Allowed run (.erase sector) := by
  have bound := run.driver.density_le
  simp only [Allowed]
  constructor
  · intro contained
    by_contra unknown
    have outside : ¬FlashCall.InChip run.driver (.erase sector) := by
      rw [FlashCall.InChip, namedSector, if_pos (by omega)]
      omega
    have refused := contained.refuses outside
    rw [FlashCall.run, tlsFlsErase, if_neg (by omega)] at refused
    cases refused
  · intro known
    have inside (erased : FlashDriver) (done : run.driver.tlsFlsErase sector = some erased) :
        namedSector sector < run.driver.density / 4096 ∧
          erased.cells = eraseSector (namedSector sector * 4096) run.driver.cells := by
      rw [tlsFlsErase] at done
      split at done
      · cases done
      · cases done
        have named : namedSector sector < run.driver.density / 4096 ∧
            sector * 4096 % 1048576 / 4096 = namedSector sector * 4096 % 1048576 / 4096 := by
          rw [namedSector]
          split <;> omega
        refine ⟨named.1, funext fun index => ?_⟩
        simp only [eraseSector, named.2]
    refine ⟨?_, ?_, ?_⟩
    · intro outside
      cases done : FlashCall.run run.driver (.erase sector) with
      | none => rfl
      | some erased => exact absurd (inside erased done).1 outside
    · intro after done index unnamed _
      obtain ⟨chip, cells⟩ := inside after done
      have apart : ¬namedSector sector = index / 4096 := unnamed
      rw [cells, eraseSector, if_neg (by omega)]
    · rintro _ ⟨⟩ after done index named
      obtain ⟨chip, cells⟩ := inside after done
      rw [cells, eraseSector, if_pos (by omega)]

theorem contained_iff (run : FlashRun) (call : FlashCall) :
    Contained run call ↔ Allowed run call := by
  cases call with
  | write memory addr buf len => exact write_contained_iff
  | fastInit cache =>
      refine iff_of_true ⟨fun outside => absurd trivial outside, ?_, fun _ same => by cases same⟩
        trivial
      intro after done index _ _
      cases done
      rw [fastWriteInit]
      split
      · rfl
      · rfl
  | fastWrite addr buf length => exact fastWrite_contained_iff
  | fastDestroy => exact fastDestroy_contained_iff
  | read addr len into => exact read_contained_iff
  | erase sector => exact erase_contained_iff

/-- Two bytes at the last address of the chip: the second one goes to the first sector. -/
theorem last_byte_wraps : ∃ written,
    blank.tlsFlsWrite (some fun _ => 0) 0xFFFFF (fun _ => 0x5A) 2 = some written ∧
      written.cells 0 = 0x5A := by
  refine ⟨_, if_neg (by decide), ?_⟩
  show (blank.flsWriteLoop (fun _ => 0) 255 ⟨4095, by decide⟩ (fun _ => 0x5A) 2).cells 0 = 0x5A
  have first : sectorPart ⟨4095, by decide⟩ 2 = 1 := rfl
  have second : sectorPart 0 1 = 1 := rfl
  rw [flsWriteLoop, first, if_neg (by decide), flsWriteLoop, second, if_neg (by decide),
    flsWriteLoop, if_pos rfl, rewriteSector]
  dsimp only
  rw [programSector_eraseSector, if_pos (by decide), Buffer.copy_apply, if_pos (by decide)]

def lastSector : List FlashCall :=
  [.fastInit fun _ => 0, .fastWrite 0xFF000 (fun _ => 0x5A) 4096]

theorem lastSector_run : ∃ filled : FlashDriver,
    lastSector.foldl FlashRun.step ⟨blank, none⟩ = ⟨filled, some 255⟩ ∧
      filled.gsSector = 256 ∧ filled.cells 0 = 0xFF ∧
      filled.gsflscache = some (Buffer.copy (fun _ => 0) 0 (fun _ => 0x5A) 4096) := by
  let opened : FlashDriver := { blank with gsflscache := some fun _ => 0, gsSector := 255 }
  have cached : opened.gsSector = 255 := rfl
  have written : (blank.fastWriteInit fun _ => 0).tlsFlsFastWrite 0xFF000 (fun _ => 0x5A) 4096 =
      some (opened.copyCache 0 (fun _ => 0x5A) 4096).nextSector := by
    have reaches : (0xFF000 : UInt32).toNat % 4096 + 4096 = 4096 := rfl
    rw [tlsFlsFastWrite_eq, if_neg (by decide), putBytes_to_end _ _ reaches]
    rfl
  refine ⟨(opened.copyCache 0 (fun _ => 0x5A) 4096).nextSector, ?_, ?_, ?_, ?_⟩
  · rw [lastSector, List.foldl_cons, List.foldl_cons, List.foldl_nil, FlashRun.step,
      FlashRun.step, FlashCall.run, FlashCall.run, written]
    rfl
  · rw [nextSector_gsSector, copyCache_gsSector, cached]
  · have apart : 0 / 4096 ≠ (opened.copyCache 0 (fun _ => 0x5A) 4096).gsSector % 256 := by
      rw [copyCache_gsSector, cached]
      decide
    exact flushSector_outside _ apart
  · exact flushSector_gsflscache _

/-- After that the cache is aimed at the sector behind the chip, and a flush overwrites the
first one. -/
theorem lastSector_wraps :
    (lastSector.foldl FlashRun.step ⟨blank, none⟩).driver.fastWriteDestroy.cells 0 = 0x5A := by
  obtain ⟨filled, run, sector, _, cache⟩ := lastSector_run
  rw [run, fastWriteDestroy_cells, flushSector_cells cache, sector, if_pos (by decide), flushByte,
    if_neg (by omega), Buffer.copy_apply, if_pos (by decide)]

end

end FlashDriver

end SmartMeter
