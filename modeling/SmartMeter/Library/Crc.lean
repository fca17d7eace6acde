import Mathlib.Data.List.Basic

/-!
Cyclic redundancy codes of any width: a register that is shifted by one bit of the message at a
time and takes the polynomial whenever a one leaves it. The register is additive in what it held
and what it is fed, which is all there is to know about the errors that a code detects.
-/

namespace Crc

variable {w : Nat}

/-- `refin` and `refout` as they are usually given: the lowest bit of a byte goes first, and
the register is turned round at the end. -/
structure Code (w : Nat) where
  poly : BitVec w
  init : BitVec w
  refin : Bool
  refout : Bool
  xorout : BitVec w

def taken (poly : BitVec w) (one : Bool) : BitVec w :=
  if one then poly else 0

def shift (poly reg : BitVec w) (bit : Bool) : BitVec w :=
  reg <<< 1 ^^^ taken poly (reg.msb ^^ bit)

def feed (poly reg : BitVec w) (bits : List Bool) : BitVec w :=
  bits.foldl (shift poly) reg

def byteBits (byte : UInt8) : List Bool :=
  (List.range 8).map byte.toBitVec.getLsbD

namespace Code

def byteOrder (code : Code w) (byte : UInt8) : List Bool :=
  if code.refin then byteBits byte else (byteBits byte).reverse

def bits (code : Code w) (bytes : List UInt8) : List Bool :=
  bytes.flatMap code.byteOrder

def value (code : Code w) (bytes : List UInt8) : BitVec w :=
  let reg := feed code.poly code.init (code.bits bytes)
  (if code.refout then reg.reverse else reg) ^^^ code.xorout

end Code

theorem feed_append (poly reg : BitVec w) (first second : List Bool) :
    feed poly reg (first ++ second) = feed poly (feed poly reg first) second :=
  List.foldl_append

theorem taken_xor (poly : BitVec w) (one other : Bool) :
    taken poly (one ^^ other) = taken poly one ^^^ taken poly other := by
  cases one <;> cases other <;> simp [taken]

theorem shift_xor (poly first second : BitVec w) (bit other : Bool) :
    shift poly (first ^^^ second) (bit ^^ other) = shift poly first bit ^^^ shift poly second other := by
  have out : ((first ^^^ second).msb ^^ (bit ^^ other)) =
      ((first.msb ^^ bit) ^^ (second.msb ^^ other)) := by
    rw [BitVec.msb_xor]
    cases first.msb <;> cases second.msb <;> cases bit <;> cases other <;> rfl
  unfold shift
  rw [out, taken_xor, BitVec.shiftLeft_xor_distrib]
  ac_rfl

theorem feed_xor (poly first second : BitVec w) {bits others : List Bool}
    (same : bits.length = others.length) :
    feed poly (first ^^^ second) (List.zipWith Bool.xor bits others) =
      feed poly first bits ^^^ feed poly second others := by
  induction bits generalizing others first second with
  | nil =>
      cases others with
      | nil => rfl
      | cons => cases same
  | cons bit rest ih =>
      cases others with
      | nil => cases same
      | cons other others =>
          have shifted := shift_xor poly first second bit other
          have tails := ih (shift poly first bit) (shift poly second other)
            (Nat.succ_inj.mp same)
          rw [← shifted] at tails
          exact tails

/-- A polynomial with a constant term: no register but zero is shifted to zero. -/
theorem shift_eq_zero {poly reg : BitVec w} (odd : poly.getLsbD 0 = true)
    (zero : shift poly reg false = 0) : reg = 0 := by
  have low : reg.msb = false := by
    have bit := congrArg (BitVec.getLsbD · 0) zero
    cases top : reg.msb with
    | false => rfl
    | true => simp [shift, taken, top, odd] at bit
  apply BitVec.eq_of_getLsbD_eq
  intro index inside
  by_cases last : index + 1 = w
  · rw [BitVec.msb_eq_getLsbD_last] at low
    have same : index = w - 1 := by omega
    rw [same, low, BitVec.ofNat_eq_ofNat, BitVec.getLsbD_zero]
  · have bit := congrArg (BitVec.getLsbD · (index + 1)) zero
    have above : index + 1 < w := by omega
    simpa [shift, taken, low, above, BitVec.getLsbD_eq_getElem inside] using bit

theorem feed_zeros_eq_zero {poly reg : BitVec w} (odd : poly.getLsbD 0 = true) {count : Nat}
    (zero : feed poly reg (List.replicate count false) = 0) : reg = 0 := by
  induction count generalizing reg with
  | zero => exact zero
  | succ count ih => exact shift_eq_zero odd (ih zero)

def load : List Bool → BitVec w
  | [] => 0
  | bit :: rest => taken (BitVec.twoPow w (w - 1)) bit ^^^ load rest >>> 1

theorem load_getMsbD (bits : List Bool) {index : Nat} (inside : index < w) :
    (load bits : BitVec w).getMsbD index = bits.getD index false := by
  induction bits generalizing index with
  | nil => simp [load]
  | cons bit rest ih =>
      rw [load, BitVec.getMsbD_xor, BitVec.getMsbD_ushiftRight]
      cases index with
      | zero =>
          have top : w - (w - 1) - 1 = 0 := by omega
          have lowest : w - 1 < w := by omega
          cases bit <;> simp [taken, BitVec.getMsbD_twoPow, inside, top, lowest]
      | succ index =>
          have later : index < w := by omega
          have below : index + 1 ≠ w - (w - 1) - 1 := by omega
          cases bit <;> simp [taken, BitVec.getMsbD_twoPow, inside, below, ih later]

theorem shift_load (poly : BitVec w) {bit : Bool} {rest : List Bool} (short : rest.length < w) :
    shift poly (load (bit :: rest)) bit = load rest := by
  have top : (load (bit :: rest) : BitVec w).msb = bit := by
    rw [BitVec.msb, load_getMsbD _ (by omega), List.getD_cons_zero]
  unfold shift
  rw [top, Bool.xor_self, taken, if_neg (by decide), BitVec.ofNat_eq_ofNat, BitVec.xor_zero]
  apply BitVec.eq_of_getMsbD_eq
  intro index inside
  rw [BitVec.getMsbD_shiftLeft, load_getMsbD rest inside]
  by_cases above : index + 1 < w
  · rw [load_getMsbD _ above, List.getD_cons_succ]
  · rw [BitVec.getMsbD_of_ge _ _ (by omega), List.getD_eq_getElem?_getD,
      List.getElem?_eq_none (by omega), Option.getD_none]

/-- Up to `w` bits may as well be in the register when the feeding starts. -/
theorem feed_load (poly reg : BitVec w) {bits : List Bool} (short : bits.length ≤ w) :
    feed poly reg bits = feed poly (reg ^^^ load bits) (List.replicate bits.length false) := by
  induction bits generalizing reg with
  | nil => simp [feed, load]
  | cons bit rest ih =>
      have early : rest.length < w := short
      have shifted := shift_xor poly reg (load (bit :: rest)) bit bit
      rw [Bool.xor_self, shift_load poly early] at shifted
      have tail := ih (shift poly reg bit) (by omega)
      rw [← shifted] at tail
      exact tail

/-- No two registers come together again while they are fed the same bits. -/
theorem feed_register_inj {poly first second : BitVec w} (odd : poly.getLsbD 0 = true)
    {bits : List Bool} (same : feed poly first bits = feed poly second bits) : first = second := by
  have zeros : List.zipWith Bool.xor bits bits = List.replicate bits.length false := by
    simp [List.zipWith_self, List.map_const']
  have sum := feed_xor poly first second (@rfl _ bits.length)
  rw [zeros, same, BitVec.xor_self] at sum
  exact BitVec.xor_eq_zero_iff.mp (feed_zeros_eq_zero odd sum)

/-- Up to `w` bits leave their trace in the register. -/
theorem feed_bits_inj {poly reg : BitVec w} (odd : poly.getLsbD 0 = true)
    {first second : List Bool} (short : first.length ≤ w) (size : first.length = second.length)
    (same : feed poly reg first = feed poly reg second) : first = second := by
  have sum := feed_xor poly reg reg size
  have count : (List.zipWith Bool.xor first second).length ≤ w := by
    rw [List.length_zipWith]
    omega
  rw [same, BitVec.xor_self, BitVec.xor_self, feed_load poly _ count, BitVec.zero_xor] at sum
  have loaded := feed_zeros_eq_zero odd sum
  apply List.ext_getElem size
  intro index inside other
  have bit := load_getMsbD (List.zipWith Bool.xor first second) (Nat.lt_of_lt_of_le inside short)
  rw [loaded, List.getD_eq_getElem?_getD, List.getElem?_eq_getElem (by simp; omega)] at bit
  simpa using bit

/-- A burst of errors: outside of `width` bits from `start` on, nothing differs. -/
def AgreeOutside (start width : Nat) (first second : List Bool) : Prop :=
  ∀ index, index < start ∨ start + width ≤ index → first[index]? = second[index]?

theorem AgreeOutside.take {start width : Nat} {first second : List Bool}
    (agree : AgreeOutside start width first second) : first.take start = second.take start := by
  apply List.ext_getElem?
  intro index
  rw [List.getElem?_take, List.getElem?_take]
  split
  · exact agree index (Or.inl ‹_›)
  · rfl

theorem AgreeOutside.drop {start width : Nat} {first second : List Bool}
    (agree : AgreeOutside start width first second) :
    first.drop (start + width) = second.drop (start + width) := by
  apply List.ext_getElem?
  intro index
  rw [List.getElem?_drop, List.getElem?_drop]
  exact agree _ (Or.inr (Nat.le_add_right ..))

theorem agreeOutside_iff (start width : Nat) (first second : List Bool) :
    AgreeOutside start width first second ↔ first.take start = second.take start ∧
      first.drop (start + width) = second.drop (start + width) := by
  constructor
  · exact fun agree => ⟨agree.take, agree.drop⟩
  · rintro ⟨heads, tails⟩ index (before | after)
    · rw [← List.getElem?_take_of_lt before, heads, List.getElem?_take_of_lt before]
    · have place : index = start + width + (index - (start + width)) := by omega
      rw [place, ← List.getElem?_drop, tails, List.getElem?_drop]

instance (start width : Nat) (first second : List Bool) :
    Decidable (AgreeOutside start width first second) :=
  decidable_of_iff _ (agreeOutside_iff start width first second).symm

theorem split_window (start width : Nat) (bits : List Bool) :
    bits = bits.take start ++ ((bits.drop start).take width ++ bits.drop (start + width)) := by
  rw [← List.drop_drop, List.take_append_drop, List.take_append_drop]

/-- A burst no longer than the register never goes unnoticed. -/
theorem feed_burst {poly reg : BitVec w} (odd : poly.getLsbD 0 = true)
    {start : Nat} {first second : List Bool} (size : first.length = second.length)
    (agree : AgreeOutside start w first second)
    (same : feed poly reg first = feed poly reg second) : first = second := by
  rw [split_window start w first, split_window start w second, agree.take, agree.drop,
    feed_append, feed_append, feed_append, feed_append] at same
  have windows := feed_bits_inj odd (List.length_take_le _ _) (by simp [size]) (feed_register_inj odd same)
  rw [split_window start w first, split_window start w second, agree.take, agree.drop, windows]

theorem byteBits_inj {first second : UInt8} (same : byteBits first = byteBits second) :
    first = second := by
  apply UInt8.toBitVec_inj.mp
  apply BitVec.eq_of_getLsbD_eq
  intro index inside
  exact List.map_inj_left.mp same index (List.mem_range.mpr inside)

theorem byteBits_xor (first second : UInt8) :
    byteBits (first ^^^ second) = List.zipWith Bool.xor (byteBits first) (byteBits second) := by
  unfold byteBits
  rw [UInt8.toBitVec_xor, List.zipWith_map, List.zipWith_self]
  exact List.map_congr_left fun index _ => BitVec.getLsbD_xor

theorem feed_byte_xor (poly reg other : BitVec w) (first second : UInt8) :
    feed poly (reg ^^^ other) (byteBits (first ^^^ second)) =
      feed poly reg (byteBits first) ^^^ feed poly other (byteBits second) := by
  rw [byteBits_xor]
  exact feed_xor poly reg other (by simp [byteBits])

def Additive {v : Nat} (f : BitVec v → BitVec w) : Prop :=
  ∀ first second, f (first ^^^ second) = f first ^^^ f second

theorem Additive.zero {v : Nat} {f : BitVec v → BitVec w} (additive : Additive f) : f 0 = 0 := by
  have twice := additive 0 0
  rwa [BitVec.xor_self, BitVec.xor_self] at twice

/-- Additive functions that agree on the single bits agree. -/
theorem Additive.ext {v : Nat} {f g : BitVec v → BitVec w} (first : Additive f)
    (second : Additive g)
    (basis : ∀ index < v, f (BitVec.twoPow v index) = g (BitVec.twoPow v index)) (x : BitVec v) :
    f x = g x := by
  have low : ∀ count ≤ v, ∀ x : BitVec v, (∀ index ≥ count, x.getLsbD index = false) →
      f x = g x := by
    intro count bound
    induction count with
    | zero =>
        intro x clear
        have zero : x = 0 := BitVec.eq_of_getLsbD_eq fun index _ => by
          rw [clear index (Nat.zero_le _), BitVec.ofNat_eq_ofNat, BitVec.getLsbD_zero]
        rw [zero, first.zero, second.zero]
    | succ count ih =>
        intro x clear
        have rest := ih (by omega)
        cases top : x.getLsbD count with
        | false =>
            refine rest x fun index above => ?_
            by_cases same : index = count
            · rw [same, top]
            · exact clear index (by omega)
        | true =>
            have split : x = x ^^^ BitVec.twoPow v count ^^^ BitVec.twoPow v count := by
              rw [BitVec.xor_assoc, BitVec.xor_self, BitVec.xor_zero]
            have lower : f (x ^^^ BitVec.twoPow v count) = g (x ^^^ BitVec.twoPow v count) := by
              refine rest _ fun index above => ?_
              have inside : count < v := bound
              rw [BitVec.getLsbD_xor, BitVec.getLsbD_twoPow]
              by_cases same : count = index
              · simp [← same, top, inside]
              · simp [same, clear index (by omega)]
            rw [split, first, second, lower, basis count bound]
  exact low v (Nat.le_refl v) x fun index above => BitVec.getLsbD_of_ge x index above

namespace Code

variable {code : Code w} {first second : List UInt8}

theorem bits_cons (byte : UInt8) (rest : List UInt8) :
    code.bits (byte :: rest) = code.byteOrder byte ++ code.bits rest := rfl

@[simp] theorem length_byteOrder (byte : UInt8) : (code.byteOrder byte).length = 8 := by
  unfold byteOrder
  split <;> simp [byteBits]

theorem byteOrder_inj {byte other : UInt8} (same : code.byteOrder byte = code.byteOrder other) :
    byte = other := by
  unfold byteOrder at same
  split at same
  · exact byteBits_inj same
  · exact byteBits_inj (List.reverse_injective same)

theorem length_bits (bytes : List UInt8) : (code.bits bytes).length = 8 * bytes.length := by
  induction bytes with
  | nil => rfl
  | cons byte rest ih =>
      rw [bits_cons, List.length_append, length_byteOrder, ih, List.length_cons]
      omega

/-- A byte that is changed is a burst of eight bits. -/
theorem bits_set_agree (code : Code w) (bytes : List UInt8) (index : Nat) (byte : UInt8) :
    AgreeOutside (8 * index) 8 (code.bits bytes) (code.bits (bytes.set index byte)) := by
  induction bytes generalizing index with
  | nil => exact fun _ _ => rfl
  | cons first rest ih =>
      intro place outside
      cases index with
      | zero =>
          have behind : 8 ≤ place := by omega
          rw [List.set_cons_zero, bits_cons, bits_cons,
            List.getElem?_append_right (by rw [length_byteOrder]; exact behind),
            List.getElem?_append_right (by rw [length_byteOrder]; exact behind),
            length_byteOrder, length_byteOrder]
      | succ index =>
          rw [List.set_cons_succ, bits_cons, bits_cons]
          by_cases early : place < 8
          · rw [List.getElem?_append_left (by rw [length_byteOrder]; exact early),
              List.getElem?_append_left (by rw [length_byteOrder]; exact early)]
          · rw [List.getElem?_append_right (by rw [length_byteOrder]; omega),
              List.getElem?_append_right (by rw [length_byteOrder]; omega), length_byteOrder]
            exact ih index (place - 8) (by omega)

theorem bits_inj (size : first.length = second.length) (same : code.bits first = code.bits second) :
    first = second := by
  induction first generalizing second with
  | nil => exact (List.eq_nil_of_length_eq_zero size.symm).symm
  | cons byte rest ih =>
      cases second with
      | nil => cases size
      | cons other others =>
          rw [bits_cons, bits_cons] at same
          obtain ⟨heads, tails⟩ := List.append_inj same (by simp)
          rw [byteOrder_inj heads, ih (Nat.succ_inj.mp size) tails]

theorem feed_of_value (same : code.value first = code.value second) :
    feed code.poly code.init (code.bits first) = feed code.poly code.init (code.bits second) := by
  have regs := BitVec.xor_left_inj _ |>.mp same
  split at regs
  · have twice := congrArg BitVec.reverse regs
    rwa [BitVec.reverse_reverse_eq, BitVec.reverse_reverse_eq] at twice
  · exact regs

/-- Two messages of one length that differ within `w` bits have different codes. -/
theorem value_burst (odd : code.poly.getLsbD 0 = true) {start : Nat}
    (size : first.length = second.length)
    (agree : AgreeOutside start w (code.bits first) (code.bits second))
    (same : code.value first = code.value second) : first = second := by
  have count : (code.bits first).length = (code.bits second).length := by
    rw [length_bits, length_bits, size]
  exact bits_inj size (feed_burst odd count agree (feed_of_value same))

end Code

end Crc
