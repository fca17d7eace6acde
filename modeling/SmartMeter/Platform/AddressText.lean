import SmartMeter.Platform.DottedQuad

/-!
The texts on which `strtoip` does what a parser of dotted addresses should do.
-/

namespace SmartMeter

open Decimal

/-- The scan passes over what is not a dot. -/
theorem ipLoop_skip {chars : List UInt8} (plain : 46 ∉ chars) (pre post : List UInt8)
    (rounds : Nat) {i : Nat} (early : i < 3) (ip : UInt32) (head : Nat) :
    ipLoop (rounds + chars.length) (pre ++ (chars ++ post)) i ip head pre.length =
      ipLoop rounds (pre ++ (chars ++ post)) i ip head (pre.length + chars.length) := by
  induction chars generalizing pre with
  | nil => rfl
  | cons ch chars ih =>
      have here : (pre ++ (ch :: chars ++ post))[pre.length]? = some ch := by
        rw [List.getElem?_append_right (Nat.le_refl _), Nat.sub_self]
        rfl
      have other : ch ≠ 46 := fun same => plain (same ▸ List.mem_cons_self)
      have later := ih (fun member => plain (List.mem_cons_of_mem _ member)) (pre ++ [ch])
      simp only [List.append_assoc, List.singleton_append, List.length_append,
        List.length_singleton] at later
      rw [List.length_cons, ← Nat.add_assoc, ipLoop, if_pos early, here]
      simp only [if_neg other]
      rw [List.cons_append, later, Nat.add_assoc, Nat.add_comm 1]

/-- Where no dot is left the scan runs past the end. -/
theorem ipLoop_past {chars : List UInt8} (plain : 46 ∉ chars) (pre : List UInt8) (rounds : Nat)
    {i : Nat} (early : i < 3) (ip : UInt32) (head : Nat) :
    ipLoop rounds (pre ++ chars) i ip head pre.length = none := by
  induction rounds generalizing pre chars with
  | zero => rfl
  | succ rounds ih =>
      cases chars with
      | nil =>
          have nothing : (pre ++ [])[pre.length]? = none := by
            rw [List.append_nil, List.getElem?_eq_none (Nat.le_refl _)]
          rw [ipLoop, if_pos early, nothing]
      | cons ch chars =>
          have here : (pre ++ ch :: chars)[pre.length]? = some ch := by
            rw [List.getElem?_append_right (Nat.le_refl _), Nat.sub_self]
            rfl
          have other : ch ≠ 46 := fun same => plain (same ▸ List.mem_cons_self)
          have later := ih (fun member => plain (List.mem_cons_of_mem _ member)) (pre ++ [ch])
          rw [List.append_assoc, List.singleton_append, List.length_append,
            List.length_singleton] at later
          rw [ipLoop, if_pos early, here]
          simp only [if_neg other]
          exact later

/-- A part with the dot after it. -/
theorem ipLoop_part {part : List UInt8} (plain : 46 ∉ part) (nonzero : 0 ∉ part)
    (pre post : List UInt8) (rounds : Nat) {i : Nat} (early : i < 3) (ip : UInt32) :
    ipLoop (rounds + 1 + part.length) (pre ++ (part ++ 46 :: post)) i ip pre.length pre.length =
      match ipPart part with
      | none => some ⟨-1, none, pre ++ (part ++ 0 :: post)⟩
      | some n => ipLoop rounds (pre ++ part ++ [46] ++ post) (i + 1) ((ip <<< 8) + UInt32.ofNat n)
          (pre ++ part ++ [46]).length (pre ++ part ++ [46]).length := by
  have here : (pre ++ (part ++ 46 :: post))[pre.length + part.length]? = some 46 := by
    rw [← List.append_assoc, ← List.length_append, List.getElem?_append_right (Nat.le_refl _),
      Nat.sub_self]
    rfl
  have set : ∀ old new : UInt8, (pre ++ (part ++ old :: post)).set (pre.length + part.length) new =
      pre ++ (part ++ new :: post) := by
    intro old new
    rw [← List.append_assoc, ← List.length_append, List.set_append_right _ _ (Nat.le_refl _),
      Nat.sub_self, List.set_cons_zero, List.append_assoc]
  obtain ⟨parsed, ran, checked⟩ := strtodec_spec nonzero post
  have length : (pre ++ part ++ [46]).length = pre.length + part.length + 1 := by
    rw [List.length_append, List.length_append, List.length_singleton]
  rw [ipLoop_skip plain pre (46 :: post) (rounds + 1) early ip pre.length, ipLoop, if_pos early,
    here]
  simp only [if_pos, set, List.drop_left, ran, checked]
  cases ipPart part with
  | none => rfl
  | some n =>
      rw [length, List.append_assoc, List.append_assoc, List.singleton_append]

theorem ipLoop_last {part : List UInt8} (nonzero : 0 ∉ part) (pre : List UInt8) (rounds : Nat)
    (ip : UInt32) (tail : Nat) :
    ipLoop (rounds + 1) (pre ++ (part ++ [0])) 3 ip pre.length tail =
      match ipPart part with
      | none => some ⟨-1, none, pre ++ (part ++ [0])⟩
      | some n => some ⟨if (ip <<< 8) + UInt32.ofNat n = 0 then -1 else 0,
          some ((ip <<< 8) + UInt32.ofNat n), pre ++ (part ++ [0])⟩ := by
  obtain ⟨parsed, ran, checked⟩ := strtodec_spec nonzero []
  rw [ipLoop, if_neg (by decide)]
  cases taken : ipPart part with
  | none => simp only [List.drop_left, ran, checked, taken]
  | some n => simp only [List.drop_left, ran, checked, taken]

/-- The loop comes back with the string unchanged only over one more accepted part. -/
theorem ipLoop_next {text pre : List UInt8} (nonzero : 0 ∉ text) {rounds : Nat} {i : Nat}
    (early : i < 3) {ip : UInt32} {parse : IpParse}
    (ran : ipLoop (rounds + 1 + text.length) (pre ++ (text ++ [0])) i ip pre.length pre.length =
      some parse) (same : parse.str = pre ++ (text ++ [0])) :
    ∃ part rest n, text = part ++ 46 :: rest ∧ ipPart part = some n ∧
      ipLoop (rounds + 1 + rest.length) (pre ++ part ++ [46] ++ (rest ++ [0])) (i + 1)
        ((ip <<< 8) + UInt32.ofNat n) (pre ++ part ++ [46]).length
        (pre ++ part ++ [46]).length = some parse ∧
      parse.str = pre ++ part ++ [46] ++ (rest ++ [0]) := by
  by_cases dotted : 46 ∈ text
  · obtain ⟨part, rest, rfl, plain⟩ := List.eq_append_cons_of_mem dotted
    have inner : 0 ∉ part := fun member => nonzero (List.mem_append_left _ member)
    have budget : rounds + 1 + (part ++ 46 :: rest).length =
        rounds + 1 + rest.length + 1 + part.length := by
      rw [List.length_append, List.length_cons]
      omega
    rw [budget, List.append_assoc part, List.cons_append,
      ipLoop_part plain inner pre (rest ++ [0]) _ early ip] at ran
    cases taken : ipPart part with
    | none =>
        rw [taken] at ran
        cases ran
        rw [List.append_assoc part, List.cons_append] at same
        have cells := List.append_cancel_left (List.append_cancel_left same)
        exact absurd (List.cons.inj cells).1 (by decide)
    | some n =>
        rw [taken] at ran
        refine ⟨part, rest, n, rfl, taken, ran, ?_⟩
        rw [same]
        simp only [List.append_assoc, List.cons_append, List.nil_append]
  · have plain : 46 ∉ text ++ [0] := by
      intro member
      rcases List.mem_append.mp member with early | last
      · exact dotted early
      · exact absurd (List.mem_singleton.mp last) (by decide)
    rw [ipLoop_past plain pre _ early ip] at ran
    cases ran

theorem ipLoop_taken {part : List UInt8} {n : Nat} (taken : ipPart part = some n)
    (nonzero : 0 ∉ part) (pre post : List UInt8) (rounds : Nat) {i : Nat} (early : i < 3)
    (ip : UInt32) :
    ipLoop (rounds + 1 + part.length) (pre ++ (part ++ 46 :: post)) i ip pre.length pre.length =
      ipLoop rounds (pre ++ part ++ [46] ++ post) (i + 1) ((ip <<< 8) + UInt32.ofNat n)
        (pre ++ part ++ [46]).length (pre ++ part ++ [46]).length := by
  rw [ipLoop_part (ipPart_notMem taken) nonzero pre post rounds early ip, taken]

def joinParts (a b c d : List UInt8) : List UInt8 := a ++ 46 :: (b ++ 46 :: (c ++ 46 :: d))

def joinBytes (x y z w : Nat) : UInt32 :=
  ((((((((0 : UInt32) <<< 8) + UInt32.ofNat x) <<< 8) + UInt32.ofNat y) <<< 8) +
    UInt32.ofNat z) <<< 8) + UInt32.ofNat w

theorem joinParts_notMem {a b c d : List UInt8} (nonzero : 0 ∉ joinParts a b c d) :
    0 ∉ a ∧ 0 ∉ b ∧ 0 ∉ c ∧ 0 ∉ d := by
  simp only [joinParts, List.mem_append, List.mem_cons, not_or] at nonzero
  exact ⟨nonzero.1, nonzero.2.2.1, nonzero.2.2.2.2.1, nonzero.2.2.2.2.2.2⟩

theorem strtoip_joinParts {a b c d : List UInt8} {x y z : Nat}
    (nonzero : 0 ∉ joinParts a b c d) (first : ipPart a = some x) (second : ipPart b = some y)
    (third : ipPart c = some z) :
    strtoip (joinParts a b c d ++ [0]) =
      match ipPart d with
      | none => some ⟨-1, none, joinParts a b c d ++ [0]⟩
      | some w => some ⟨if joinBytes x y z w = 0 then -1 else 0, some (joinBytes x y z w),
          joinParts a b c d ++ [0]⟩ := by
  obtain ⟨inA, inB, inC, inD⟩ := joinParts_notMem nonzero
  have rounds : (joinParts a b c d ++ [0]).length + 1 =
      d.length + 1 + 1 + 1 + c.length + 1 + b.length + 1 + a.length := by
    simp only [joinParts, List.length_append, List.length_cons, List.length_nil]
    omega
  have text : joinParts a b c d ++ [0] =
      [] ++ (a ++ 46 :: (b ++ 46 :: (c ++ 46 :: (d ++ [0])))) := by
    simp only [joinParts, List.append_assoc, List.cons_append, List.nil_append]
  rw [strtoip, rounds, text]
  refine (ipLoop_taken first inA [] _ _ (by decide) 0).trans ?_
  rw [ipLoop_taken second inB _ _ _ (by decide), ipLoop_taken third inC _ _ _ (by decide)]
  rw [ipLoop_last inD]
  have whole : [] ++ a ++ [46] ++ b ++ [46] ++ c ++ [46] ++ (d ++ [0]) =
      [] ++ (a ++ 46 :: (b ++ 46 :: (c ++ 46 :: (d ++ [0])))) := by
    simp only [List.append_assoc, List.cons_append, List.nil_append]
  rw [whole]
  rfl

/-- The string is unchanged only where three parts are accepted. -/
theorem joinParts_of_strtoip {text : List UInt8} (nonzero : 0 ∉ text) {parse : IpParse}
    (ran : strtoip (text ++ [0]) = some parse) (same : parse.str = text ++ [0]) :
    ∃ a b c d x y z, text = joinParts a b c d ∧ ipPart a = some x ∧ ipPart b = some y ∧
      ipPart c = some z := by
  have rounds : (text ++ [0]).length + 1 = 1 + 1 + text.length := by
    rw [List.length_append, List.length_singleton]
    omega
  rw [strtoip, rounds] at ran
  obtain ⟨a, afterA, x, rfl, first, ranA, sameA⟩ :=
    @ipLoop_next text [] nonzero 1 0 (by decide) 0 parse ran same
  have inA : 0 ∉ afterA := fun member =>
    nonzero (List.mem_append_right _ (List.mem_cons_of_mem _ member))
  obtain ⟨b, afterB, y, rfl, second, ranB, sameB⟩ := ipLoop_next inA (by decide) ranA sameA
  have inB : 0 ∉ afterB := fun member =>
    inA (List.mem_append_right _ (List.mem_cons_of_mem _ member))
  obtain ⟨c, d, z, rfl, third, -, -⟩ := ipLoop_next inB (by decide) ranB sameB
  exact ⟨a, b, c, d, x, y, z, rfl, first, second, third⟩

theorem shift_add_toNat {ip : UInt32} {n : Nat} (low : ip.toNat < 2 ^ 24) (small : n ≤ 255) :
    ((ip <<< 8) + UInt32.ofNat n).toNat = ip.toNat * 256 + n := by
  rw [UInt32.toNat_add, UInt32.toNat_shiftLeft, UInt32.toNat_ofNat', Nat.shiftLeft_eq]
  have eight : (8 : UInt32).toNat % 32 = 8 := rfl
  rw [eight]
  omega

theorem joinBytes_toNat {x y z w : Nat} (first : x ≤ 255) (second : y ≤ 255) (third : z ≤ 255)
    (last : w ≤ 255) : (joinBytes x y z w).toNat = ((x * 256 + y) * 256 + z) * 256 + w := by
  have one : (((0 : UInt32) <<< 8) + UInt32.ofNat x).toNat = x := by
    rw [shift_add_toNat (by decide) first]
    exact Nat.zero_add x
  have two := @shift_add_toNat (((0 : UInt32) <<< 8) + UInt32.ofNat x) y (by omega) second
  rw [one] at two
  have three := @shift_add_toNat _ z (by rw [two]; omega) third
  rw [two] at three
  have four := @shift_add_toNat _ w (by rw [three]; omega) last
  rw [three] at four
  exact four

theorem cut_unique {first other rest tail : List UInt8} {mark : UInt8} (plain : mark ∉ first)
    (simple : mark ∉ other) (same : first ++ mark :: rest = other ++ mark :: tail) :
    first = other ∧ rest = tail := by
  induction first generalizing other with
  | nil =>
      cases other with
      | nil => exact ⟨rfl, (List.cons.inj same).2⟩
      | cons ch other =>
          exact absurd (List.cons.inj same).1 (fun eq => simple (eq ▸ List.mem_cons_self))
  | cons ch first ih =>
      cases other with
      | nil => exact absurd (List.cons.inj same).1 (fun eq => plain (eq ▸ List.mem_cons_self))
      | cons symbol other =>
          obtain ⟨head, later⟩ := List.cons.inj same
          obtain ⟨firsts, rests⟩ := ih (fun member => plain (List.mem_cons_of_mem _ member))
            (fun member => simple (List.mem_cons_of_mem _ member)) later
          exact ⟨by rw [head, firsts], rests⟩

def PlainByte (part : List UInt8) (n : Nat) : Prop := unsigned part = some n ∧ n ≤ 255

theorem PlainByte.notMem {part : List UInt8} {n : Nat} (plain : PlainByte part n) {ch : UInt8}
    (other : ¬IsDigit ch) : ch ∉ part :=
  unsigned_notMem plain.1 other

theorem PlainByte.ipPart {part : List UInt8} {n : Nat} (plain : PlainByte part n) :
    ipPart part = some n :=
  ipPart_of_unsigned plain.1 plain.2

/-- The text is four decimal numbers up to 255 with dots between them, and what address they are. -/
def Quad (text : List UInt8) (ip : UInt32) : Prop :=
  ∃ a b c d x y z w, text = joinParts a b c d ∧
    PlainByte a x ∧ PlainByte b y ∧ PlainByte c z ∧ PlainByte d w ∧
    ip.toNat = ((x * 256 + y) * 256 + z) * 256 + w

/-- The text is read up to its terminator and left as it was, and exactly the dotted addresses are
accepted, each with its value. -/
def ParsesRight (text : List UInt8) : Prop :=
  ∃ parse, strtoip (text ++ [0]) = some parse ∧ parse.str = text ++ [0] ∧
    (parse.ret = 0 ↔ ∃ ip, Quad text ip ∧ ip ≠ 0) ∧
    ∀ ip, Quad text ip → ip ≠ 0 → parse.ipadr = some ip

/-- The text has three dots with a number that is taken before each, and where the rest is taken as
well, and not everything is zero, there is nothing but digits and no number that wraps around. -/
def PlainWhereTaken (text : List UInt8) : Prop :=
  ∃ a b c d x y z, text = joinParts a b c d ∧
    ipPart a = some x ∧ ipPart b = some y ∧ ipPart c = some z ∧
    ∀ w, ipPart d = some w → ¬(x = 0 ∧ y = 0 ∧ z = 0 ∧ w = 0) →
      PlainByte a x ∧ PlainByte b y ∧ PlainByte c z ∧ PlainByte d w

theorem joinParts_inj {a b c d a' b' c' d' : List UInt8} {x y z x' y' z' : Nat}
    (same : joinParts a b c d = joinParts a' b' c' d')
    (first : ipPart a = some x) (second : ipPart b = some y) (third : ipPart c = some z)
    (first' : ipPart a' = some x') (second' : ipPart b' = some y')
    (third' : ipPart c' = some z') : a = a' ∧ b = b' ∧ c = c' ∧ d = d' := by
  obtain ⟨sameA, rest⟩ := cut_unique (ipPart_notMem first) (ipPart_notMem first') same
  obtain ⟨sameB, rest⟩ := cut_unique (ipPart_notMem second) (ipPart_notMem second') rest
  obtain ⟨sameC, rest⟩ := cut_unique (ipPart_notMem third) (ipPart_notMem third') rest
  exact ⟨sameA, sameB, sameC, rest⟩

/-- The parts of a dotted address are the numbers that are taken. -/
theorem Quad.parts {a b c d : List UInt8} {x y z : Nat} {ip : UInt32}
    (quad : Quad (joinParts a b c d) ip) (first : SmartMeter.ipPart a = some x)
    (second : SmartMeter.ipPart b = some y) (third : SmartMeter.ipPart c = some z) :
    ∃ w, PlainByte a x ∧ PlainByte b y ∧ PlainByte c z ∧ PlainByte d w ∧
      ip = joinBytes x y z w := by
  obtain ⟨a', b', c', d', x', y', z', w, same, one, two, three, four, value⟩ := quad
  obtain ⟨rfl, rfl, rfl, rfl⟩ :=
    joinParts_inj same first second third one.ipPart two.ipPart three.ipPart
  obtain rfl := Option.some.inj (first.symm.trans one.ipPart)
  obtain rfl := Option.some.inj (second.symm.trans two.ipPart)
  obtain rfl := Option.some.inj (third.symm.trans three.ipPart)
  refine ⟨w, one, two, three, four, UInt32.toNat_inj.mp ?_⟩
  rw [value, joinBytes_toNat one.2 two.2 three.2 four.2]

theorem joinBytes_eq_zero {x y z w : Nat} (first : x ≤ 255) (second : y ≤ 255) (third : z ≤ 255)
    (last : w ≤ 255) : joinBytes x y z w = 0 ↔ x = 0 ∧ y = 0 ∧ z = 0 ∧ w = 0 := by
  rw [← UInt32.toNat_inj, joinBytes_toNat first second third last]
  show _ = 0 ↔ _
  omega

theorem parsesRight_plain {text : List UInt8} (nonzero : 0 ∉ text) (right : ParsesRight text) :
    PlainWhereTaken text := by
  obtain ⟨parse, ran, same, accepts, -⟩ := right
  obtain ⟨a, b, c, d, x, y, z, rfl, first, second, third⟩ := joinParts_of_strtoip nonzero ran same
  refine ⟨a, b, c, d, x, y, z, rfl, first, second, third, ?_⟩
  intro w last someSet
  rw [strtoip_joinParts nonzero first second third, last] at ran
  have address : joinBytes x y z w ≠ 0 := fun zero => someSet
    ((joinBytes_eq_zero (ipPart_le first) (ipPart_le second) (ipPart_le third)
      (ipPart_le last)).mp zero)
  obtain rfl := Option.some.inj ran
  obtain ⟨ip, quad, -⟩ := accepts.mp (if_neg address)
  obtain ⟨w', one, two, three, four, -⟩ := quad.parts first second third
  obtain rfl := Option.some.inj (last.symm.trans four.ipPart)
  exact ⟨one, two, three, four⟩

theorem plain_parsesRight {text : List UInt8} (nonzero : 0 ∉ text)
    (plain : PlainWhereTaken text) : ParsesRight text := by
  obtain ⟨a, b, c, d, x, y, z, rfl, first, second, third, digits⟩ := plain
  have ran := strtoip_joinParts nonzero first second third
  cases last : SmartMeter.ipPart d with
  | none =>
      rw [last] at ran
      have refused : ∀ ip, ¬Quad (joinParts a b c d) ip := by
        intro ip quad
        obtain ⟨w, -, -, -, four, -⟩ := quad.parts first second third
        exact absurd (last.symm.trans four.ipPart) (by simp)
      refine ⟨_, ran, rfl, ?_, fun ip quad => absurd quad (refused ip)⟩
      constructor
      · intro accepted
        exact absurd (show (-1 : Int) = 0 from accepted) (by decide)
      · rintro ⟨ip, quad, -⟩
        exact absurd quad (refused ip)
  | some w =>
      rw [last] at ran
      have value : ∀ ip, Quad (joinParts a b c d) ip → ip = joinBytes x y z w := by
        intro ip quad
        obtain ⟨w', -, -, -, four, value⟩ := quad.parts first second third
        obtain rfl := Option.some.inj (last.symm.trans four.ipPart)
        exact value
      refine ⟨_, ran, rfl, ?_, fun ip quad _ => congrArg some (value ip quad).symm⟩
      constructor
      · intro accepted
        have address : joinBytes x y z w ≠ 0 := by
          intro zero
          simp only [if_pos zero] at accepted
          exact absurd accepted (by decide)
        have someSet : ¬(x = 0 ∧ y = 0 ∧ z = 0 ∧ w = 0) := fun allZero => address
          ((joinBytes_eq_zero (ipPart_le first) (ipPart_le second) (ipPart_le third)
            (ipPart_le last)).mpr allZero)
        obtain ⟨one, two, three, four⟩ := digits w last someSet
        exact ⟨joinBytes x y z w, ⟨a, b, c, d, x, y, z, w, rfl, one, two, three, four,
          joinBytes_toNat one.2 two.2 three.2 four.2⟩, address⟩
      · rintro ⟨ip, quad, address⟩
        rw [value ip quad] at address
        exact if_neg address

theorem iptostr_eq_joinParts (ip : UInt32) :
    iptostr ip = joinParts (text ((ip >>> 24) &&& 0xFF).toNat) (text ((ip >>> 16) &&& 0xFF).toNat)
      (text ((ip >>> 8) &&& 0xFF).toNat) (text ((ip >>> 0) &&& 0xFF).toNat) := rfl

theorem octet_toNat (ip shift : UInt32) :
    ((ip >>> shift) &&& 0xFF).toNat = ip.toNat / 2 ^ (shift.toNat % 32) % 256 := by
  rw [UInt32.toNat_and, UInt32.toNat_shiftRight, Nat.shiftRight_eq_div_pow]
  exact Nat.and_two_pow_sub_one_eq_mod _ 8

theorem text_plainByte {n : Nat} (small : n ≤ 255) : PlainByte (text n) n :=
  ⟨unsigned_text n, small⟩

theorem strtoip_iptostr {ip : UInt32} (address : ip ≠ 0) :
    strtoip (iptostr ip ++ [0]) = some ⟨0, some ip, iptostr ip ++ [0]⟩ := by
  have small : ∀ shift : UInt32, ((ip >>> shift) &&& 0xFF).toNat ≤ 255 := by
    intro shift
    rw [octet_toNat]
    omega
  have plain := fun shift => text_plainByte (small shift)
  have nonzero : 0 ∉ iptostr ip := by
    have inner := fun shift => (plain shift).notMem (show ¬IsDigit 0 by decide)
    have mark : (0 : UInt8) ≠ 46 := by decide
    simp only [iptostr, List.mem_append, List.mem_cons, not_or]
    exact ⟨inner 24, mark, inner 16, mark, inner 8, mark, inner 0⟩
  have whole : joinBytes ((ip >>> 24) &&& 0xFF).toNat ((ip >>> 16) &&& 0xFF).toNat
      ((ip >>> 8) &&& 0xFF).toNat ((ip >>> 0) &&& 0xFF).toNat = ip := by
    rw [← UInt32.toNat_inj, joinBytes_toNat (small 24) (small 16) (small 8) (small 0)]
    have bound := ip.toNat_lt
    simp only [octet_toNat, UInt32.reduceToNat, Nat.reduceMod, Nat.reducePow]
    omega
  rw [iptostr_eq_joinParts] at nonzero ⊢
  rw [strtoip_joinParts nonzero (plain 24).ipPart (plain 16).ipPart (plain 8).ipPart,
    (plain 0).ipPart]
  simp only [whole, if_neg address]

/-- `strtoip` does what a parser of dotted addresses should on just these texts, the texts of
`iptostr` among them. -/
theorem parsesRight_iff {text : List UInt8} (nonzero : 0 ∉ text) :
    (ParsesRight text ↔ PlainWhereTaken text) ∧
      ∀ ip, ip ≠ 0 → strtoip (iptostr ip ++ [0]) = some ⟨0, some ip, iptostr ip ++ [0]⟩ :=
  ⟨⟨parsesRight_plain nonzero, plain_parsesRight nonzero⟩, fun _ address => strtoip_iptostr address⟩

theorem parsesRight_iff_ones :
    (ParsesRight [49, 46, 49, 46, 49, 46, 49] ↔ PlainWhereTaken [49, 46, 49, 46, 49, 46, 49]) ∧
      ∀ ip, ip ≠ 0 → strtoip (iptostr ip ++ [0]) = some ⟨0, some ip, iptostr ip ++ [0]⟩ :=
  parsesRight_iff (by decide)

-- After a number that is too large the dot stays overwritten, and a sign is taken.
example : strtoip [51, 48, 48, 46, 49, 46, 49, 46, 49, 0] =
    some ⟨-1, none, [51, 48, 48, 0, 49, 46, 49, 46, 49, 0]⟩ := by decide
example : strtoip [49, 46, 49, 46, 49, 46, 45, 48, 0] =
    some ⟨0, some 0x01010100, [49, 46, 49, 46, 49, 46, 45, 48, 0]⟩ := by decide

/-- A string with a single dot is read beyond its terminator. -/
theorem one_dot_not_parsesRight : 0 ∉ [49, 46, 50] ∧ ¬ParsesRight [49, 46, 50] := by
  refine ⟨by decide, ?_⟩
  rintro ⟨parse, ran, -⟩
  have past : strtoip ([49, 46, 50] ++ [0]) = none := by decide
  rw [past] at ran
  cases ran

end SmartMeter
