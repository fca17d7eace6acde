import Mathlib.Algebra.Group.Nat.Defs
import SmartMeter.Library.Decimal

/-!
`strtodec`, `strtoip` and `iptostr` of `utils.c`, on the bytes of a string up to its terminator.
-/

namespace SmartMeter

open Decimal

def int32 (number : Int) : Int := number.bmod 4294967296

def atodec (ch : UInt8) : Int := if 48 ≤ ch ∧ ch ≤ 57 then ch.toNat - 48 else -1

/-- The loop of `strtodec`: what is returned, and what is stored. There is no result for a string
without a terminator. -/
def decLoop (sign : Int) : List UInt8 → Int → Int → Option (Int × Option Int)
  | [], _, _ => none
  | ch :: str, i, dd =>
      if ch ≠ 0 then
        let i := atodec ch
        if i < 0 then some (-1, none) else decLoop sign str i (int32 (int32 (dd * 10) + i))
      else some (if i < 0 then -1 else 0, some (int32 (dd * sign)))

def strtodec : List UInt8 → Option (Int × Option Int)
  | [] => none
  | ch :: str => if ch = 45 then decLoop (-1) str (-1) 0 else decLoop 1 (ch :: str) (-1) 0

structure IpParse where
  ret : Int
  ipadr : Option UInt32
  str : List UInt8
deriving DecidableEq

def checkPart : Int × Option Int → Option Nat
  | (ret, some n) => if ret < 0 then none else if n < 0 ∨ n > 255 then none else some n.toNat
  | (_, none) => none

/-- The loop over the string and what follows it. Every round moves the tail on. -/
def ipLoop : Nat → List UInt8 → Nat → UInt32 → Nat → Nat → Option IpParse
  | 0, _, _, _, _, _ => none
  | rounds + 1, str, i, ip, head, tail =>
      if i < 3 then
        match str[tail]? with
        | none => none
        | some ch =>
            if ch = 46 then
              let cut := str.set tail 0
              match strtodec (cut.drop head) with
              | none => none
              | some parsed =>
                  match checkPart parsed with
                  | none => some ⟨-1, none, cut⟩
                  | some n =>
                      ipLoop rounds (cut.set tail 46) (i + 1) ((ip <<< 8) + UInt32.ofNat n)
                        (tail + 1) (tail + 1)
            else ipLoop rounds str i ip head (tail + 1)
      else
        match strtodec (str.drop head) with
        | none => none
        | some parsed =>
            match checkPart parsed with
            | none => some ⟨-1, none, str⟩
            | some n =>
                let ip := (ip <<< 8) + UInt32.ofNat n
                some ⟨if ip = 0 then -1 else 0, some ip, str⟩

def strtoip (str : List UInt8) : Option IpParse := ipLoop (str.length + 1) str 0 0 0 0

/-- The text that `sprintf` writes, before its terminator. -/
def iptostr (ip : UInt32) : List UInt8 :=
  text ((ip >>> 24) &&& 0xFF).toNat ++ (46 : UInt8) :: (text ((ip >>> 16) &&& 0xFF).toNat ++
    (46 : UInt8) :: (text ((ip >>> 8) &&& 0xFF).toNat ++
      (46 : UInt8) :: text ((ip >>> 0) &&& 0xFF).toNat))

example : strtoip [49, 46, 50, 46, 51, 46, 52, 0] =
    some ⟨0, some 0x01020304, [49, 46, 50, 46, 51, 46, 52, 0]⟩ := by decide

def ipPart (part : List UInt8) : Option Nat :=
  (signed part).bind fun number =>
    if int32 number < 0 ∨ int32 number > 255 then none else some (int32 number).toNat

theorem atodec_digit {ch : UInt8} (isDigit : IsDigit ch) : atodec ch = digit ch := by
  have low : 48 ≤ ch.toNat := UInt8.le_iff_toNat_le.mp isDigit.1
  rw [atodec, if_pos (show 48 ≤ ch ∧ ch ≤ 57 from isDigit), digit]
  omega

theorem decLoop_digits (sign : Int) {digits : List UInt8} (all : ∀ ch ∈ digits, IsDigit ch)
    (rest : List UInt8) (i dd : Int) (begun : digits = [] → 0 ≤ i) :
    decLoop sign (digits ++ 0 :: rest) i dd = some (0, some (int32 (digits.foldl
      (fun (sum : Int) ch => int32 (10 * sum + digit ch)) dd * sign))) := by
  induction digits generalizing i dd with
  | nil =>
      have positive := begun rfl
      rw [List.nil_append, decLoop, if_neg (not_not_intro rfl), if_neg (by omega)]
      rfl
  | cons ch digits ih =>
      have first := all ch List.mem_cons_self
      have nonzero : ch ≠ 0 := by
        rintro rfl
        exact absurd first (by decide)
      have step : int32 (int32 (dd * 10) + (digit ch : Int)) = int32 (10 * dd + digit ch) := by
        rw [int32, int32, Int.bmod_add_bmod, Int.mul_comm, int32]
      rw [List.cons_append, decLoop, if_pos nonzero]
      simp only [atodec_digit first]
      rw [if_neg (by omega), ih (fun other member => all other (List.mem_cons_of_mem _ member)) _ _
        (fun _ => by omega), step, List.foldl_cons]

theorem decLoop_other (sign : Int) {chars : List UInt8} (nonzero : 0 ∉ chars)
    (other : ∃ ch ∈ chars, ¬IsDigit ch) (rest : List UInt8) (i dd : Int) :
    decLoop sign (chars ++ 0 :: rest) i dd = some (-1, none) := by
  induction chars generalizing i dd with
  | nil =>
      obtain ⟨ch, member, -⟩ := other
      cases member
  | cons ch chars ih =>
      have apart : ch ≠ 0 := fun same => nonzero (same ▸ List.mem_cons_self)
      rw [List.cons_append, decLoop, if_pos apart]
      by_cases first : IsDigit ch
      · simp only [atodec_digit first]
        rw [if_neg (by omega)]
        apply ih (fun member => nonzero (List.mem_cons_of_mem _ member))
        obtain ⟨bad, member, notDigit⟩ := other
        rcases List.mem_cons.mp member with rfl | later
        · exact absurd first notDigit
        · exact ⟨bad, later, notDigit⟩
      · have negative : atodec ch = -1 := if_neg first
        simp only [negative]
        rfl

theorem fold_int32 (digits : List UInt8) :
    digits.foldl (fun (sum : Int) ch => int32 (10 * sum + digit ch)) 0 = int32 (value digits) :=
  (foldl_bmod 4294967296 digits 0).trans (congrArg int32 (foldl_cast digits 0))

theorem int32_mul (number sign : Int) : int32 (int32 number * sign) = int32 (number * sign) :=
  Int.bmod_mul_bmod

theorem checkPart_ok (n : Int) :
    checkPart (0, some n) = if n < 0 ∨ n > 255 then none else some n.toNat := rfl

/-- The loop over a text up to its terminator. -/
theorem decLoop_spec (sign : Int) {chars : List UInt8} (nonzero : 0 ∉ chars)
    (rest : List UInt8) :
    ∃ parsed, decLoop sign (chars ++ 0 :: rest) (-1) 0 = some parsed ∧
      checkPart parsed =
        (unsigned chars).bind fun number => checkPart (0, some (int32 (number * sign))) := by
  by_cases empty : chars = []
  · subst empty
    exact ⟨_, rfl, rfl⟩
  · by_cases all : ∀ ch ∈ chars, IsDigit ch
    · refine ⟨_, decLoop_digits sign all rest (-1) 0 (fun nothing => absurd nothing empty), ?_⟩
      rw [fold_int32, int32_mul, unsigned, if_pos (show Digits chars from ⟨empty, all⟩), Option.bind_some]
    · have other : ∃ ch ∈ chars, ¬IsDigit ch := by
        by_contra nothing
        exact all fun ch member => by_contra fun notDigit => nothing ⟨ch, member, notDigit⟩
      refine ⟨_, decLoop_other sign nonzero other rest (-1) 0, ?_⟩
      rw [unsigned, if_neg (fun both : Digits chars => all both.2)]
      rfl

theorem strtodec_spec {part : List UInt8} (nonzero : 0 ∉ part) (rest : List UInt8) :
    ∃ parsed, strtodec (part ++ 0 :: rest) = some parsed ∧ checkPart parsed = ipPart part := by
  cases part with
  | nil => exact ⟨_, rfl, rfl⟩
  | cons ch part =>
      by_cases minus : ch = 45
      · have inner : 0 ∉ part := fun member => nonzero (List.mem_cons_of_mem _ member)
        obtain ⟨parsed, ran, checked⟩ := decLoop_spec (-1) inner rest
        refine ⟨parsed, ?_, ?_⟩
        · rw [List.cons_append, strtodec, if_pos minus, ran]
        · rw [checked, ipPart, signed, if_pos minus, Option.bind_map]
          refine congrArg (Option.bind (unsigned part)) (funext fun number => ?_)
          rw [Int.mul_neg_one, checkPart_ok, Function.comp_apply]
      · obtain ⟨parsed, ran, checked⟩ := decLoop_spec 1 nonzero rest
        refine ⟨parsed, ?_, ?_⟩
        · rw [List.cons_append, strtodec, if_neg minus, ← List.cons_append, ran]
        · rw [checked, ipPart, signed, if_neg minus, Option.bind_map]
          refine congrArg (Option.bind (unsigned (ch :: part))) (funext fun number => ?_)
          rw [Int.mul_one, checkPart_ok, Function.comp_apply]

theorem unsigned_notMem {part : List UInt8} {number : Nat} (read : unsigned part = some number)
    {ch : UInt8} (other : ¬IsDigit ch) : ch ∉ part :=
  fun member => other (unsigned_digit read member)

/-- A part that is taken for a number has no dot. -/
theorem ipPart_notMem {part : List UInt8} {number : Nat} (taken : ipPart part = some number) :
    46 ∉ part := by
  obtain ⟨read, isRead, -⟩ := Option.bind_eq_some_iff.mp taken
  cases part with
  | nil => exact List.not_mem_nil
  | cons ch part =>
      rw [signed] at isRead
      split at isRead
      · rename_i minus
        obtain ⟨plain, isPlain, -⟩ := Option.map_eq_some_iff.mp isRead
        rintro member
        rcases List.mem_cons.mp member with same | later
        · exact absurd (same.trans minus) (by decide)
        · exact unsigned_notMem isPlain (by decide) later
      · obtain ⟨plain, isPlain, -⟩ := Option.map_eq_some_iff.mp isRead
        exact unsigned_notMem isPlain (by decide)

theorem ipPart_le {part : List UInt8} {number : Nat} (taken : ipPart part = some number) :
    number ≤ 255 := by
  obtain ⟨read, -, kept⟩ := Option.bind_eq_some_iff.mp taken
  split at kept
  · cases kept
  · cases kept
    omega

theorem ipPart_of_unsigned {part : List UInt8} {number : Nat}
    (read : unsigned part = some number) (small : number ≤ 255) : ipPart part = some number := by
  have same : int32 (number : Int) = number := by
    rw [int32, Int.bmod_eq_of_le (by omega) (by omega)]
  rw [ipPart, signed_of_unsigned read, Option.bind_some, same, if_neg (by omega), Int.toNat_natCast]

end SmartMeter
