import SmartMeter.Atcmd.ArgumentFilter
import SmartMeter.Atcmd.ArgumentSegments

/-!
Arguments in quotation marks: they come back as they were unless one that is not the last ends
with a backslash. The comma behind such an argument is taken for part of it.
-/

namespace SmartMeter

open Escaping

/-- Every quotation mark and backslash behind a backslash. -/
def escaped (arg : List UInt8) : List UInt8 :=
  escape 92 (fun byte => byte = 34 ∨ byte = 92) arg

def quoted (arg : List UInt8) : List UInt8 :=
  34 :: escaped arg ++ [34]

def joinedArgs (args : List (List UInt8)) : List UInt8 :=
  [44].intercalate (args.map quoted)

def commandLine (name : List UInt8) (args : List (List UInt8)) : List UInt8 :=
  name ++ 61 :: joinedArgs args ++ [10]

/-- `atcmd_filter_quotation` on `count` arguments one after the other: what it returns and the
string at `*keyInfo`. -/
def filterArgs (arg : Nat → Nat) : Nat → Nat → List UInt8 → List (Int × List UInt8)
  | 0, _, _ => []
  | count + 1, index, buf =>
      let (status, keyInfo, buf) := atcmdFilterQuotation (arg index) buf
      (status, cString (buf.drop keyInfo)) :: filterArgs arg count (index + 1) buf

structure ArgumentsReadBack (name : List UInt8) (args : List (List UInt8))
    (parsed : AtcmdParsed) : Prop where
  status : parsed.1 = 0
  name : parsed.2.1.name = name
  argFound : parsed.2.1.argFound = args.length
  arguments : filterArgs parsed.2.1.arg args.length 0 parsed.2.2 = args.map ((0, ·))

section Scan

/-- The loop of `get_first_comma` on what is left, with the two bytes before it. -/
def separator : UInt8 → UInt8 → List UInt8 → Option Nat
  | _, _, [] => none
  | second, prec, curc :: rest =>
      if curc = 44 ∧ prec = 34 ∧ second ≠ 92 then some 0
      else (separator prec curc rest).map (· + 1)

theorem commaFrom_eq {buf front rest post : List UInt8} {second prec : UInt8}
    (split : buf = front ++ rest ++ post)
    (behind : (front.length < 3 ∨ buf.getD (front.length - 2) 0 ≠ 92) ↔ second ≠ 92)
    (before : front.length = 1 ∧ prec = 0 ∨
      2 ≤ front.length ∧ prec = buf.getD (front.length - 1) 0) :
    commaFrom buf front.length prec rest.length =
      (separator second prec rest).map (· + front.length) := by
  induction rest generalizing front second prec with
  | nil => rfl
  | cons curc rest ih =>
      have byte : buf.getD front.length 0 = curc := by
        rw [split]
        simp [List.getD_eq_getElem?_getD]
      have further : (front ++ [curc]).length = front.length + 1 := by simp
      have some_front : 1 ≤ front.length := by omega
      have step := @ih (front ++ [curc]) prec curc (by rw [split]; simp) (by
        rw [further]
        rcases before with ⟨one, rfl⟩ | ⟨two, rfl⟩
        · simp [one]
        · have index : front.length + 1 - 2 = front.length - 1 := by omega
          rw [index]
          constructor
          · rintro (short | plain)
            · omega
            · exact plain
          · exact .inr) (by
        rw [further, Nat.add_sub_cancel, byte]
        exact .inr ⟨by omega, rfl⟩)
      rw [further] at step
      rw [List.length_cons, commaFrom, separator, byte, step]
      by_cases found : curc = 44 ∧ prec = 34 ∧ second ≠ 92
      · rw [if_pos found, if_pos ⟨found.1, found.2.1, behind.mpr found.2.2⟩]
        simp
      · rw [if_neg found, if_neg fun here => found ⟨here.1, here.2.1, behind.mp here.2.2⟩,
          Option.map_map]
        congr 1
        funext place
        simp only [Function.comp_apply]
        omega

def QuietBefore (second prec : UInt8) : Prop := prec = 34 → second = 92

theorem QuietBefore.passes {second prec : UInt8} (quiet : QuietBefore second prec) (curc : UInt8)
    (rest : List UInt8) :
    separator second prec (curc :: rest) = (separator prec curc rest).map (· + 1) := by
  rw [separator, if_neg]
  rintro ⟨-, closed, plain⟩
  exact plain (quiet closed)

theorem escaped_cons (first : UInt8) (arg : List UInt8) : escaped (first :: arg) =
    (if decide (first = 34 ∨ first = 92) then [92, first] else [first]) ++ escaped arg :=
  escape_cons first arg

/-- An escaped text holds no separator. -/
theorem separator_escape {second prec : UInt8} (quiet : QuietBefore second prec) (arg rest : List UInt8) :
    ∃ before, QuietBefore before (arg.getLast?.getD prec) ∧
      separator second prec (escaped arg ++ rest) =
        (separator before (arg.getLast?.getD prec) rest).map
          (· + (escaped arg).length) := by
  induction arg generalizing second prec with
  | nil => exact ⟨second, quiet, by simp [escaped, escape]⟩
  | cons first arg ih =>
      have last (other : UInt8) : (first :: arg).getLast?.getD other = arg.getLast?.getD first := by
        rw [List.getLast?_cons]
        rfl
      rw [last, escaped_cons]
      by_cases special : first = 34 ∨ first = 92
      · have marked : QuietBefore 92 first := fun _ => rfl
        have quietMark : QuietBefore prec 92 := fun isQuote => absurd isQuote (by decide)
        obtain ⟨before, still, scanned⟩ := ih marked
        refine ⟨before, still, ?_⟩
        rw [if_pos (by simpa using special)]
        simp only [List.cons_append, List.nil_append, List.length_cons, quiet.passes,
          quietMark.passes, scanned, Option.map_map]
        rfl
      · have plain : QuietBefore prec first := fun isQuote => absurd (.inl isQuote) special
        obtain ⟨before, still, scanned⟩ := ih plain
        refine ⟨before, still, ?_⟩
        rw [if_neg (by simpa using special)]
        simp only [List.cons_append, List.nil_append, List.length_cons, quiet.passes, scanned,
          Option.map_map]
        rfl

theorem nextComma_open (text : List UInt8) :
    nextComma (34 :: text) = (separator 0 0 (text ++ [10])).map (· + 1) := by
  have scanned := @commaFrom_eq (34 :: text ++ [10, 0]) [34] (text ++ [10]) [0] 0 0 (by simp)
    (by simp) (.inl ⟨rfl, rfl⟩)
  have count : (((34 :: text).length : Int) + 1).toNat - 1 = (text ++ [10]).length := by
    rw [List.length_cons, List.length_append, List.length_singleton]
    omega
  have open_quote : (34 :: text ++ [10, 0]).getD 0 0 = 34 := rfl
  rw [nextComma, getFirstComma, if_neg (by omega), if_pos open_quote, count]
  exact scanned

theorem quoted_length (arg : List UInt8) : (quoted arg).length =
    (escaped arg).length + 2 := by
  simp [quoted]

/-- The scan comes to the closing quotation mark. -/
theorem nextComma_quoted (arg rest : List UInt8) : ∃ before,
    nextComma (quoted arg ++ rest) =
      (separator (arg.getLast?.getD 0) 34 (rest ++ [10])).map (· + (quoted arg).length) ∧
      QuietBefore before (arg.getLast?.getD 0) := by
  obtain ⟨before, quiet, scanned⟩ := separator_escape (by simp [QuietBefore] : QuietBefore 0 0) arg
    (34 :: (rest ++ [10]))
  refine ⟨before, ?_, quiet⟩
  have split : quoted arg ++ rest =
      34 :: (escaped arg ++ 34 :: rest) := by
    simp [quoted]
  rw [split, nextComma_open, List.append_assoc, List.cons_append, scanned, quiet.passes,
    quoted_length]
  simp only [Option.map_map]
  congr 1
  funext place
  simp only [Function.comp_apply]
  omega

theorem nextComma_last (arg : List UInt8) : nextComma (quoted arg) = none := by
  obtain ⟨before, scanned, -⟩ := nextComma_quoted arg []
  rw [List.append_nil] at scanned
  rw [scanned]
  rfl

theorem nextComma_clean {arg : List UInt8} (clean : arg.getLast? ≠ some 92) (rest : List UInt8) :
    nextComma (quoted arg ++ 44 :: rest) = some (quoted arg).length := by
  obtain ⟨before, scanned, -⟩ := nextComma_quoted arg (44 :: rest)
  have plain : arg.getLast?.getD 0 ≠ 92 := by
    cases last : arg.getLast? with
    | none => decide
    | some byte =>
        rintro rfl
        exact clean last
  rw [scanned, List.cons_append, separator, if_pos ⟨rfl, rfl, plain⟩]
  simp

theorem nextComma_backslash {arg : List UInt8} (ends : arg.getLast? = some 92) (rest : List UInt8) :
    ∀ comma, nextComma (quoted arg ++ 44 :: rest) = some comma → (quoted arg).length < comma := by
  obtain ⟨before, scanned, -⟩ := nextComma_quoted arg (44 :: rest)
  intro comma found
  rw [scanned, ends, List.cons_append, separator, if_neg (by simp), Option.map_map] at found
  obtain ⟨place, -, rfl⟩ := Option.map_eq_some_iff.mp found
  simp only [Function.comp_apply]
  omega

end Scan

def Separable (args : List (List UInt8)) : Prop :=
  ∀ arg ∈ args.dropLast, arg.getLast? ≠ some 92

section

variable {first second arg : List UInt8} {rest args : List (List UInt8)}

theorem separable_cons_cons : Separable (first :: second :: rest) ↔
    first.getLast? ≠ some 92 ∧ Separable (second :: rest) := by
  simp [Separable]

theorem joinedArgs_cons_cons : joinedArgs (first :: second :: rest) =
    quoted first ++ 44 :: joinedArgs (second :: rest) := by
  simp [joinedArgs, List.intercalate_cons_cons]

/-- A byte of none of the arguments and none of the marks is not in the line. -/
theorem escaped_clear {value : UInt8} (mark : value ≠ 92) (clear : value ∉ arg) :
    value ∉ escaped arg := by
  intro member
  rcases mem_escape member with isMark | inside
  · exact mark isMark
  · exact clear inside

theorem joinedArgs_clear {value : UInt8} (mark : value ≠ 92) (quote : value ≠ 34) (comma : value ≠ 44)
    (clear : ∀ arg ∈ args, value ∉ arg) : value ∉ joinedArgs args := by
  induction args with
  | nil => exact List.not_mem_nil
  | cons first rest ih =>
      have firstClear : value ∉ quoted first := by
        have inside := escaped_clear mark (clear first (List.mem_cons_self ..))
        simpa [quoted, quote] using inside
      cases rest with
      | nil => simpa [joinedArgs] using firstClear
      | cons second rest =>
          have behind := ih fun arg member => clear arg (List.mem_cons_of_mem _ member)
          rw [joinedArgs_cons_cons]
          simp only [List.mem_append, List.mem_cons, not_or]
          exact ⟨firstClear, comma, behind⟩

theorem segments_separable (filled : args ≠ []) (separable : Separable args) {left : Nat}
    (fits : args.length ≤ left) : segments left (joinedArgs args) = some (args.map quoted) := by
  induction args generalizing left with
  | nil => exact absurd rfl filled
  | cons first rest ih =>
      obtain ⟨left, rfl⟩ : ∃ fewer, left = fewer + 1 := by
        rw [List.length_cons] at fits
        exact ⟨left - 1, by omega⟩
      cases rest with
      | nil =>
          have line : joinedArgs [first] = quoted first := by simp [joinedArgs]
          rw [segments, line, nextComma_last]
          rfl
      | cons second rest =>
          obtain ⟨clean, separable⟩ := separable_cons_cons.mp separable
          have behind := ih (List.cons_ne_nil _ _) separable
            (Nat.le_of_succ_le_succ fits)
          have cut : (quoted first ++ 44 :: joinedArgs (second :: rest)).drop
              ((quoted first).length + 1) = joinedArgs (second :: rest) := by
            rw [← List.drop_drop, List.drop_left]
            rfl
          rw [segments, joinedArgs_cons_cons, nextComma_clean clean]
          dsimp only
          rw [cut, behind, List.take_left]
          rfl

theorem segments_clean (clean : first.getLast? ≠ some 92) {left : Nat}
    {cut : List (List UInt8)} (found : segments left (joinedArgs (first :: second :: rest)) = some cut) :
    ∃ behind fewer, segments fewer (joinedArgs (second :: rest)) = some behind ∧
      cut = quoted first :: behind := by
  cases left with
  | zero => cases found
  | succ left =>
      have rest_cut : (quoted first ++ 44 :: joinedArgs (second :: rest)).drop
          ((quoted first).length + 1) = joinedArgs (second :: rest) := by
        rw [← List.drop_drop, List.drop_left]
        rfl
      rw [segments, joinedArgs_cons_cons, nextComma_clean clean] at found
      dsimp only at found
      rw [rest_cut, List.take_left] at found
      obtain ⟨behind, inner, rfl⟩ := Option.map_eq_some_iff.mp found
      exact ⟨behind, left, inner, rfl⟩

/-- The segment of an argument that ends with a backslash runs beyond the comma behind it. -/
theorem segments_backslash (ends : first.getLast? = some 92) {left : Nat}
    {cut : List (List UInt8)} (found : segments left (joinedArgs (first :: second :: rest)) = some cut) :
    ∃ more behind, cut = (quoted first ++ 44 :: more) :: behind ∧
      (44 :: more).Sublist (44 :: joinedArgs (second :: rest)) := by
  cases left with
  | zero => cases found
  | succ left =>
      rw [segments, joinedArgs_cons_cons] at found
      split at found
      · cases found
        exact ⟨_, [], rfl, List.Sublist.refl _⟩
      · rename_i comma next
        have beyond := nextComma_backslash ends _ comma next
        obtain ⟨behind, -, rfl⟩ := Option.map_eq_some_iff.mp found
        obtain ⟨extra, rfl⟩ : ∃ extra, comma = (quoted first).length + (extra + 1) :=
          ⟨comma - (quoted first).length - 1, by omega⟩
        refine ⟨(joinedArgs (second :: rest)).take extra, behind, ?_, ?_⟩
        · rw [List.take_length_add_append]
          rfl
        · exact (List.take_sublist _ _).cons_cons 44

theorem unescape_escaped_append (arg more : List UInt8) :
    unescape 92 (escaped arg ++ more) = arg ++ unescape 92 more :=
  unescape_escape_append rfl arg more

theorem closedSegments_cons (segment : List UInt8) (cut : List (List UInt8)) :
    closedSegments (segment :: cut) = segment ++ 0 :: closedSegments cut := by
  simp [closedSegments]

theorem quoted_cut (pre : List UInt8) (arg : List UInt8) (cut : List (List UInt8))
    (post : List UInt8) : pre ++ closedSegments (quoted arg :: cut) ++ post =
      pre ++ 34 :: (escaped arg ++ [34]) ++
        0 :: (closedSegments cut ++ post) := by
  simp [closedSegments_cons, quoted]

theorem filterArgs_quoted {arg : Nat → Nat} {pre : List UInt8} {index : Nat}
    (placed : arg index = pre.length) (nonzero : 0 ∉ first) (short : (quoted first).length < 256)
    (cut : List (List UInt8)) (post : List UInt8) (count : Nat) :
    ∃ read : List UInt8, read.length = (quoted first).length ∧
      filterArgs arg (count + 1) index (pre ++ closedSegments (quoted first :: cut) ++ post) =
        (0, first) :: filterArgs arg count (index + 1)
          ((pre ++ read ++ [0]) ++ closedSegments cut ++ post) := by
  have clear := escaped_clear (by decide) nonzero
  rw [quoted_length] at short
  obtain ⟨read, length, filtered, string⟩ := @filterQuotation_quoted pre
    (escaped first) (closedSegments cut ++ post) clear short
  rw [← List.append_nil (escaped first), unescape_escaped_append, unescape, List.append_nil] at string
  refine ⟨read, by rw [length, quoted_length], ?_⟩
  rw [filterArgs, placed, quoted_cut, filtered]
  dsimp only
  rw [string]
  simp

theorem filterArgs_separable {arg : Nat → Nat} {pre : List UInt8} {index : Nat}
    (nonzero : ∀ text ∈ args, 0 ∉ text) (short : ∀ text ∈ args, (quoted text).length < 256)
    (placed : PlacedArgs arg index pre.length (args.map quoted)) (post : List UInt8) :
    filterArgs arg args.length index (pre ++ closedSegments (args.map quoted) ++ post) =
      args.map ((0, ·)) := by
  induction args generalizing pre index with
  | nil => rfl
  | cons first rest ih =>
      have here := placed.1 (.inl (List.cons_ne_nil _ _))
      obtain ⟨read, length, filtered⟩ := filterArgs_quoted here (nonzero _ (List.mem_cons_self ..))
        (short _ (List.mem_cons_self ..)) (rest.map quoted) post rest.length
      have behind : PlacedArgs arg (index + 1) (pre ++ read ++ [0]).length (rest.map quoted) := by
        have next := placed.2
        rw [← length] at next
        simpa [Nat.add_assoc] using next
      rw [List.length_cons, List.map_cons, filtered, ih
        (fun text member => nonzero text (List.mem_cons_of_mem _ member))
        (fun text member => short text (List.mem_cons_of_mem _ member)) behind]
      rfl

/-- The token of an argument that ends with a backslash is more than the argument. -/
theorem filterQuotation_backslash {pre more : List UInt8} (nonzero : 0 ∉ quoted first ++ 44 :: more)
    (short : (quoted first ++ 44 :: more).length < 256) (post : List UInt8) :
    let filtered := atcmdFilterQuotation pre.length (pre ++ (quoted first ++ 44 :: more) ++ 0 :: post)
    (filtered.1, cString (filtered.2.2.drop filtered.2.1)) ≠ (0, first) := by
  intro filtered same
  have token : quoted first ++ 44 :: more =
      34 :: (escaped first ++ 34 :: 44 :: more) := by
    simp [quoted]
  rw [token] at nonzero short
  have noZero : 0 ∉ escaped first ++ 34 :: 44 :: more :=
    fun member => nonzero (List.mem_cons_of_mem _ member)
  rcases List.eq_nil_or_concat (44 :: more) with empty | ⟨front, last, ends⟩
  · cases empty
  rw [List.concat_eq_append] at ends
  by_cases closed : last = 34
  · obtain ⟨read, -, result, string⟩ := @filterQuotation_quoted pre
      (escaped first ++ 34 :: front) post
      (by rw [ends] at noZero; simp at noZero ⊢; tauto)
      (by rw [ends] at short; simp at short ⊢; omega)
    have split : quoted first ++ 44 :: more =
        34 :: (escaped first ++ 34 :: front ++ [34]) := by
      rw [token, ends, closed]
      simp
    have value : filtered = (0, pre.length + 1, pre ++ read ++ 0 :: post) := by
      rw [← result, ← split]
    rw [value, string, unescape_escaped_append, unescape_plain (by decide)] at same
    have lengths := congrArg List.length (Prod.mk.inj same).2
    rw [List.length_append, List.length_cons] at lengths
    omega
  · have unclosed : (escaped first ++ 34 :: 44 :: more).getLast? ≠ some 34 := by
      have split : escaped first ++ 34 :: 44 :: more = (escaped first ++ 34 :: front) ++ [last] := by
        rw [ends]
        simp
      rw [split, List.getLast?_append]
      simpa using closed
    have refused := @filterQuotation_open pre
      (escaped first ++ 34 :: 44 :: more) post noZero
      (by simpa using short) (by simp) unclosed
    rw [← token] at refused
    rw [show filtered.1 = 1 from refused] at same
    cases (Prod.mk.inj same).1

theorem separable_of_filterArgs {arg : Nat → Nat} {pre : List UInt8} {index left : Nat}
    {cut : List (List UInt8)} (filled : args ≠ []) (nonzero : ∀ text ∈ args, 0 ∉ text)
    (short : (joinedArgs args).length < 256) (found : segments left (joinedArgs args) = some cut)
    (placed : PlacedArgs arg index pre.length cut) (post : List UInt8)
    (reads : filterArgs arg args.length index (pre ++ closedSegments cut ++ post) =
      args.map ((0, ·))) : Separable args := by
  induction args generalizing pre index left cut with
  | nil => exact absurd rfl filled
  | cons first rest ih =>
      cases rest with
      | nil => simp [Separable]
      | cons second rest =>
          have lineNonzero := joinedArgs_clear (by decide) (by decide) (by decide) nonzero
          rw [joinedArgs_cons_cons] at lineNonzero short
          have firstShort : (quoted first).length < 256 := by
            rw [List.length_append] at short
            omega
          by_cases ends : first.getLast? = some 92
          · obtain ⟨more, behind, rfl, inside⟩ := segments_backslash ends found
            have here := placed.1 (.inl (by simp [quoted]))
            have token : 0 ∉ quoted first ++ 44 :: more := by
              intro member
              refine lineNonzero ?_
              rcases List.mem_append.mp member with left | right
              · exact List.mem_append_left _ left
              · exact List.mem_append_right _ (inside.subset right)
            have tokenShort : (quoted first ++ 44 :: more).length < 256 := by
              have bound := inside.length_le
              rw [List.length_append] at short ⊢
              omega
            rw [List.length_cons, filterArgs, here, closedSegments_cons, List.append_assoc,
              List.append_assoc, List.cons_append, ← List.append_assoc, List.map_cons] at reads
            exact absurd (List.cons.inj reads).1 (filterQuotation_backslash token tokenShort _)
          · obtain ⟨behind, fewer, inner, rfl⟩ := segments_clean ends found
            have here := placed.1 (.inl (by simp [quoted]))
            obtain ⟨read, length, filtered⟩ := filterArgs_quoted here
              (nonzero _ (List.mem_cons_self ..)) firstShort behind post (second :: rest).length
            have next : PlacedArgs arg (index + 1) (pre ++ read ++ [0]).length behind := by
              have next := placed.2
              rw [← length] at next
              simpa [Nat.add_assoc] using next
            rw [List.length_cons, filtered, List.map_cons] at reads
            refine separable_cons_cons.mpr ⟨ends, ih (List.cons_ne_nil _ _)
              (fun text member => nonzero text (List.mem_cons_of_mem _ member)) ?_ inner next
              (List.cons.inj reads).2⟩
            rw [List.length_append, List.length_cons] at short
            omega

theorem argumentCount_quoted (args : List (List UInt8)) :
    argumentCount (args.map quoted) = args.length := by
  induction args with
  | nil => rfl
  | cons first rest ih =>
      cases rest with
      | nil => simp [argumentCount, quoted]
      | cons second rest =>
          simp only [List.map_cons, argumentCount, List.length_cons] at ih ⊢
          rw [ih]

theorem quoted_le_joined (member : arg ∈ args) : (quoted arg).length ≤ (joinedArgs args).length := by
  induction args with
  | nil => cases member
  | cons first rest ih =>
      cases rest with
      | nil =>
          obtain rfl := List.mem_singleton.mp member
          simp [joinedArgs]
      | cons second rest =>
          rw [joinedArgs_cons_cons, List.length_append, List.length_cons]
          rcases List.mem_cons.mp member with rfl | behind
          · exact Nat.le_add_right _ _
          · have bound := ih behind
            omega

/-- The first byte of the arguments is neither `!` nor `?`. -/
theorem joinedArgs_first (args : List (List UInt8)) : (joinedArgs args ++ [10, 0]).getD 0 0 = 34 ∨
    (joinedArgs args ++ [10, 0]).getD 0 0 = 10 := by
  cases args with
  | nil => exact .inr rfl
  | cons first rest =>
      cases rest with
      | nil => exact .inl (by simp [joinedArgs, quoted])
      | cons second rest => exact .inl (by simp [joinedArgs_cons_cons, quoted])

theorem tlsAtcmdParse_line (tok : AtcmdToken) {name : List UInt8} (fits : name.length < atcmdNameMaxLen)
    (nameClear : ∀ byte ∈ name, byte ≠ 61 ∧ byte ≠ 0) (clear : ∀ arg ∈ args, 10 ∉ arg ∧ 0 ∉ arg) :
    let pre := name ++ [61]
    tlsAtcmdParse tok (commandLine name args ++ [0]) (commandLine name args).length =
      parseArgs (pre.length + (joinedArgs args).length) (atcmdMaxArg - 1) pre.length
        ((joinedArgs args).length + 1)
        { tok with name, op := atcmdOpEq, arg := Function.update tok.arg 0 pre.length, argFound := 0 }
        (pre ++ joinedArgs args ++ [10, 0]) := by
  intro pre
  have length : pre.length = name.length + 1 := by simp [pre]
  have total : (commandLine name args).length = pre.length + (joinedArgs args).length + 1 := by
    simp [commandLine, length]
    omega
  have line : commandLine name args ++ [0] = name ++ 61 :: (joinedArgs args ++ [10, 0]) := by
    simp [commandLine]
  have behind : (name ++ 61 :: (joinedArgs args ++ [10, 0])).drop (name.length + 1) =
      joinedArgs args ++ [10, 0] := by
    rw [← List.drop_drop, List.drop_left]
    rfl
  have next : (name ++ 61 :: (joinedArgs args ++ [10, 0])).getD (name.length + 1) 0 =
      (joinedArgs args ++ [10, 0]).getD 0 0 := by
    simp [List.getD_eq_getElem?_getD]
  have lineEnd : strchr (joinedArgs args ++ [10, 0]) 10 = some (joinedArgs args).length := by
    apply strchr_found
    have newline := joinedArgs_clear (by decide) (by decide) (by decide) fun arg member =>
      (clear arg member).1
    have zero := joinedArgs_clear (by decide) (by decide) (by decide) fun arg member =>
      (clear arg member).2
    intro byte member
    exact ⟨fun same => newline (same ▸ member), fun same => zero (same ▸ member)⟩
  have short : ¬name.length > atcmdNameMaxLen - 1 := by omega
  have plain : (joinedArgs args ++ [10, 0]).getD 0 0 ≠ 33 ∧ (joinedArgs args ++ [10, 0]).getD 0 0 ≠ 63 := by
    rcases joinedArgs_first args with first | first
    · rw [first]
      decide
    · rw [first]
      decide
  rw [tlsAtcmdParse, if_neg (by omega), line, strchr_found _ nameClear]
  dsimp only
  rw [if_neg short, next, if_neg plain.1, if_neg plain.2]
  dsimp only
  rw [if_neg (by decide), behind, lineEnd, List.take_left, total, length]
  dsimp only
  have remaining : ((name.length + 1 + (joinedArgs args).length + 1 : Nat) : Int) -
      ((name.length + 1 : Nat) : Int) = (joinedArgs args).length + 1 := by omega
  rw [remaining]
  congr 1
  simp [pre]

end

/-- Every name within its limit and every list of arguments that a token takes: the arguments
come back exactly if none but the last ends with a backslash. -/
theorem arguments_read_back_iff (tok : AtcmdToken) (name : List UInt8)
    (nameFits : name.length < atcmdNameMaxLen) (nameClear : 61 ∉ name ∧ 0 ∉ name)
    (args : List (List UInt8)) (argsFit : args.length < atcmdMaxArg)
    (clear : ∀ arg ∈ args, 10 ∉ arg ∧ 0 ∉ arg) (short : (commandLine name args).length < 128) :
    ArgumentsReadBack name args
      (tlsAtcmdParse tok (commandLine name args ++ [0]) (commandLine name args).length) ↔
      Separable args := by
  have nonzero : ∀ text ∈ args, 0 ∉ text := fun text member => (clear text member).2
  have lineShort : (joinedArgs args).length < 256 := by
    rw [commandLine, List.length_append, List.length_append, List.length_cons] at short
    omega
  have nameBytes : ∀ byte ∈ name, byte ≠ 61 ∧ byte ≠ 0 := fun byte member =>
    ⟨fun same => nameClear.1 (same ▸ member), fun same => nameClear.2 (same ▸ member)⟩
  rw [tlsAtcmdParse_line tok nameFits nameBytes clear]
  have parsed := @parseArgs_segments (name ++ [61]) (joinedArgs args)
    { tok with
      name, op := atcmdOpEq, arg := Function.update tok.arg 0 (name ++ [61]).length, argFound := 0 }
    (atcmdMaxArg - 1) (by simp only [Function.update_self])
  by_cases filled : args = []
  · subst filled
    have none_found : segments (atcmdMaxArg - 1) (joinedArgs []) = some [[]] := rfl
    rw [none_found] at parsed
    refine iff_of_true ⟨parsed.status, parsed.name, parsed.argFound, rfl⟩ ?_
    simp [Separable]
  constructor
  · intro reads
    cases found : segments (atcmdMaxArg - 1) (joinedArgs args) with
    | none =>
        rw [found] at parsed
        exact absurd reads.status parsed
    | some cut =>
        rw [found] at parsed
        have arguments := reads.arguments
        rw [parsed.buf] at arguments
        exact separable_of_filterArgs filled nonzero lineShort found parsed.placed _ arguments
  · intro separable
    have found := segments_separable filled separable (by omega : args.length ≤ atcmdMaxArg - 1)
    rw [found] at parsed
    refine ⟨parsed.status, parsed.name, ?_, ?_⟩
    · rw [parsed.argFound, argumentCount_quoted]
      exact Nat.zero_add _
    · rw [parsed.buf]
      refine filterArgs_separable nonzero (fun text member => ?_) parsed.placed _
      exact Nat.lt_of_le_of_lt (quoted_le_joined member) lineShort

def emptyToken : AtcmdToken := ⟨[], 0, fun _ => 0, 0⟩

/-- `W="a\"","b,\\"`, whose last argument ends with a backslash. -/
theorem arguments_read_back_iff_two :
    ArgumentsReadBack [0x57] [[0x61, 0x22], [0x62, 0x2C, 0x5C]]
      (tlsAtcmdParse emptyToken (commandLine [0x57] [[0x61, 0x22], [0x62, 0x2C, 0x5C]] ++ [0])
        (commandLine [0x57] [[0x61, 0x22], [0x62, 0x2C, 0x5C]]).length) ↔
      Separable [[0x61, 0x22], [0x62, 0x2C, 0x5C]] :=
  arguments_read_back_iff emptyToken [0x57] (by decide) (by decide) _ (by decide) (by decide)
    (by decide)

/-- `W="\\","b"` is one argument. -/
theorem backslash_swallows_comma :
    ¬ArgumentsReadBack [0x57] [[0x5C], [0x62]]
      (tlsAtcmdParse emptyToken (commandLine [0x57] [[0x5C], [0x62]] ++ [0])
        (commandLine [0x57] [[0x5C], [0x62]]).length) := by
  intro reads
  have one : (tlsAtcmdParse emptyToken (commandLine [0x57] [[0x5C], [0x62]] ++ [0])
      (commandLine [0x57] [[0x5C], [0x62]]).length).2.1.argFound = 1 := by decide
  rw [reads.argFound] at one
  cases one

end SmartMeter
