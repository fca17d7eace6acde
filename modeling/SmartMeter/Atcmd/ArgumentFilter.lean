import SmartMeter.Library.Escaping
import SmartMeter.Atcmd.ArgumentCore

/-!
`atcmd_filter_quotation` on one token of the command line: what stands between the quotation marks
is unescaped in its place.
-/

namespace SmartMeter

open Escaping

theorem cString_append {text : List UInt8} (nonzero : 0 ∉ text) (rest : List UInt8) :
    cString (text ++ 0 :: rest) = text := by
  have clear : ∀ byte ∈ text, decide (byte ≠ 0) = true := by
    intro byte member
    simpa using fun zero : byte = 0 => nonzero (zero ▸ member)
  rw [cString, List.takeWhile_append_of_pos clear]
  simp

/-- `memcpy` moves the bytes behind one byte over it. -/
theorem memcpy_back (pre : List UInt8) (first : UInt8) (moved post : List UInt8) :
    ∃ last, memcpy pre.length (pre.length + 1) moved.length (pre ++ first :: moved ++ post) =
      pre ++ moved ++ last :: post := by
  induction moved generalizing pre first with
  | nil => exact ⟨first, by simp [memcpy]⟩
  | cons next moved ih =>
      have source : (pre ++ first :: next :: moved ++ post).getD (pre.length + 1) 0 = next := by
        simp [List.getD_eq_getElem?_getD]
      have stored : (pre ++ first :: next :: moved ++ post).set pre.length next =
          (pre ++ [next]) ++ next :: moved ++ post := by
        simp
      obtain ⟨last, moves⟩ := ih (pre ++ [next]) next
      refine ⟨last, ?_⟩
      rw [List.length_cons, memcpy, source, stored]
      simpa using moves

theorem filterLoop_end {inbuf rounds i : Nat} {len : UInt8} (ends : len.toNat ≤ i)
    (buf : List UInt8) : filterLoop inbuf rounds i len buf = (len, buf) := by
  cases rounds with
  | zero => rfl
  | succ rounds => rw [filterLoop, if_neg (by omega)]

theorem toNat_pred {len : UInt8} {count : Nat} (length : len.toNat = count + 1) :
    (len - 1).toNat = count := by
  have positive : (1 : UInt8) ≤ len := by
    rw [UInt8.le_iff_toNat_le, length]
    exact Nat.le_add_left _ _
  rw [UInt8.toNat_sub_of_le _ _ positive, length]
  rfl

theorem getD_middle (front : List UInt8) (byte : UInt8) (rest post : List UInt8) :
    (front ++ byte :: rest ++ post).getD front.length 0 = byte := by
  simp [List.getD_eq_getElem?_getD]

structure Unescaped (i : Nat) (front todo post : List UInt8) (left : UInt8 × List UInt8) : Prop where
  length : left.1.toNat = i + (unescape 92 todo).length
  buf : ∃ junk : List UInt8, junk.length + (unescape 92 todo).length = todo.length ∧
    left.2 = front ++ unescape 92 todo ++ junk ++ post

theorem filterLoop_unescaped {inbuf rounds i : Nat} {len : UInt8} {front todo post : List UInt8}
    (place : front.length = inbuf + i) (length : len.toNat = i + todo.length)
    (enough : todo.length ≤ rounds) :
    Unescaped i front todo post (filterLoop inbuf rounds i len (front ++ todo ++ post)) := by
  induction rounds generalizing i len front todo post with
  | zero =>
      obtain rfl := List.length_eq_zero_iff.mp (Nat.le_zero.mp enough)
      exact ⟨length, [], rfl, by simp [filterLoop, unescape]⟩
  | succ rounds ih =>
      cases todo with
      | nil =>
          rw [filterLoop_end (by rw [length]; exact Nat.le_refl _)]
          exact ⟨length, [], rfl, by simp [unescape]⟩
      | cons first rest =>
          rw [List.length_cons] at length enough
          rw [filterLoop, if_pos (by omega), ← place, getD_middle]
          by_cases isMark : first = 92
          · subst isMark
            have fewer : (len - 1).toNat = i + rest.length := toNat_pred length
            obtain ⟨last, moves⟩ := memcpy_back front 92 rest post
            rw [if_pos rfl]
            dsimp only
            rw [fewer, Nat.add_sub_cancel_left, moves]
            cases rest with
            | nil =>
                rw [filterLoop_end (by rw [fewer]; exact Nat.le_succ _)]
                exact ⟨fewer, [last], rfl, by simp [unescape]⟩
            | cons second rest =>
                rw [List.length_cons] at fewer enough
                have split : front ++ second :: rest ++ last :: post =
                    (front ++ [second]) ++ rest ++ last :: post := by simp
                have step := @ih (i + 1) (len - 1) (front ++ [second]) rest (last :: post)
                  (by rw [List.length_append, place]; rfl) (by omega) (by omega)
                obtain ⟨short, junk, lengths, bytes⟩ := step
                rw [split]
                refine ⟨?_, junk ++ [last], ?_, ?_⟩
                · rw [short, unescape_mark, List.length_cons]
                  omega
                · rw [unescape_mark]
                  simp only [List.length_append, List.length_cons, List.length_nil]
                  omega
                · rw [bytes, unescape_mark]
                  simp
          · have split : front ++ first :: rest ++ post = (front ++ [first]) ++ rest ++ post := by
              simp
            have step := @ih (i + 1) len (front ++ [first]) rest post
              (by rw [List.length_append, place]; rfl) (by omega) (by omega)
            obtain ⟨short, junk, lengths, bytes⟩ := step
            rw [if_neg isMark, split]
            refine ⟨?_, junk, ?_, ?_⟩
            · rw [short, unescape_plain isMark, List.length_cons]
              omega
            · rw [unescape_plain isMark]
              simp only [List.length_cons]
              omega
            · rw [bytes, unescape_plain isMark]
              simp

section

variable {pre body post : List UInt8}

theorem token_string (nonzero : 0 ∉ body) :
    cString ((pre ++ 34 :: body ++ 0 :: post).drop pre.length) = 34 :: body := by
  rw [List.append_assoc, List.drop_left]
  exact cString_append (by simpa using nonzero) post

/-- An argument in quotation marks is the string behind the first of them afterwards. -/
theorem filterQuotation_quoted (nonzero : 0 ∉ body) (short : body.length + 2 < 256) :
    ∃ cut : List UInt8, cut.length = body.length + 2 ∧
      atcmdFilterQuotation pre.length (pre ++ 34 :: (body ++ [34]) ++ 0 :: post) =
        (0, pre.length + 1, pre ++ cut ++ 0 :: post) ∧
      cString ((pre ++ cut ++ 0 :: post).drop (pre.length + 1)) = unescape 92 body := by
  have string := @token_string pre (body ++ [34]) post (by simpa using nonzero)
  have head := getD_middle pre 34 (body ++ [34]) (0 :: post)
  have len : (UInt8.ofNat (34 :: (body ++ [34])).length).toNat = body.length + 2 := by
    rw [UInt8.toNat_ofNat', List.length_cons, List.length_append, List.length_singleton]
    omega
  have behindQuote := toNat_pred len
  have behindBoth := toNat_pred behindQuote
  have lastPlace : pre.length + 1 + (body.length + 1) - 1 = (pre ++ 34 :: body).length := by
    simp only [List.length_append, List.length_cons]
    omega
  have split : pre ++ 34 :: (body ++ [34]) ++ 0 :: post = (pre ++ 34 :: body) ++ 34 :: 0 :: post := by
    simp
  have close : (pre ++ 34 :: (body ++ [34]) ++ 0 :: post).getD
      (pre.length + 1 + (body.length + 1) - 1) 0 = 34 := by
    rw [lastPlace, split, ← List.append_nil ((pre ++ 34 :: body) ++ 34 :: 0 :: post)]
    exact getD_middle (pre ++ 34 :: body) 34 (0 :: post) []
  have ended : (pre ++ 34 :: (body ++ [34]) ++ 0 :: post).getD
      (pre.length + 1 + (body.length + 1)) 0 = 0 := by
    have place : pre.length + 1 + (body.length + 1) = (pre ++ 34 :: (body ++ [34])).length := by
      simp only [List.length_append, List.length_cons, List.length_nil]
      omega
    rw [place]
    simp [List.getD_eq_getElem?_getD]
  have stored : (pre ++ 34 :: (body ++ [34]) ++ 0 :: post).set
      (pre.length + 1 + (body.length + 1) - 1) 0 = (pre ++ [34]) ++ body ++ 0 :: 0 :: post := by
    rw [lastPlace, split, List.set_append_right _ _ (Nat.le_refl _), Nat.sub_self]
    simp
  obtain ⟨length, junk, lengths, bytes⟩ := @filterLoop_unescaped (pre.length + 1) 255 0
    (UInt8.ofNat (34 :: (body ++ [34])).length - 1 - 1) (pre ++ [34]) body (0 :: 0 :: post)
    (by simp) (by omega) (by omega)
  rw [Nat.zero_add] at length
  refine ⟨34 :: unescape 92 body ++ (junk ++ [0]).set 0 0, ?_, ?_, ?_⟩
  · simp only [List.length_append, List.length_cons, List.length_set, List.length_nil]
    omega
  · rw [atcmdFilterQuotation, string, if_pos head]
    dsimp only
    rw [behindQuote, if_pos ⟨close, ended⟩, stored, length, bytes]
    have place : pre.length + 1 + (unescape 92 body).length =
        (pre ++ [34] ++ unescape 92 body).length := by
      simp only [List.length_append, List.length_singleton]
    rw [place, List.append_assoc, List.set_append_right _ _ (Nat.le_refl _), Nat.sub_self]
    cases junk with
    | nil => simp
    | cons => simp
  · obtain ⟨tail, zeroFirst⟩ : ∃ tail, (junk ++ [0]).set 0 0 = 0 :: tail := by
      cases junk with
      | nil => exact ⟨[], rfl⟩
      | cons _ junk => exact ⟨junk ++ [0], rfl⟩
    have noZero : 0 ∉ unescape 92 body := fun member =>
      nonzero ((unescape_sublist 92 body).subset member)
    have split : pre ++ (34 :: unescape 92 body ++ (junk ++ [0]).set 0 0) ++ 0 :: post =
        (pre ++ [34]) ++ (unescape 92 body ++ 0 :: (tail ++ 0 :: post)) := by
      rw [zeroFirst]
      simp
    have place : pre.length + 1 = (pre ++ [34]).length := by simp
    rw [split, place, List.drop_left]
    exact cString_append noZero _

/-- An argument that only begins with a quotation mark is refused. -/
theorem filterQuotation_open (nonzero : 0 ∉ body) (short : body.length + 1 < 256)
    (filled : body ≠ []) (unclosed : body.getLast? ≠ some 34) :
    (atcmdFilterQuotation pre.length (pre ++ 34 :: body ++ 0 :: post)).1 = 1 := by
  have head := getD_middle pre 34 body (0 :: post)
  have len : (UInt8.ofNat (34 :: body).length).toNat = body.length + 1 := by
    rw [UInt8.toNat_ofNat', List.length_cons]
    omega
  obtain ⟨front, last, split⟩ := (List.eq_nil_or_concat body).resolve_left filled
  rw [List.concat_eq_append] at split
  subst split
  have last_ne : last ≠ 34 := by simpa using unclosed
  have place : pre.length + 1 + (front ++ [last]).length - 1 = (pre ++ 34 :: front).length := by
    simp only [List.length_append, List.length_cons, List.length_nil]
    omega
  have byte : (pre ++ 34 :: (front ++ [last]) ++ 0 :: post).getD (pre ++ 34 :: front).length 0 =
      last := by
    have split : pre ++ 34 :: (front ++ [last]) ++ 0 :: post =
        (pre ++ 34 :: front) ++ last :: 0 :: post := by simp
    rw [split]
    simp [List.getD_eq_getElem?_getD]
  rw [atcmdFilterQuotation, token_string nonzero, if_pos head]
  dsimp only
  rw [toNat_pred len, place, byte, if_neg fun closed => last_ne closed.1]

end

end SmartMeter
