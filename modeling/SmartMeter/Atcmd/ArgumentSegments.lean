import SmartMeter.Atcmd.ArgumentCore

/-!
`tls_atcmd_parse` cuts the text behind the `=` into segments, each closed with a zero, and points
the arguments of the token at them.
-/

namespace SmartMeter

theorem strchr_found {front : List UInt8} {value : UInt8} (rest : List UInt8)
    (clear : ∀ byte ∈ front, byte ≠ value ∧ byte ≠ 0) :
    strchr (front ++ value :: rest) value = some front.length := by
  induction front with
  | nil => simp [strchr]
  | cons first front ih =>
      obtain ⟨other, nonzero⟩ := clear first (List.mem_cons_self ..)
      have behind := ih fun byte member => clear byte (List.mem_cons_of_mem _ member)
      rw [List.cons_append, strchr, if_neg other, if_neg nonzero, behind]
      rfl

theorem strchr_some {bytes : List UInt8} {value : UInt8} {place : Nat}
    (found : strchr bytes value = some place) :
    bytes[place]? = some value ∧ ∀ index < place, bytes[index]? ≠ some 0 := by
  induction bytes generalizing place with
  | nil => cases found
  | cons first rest ih =>
      rw [strchr] at found
      split at found
      · rename_i here
        cases found
        exact ⟨by rw [List.getElem?_cons_zero, here], fun index below => absurd below (by omega)⟩
      · split at found
        · cases found
        · rename_i nonzero
          obtain ⟨inner, behind, rfl⟩ := Option.map_eq_some_iff.mp found
          obtain ⟨byte, clear⟩ := ih behind
          refine ⟨by rw [List.getElem?_cons_succ, byte], fun index below => ?_⟩
          cases index with
          | zero => simpa using nonzero
          | succ index =>
              rw [List.getElem?_cons_succ]
              exact clear index (by omega)

theorem commaFrom_some {buf : List UInt8} {n count place : Nat} {prec : UInt8}
    (found : commaFrom buf n prec count = some place) :
    n ≤ place ∧ place < n + count ∧ buf.getD place 0 = 44 := by
  induction count generalizing n prec with
  | zero => cases found
  | succ count ih =>
      rw [commaFrom] at found
      split at found
      · rename_i here
        cases found
        exact ⟨Nat.le_refl _, by omega, here.1⟩
      · obtain ⟨lower, upper, comma⟩ := ih found
        exact ⟨by omega, by omega, comma⟩

/-- The text up to the line end, which `get_first_comma` sees with the line end and a zero. -/
def nextComma (content : List UInt8) : Option Nat :=
  getFirstComma (content ++ [10, 0]) (content.length + 1)

theorem nextComma_some {content : List UInt8} {place : Nat}
    (found : nextComma content = some place) : place < content.length := by
  have lineEnd : (content ++ [10, 0])[content.length]? = some 10 := by simp
  rw [nextComma, getFirstComma, if_neg (by omega)] at found
  split at found
  · obtain ⟨-, upper, comma⟩ := commaFrom_some found
    have ended : place ≠ content.length := by
      rintro rfl
      rw [List.getD_eq_getElem?_getD, lineEnd] at comma
      cases comma
    omega
  · obtain ⟨comma, clear⟩ := strchr_some found
    have ended : place ≠ content.length := by
      rintro rfl
      rw [lineEnd] at comma
      cases comma
    have zero : (content ++ [10, 0])[content.length + 1]? = some 0 := by simp
    have atZero : place ≠ content.length + 1 := by
      rintro rfl
      rw [zero] at comma
      cases comma
    have before : ¬content.length + 1 < place := fun beyond => clear _ beyond zero
    omega

def segments : Nat → List UInt8 → Option (List (List UInt8))
  | 0, _ => none
  | left + 1, content =>
      match nextComma content with
      | none => some [content]
      | some comma => (segments left (content.drop (comma + 1))).map (content.take comma :: ·)

def argumentCount : List (List UInt8) → Nat
  | [] => 0
  | [segment] => if segment = [] then 0 else 1
  | _ :: second :: rest => argumentCount (second :: rest) + 1

def PlacedArgs (arg : Nat → Nat) : Nat → Nat → List (List UInt8) → Prop
  | _, _, [] => True
  | index, pos, segment :: rest =>
      (segment ≠ [] ∨ rest ≠ [] → arg index = pos) ∧
        PlacedArgs arg (index + 1) (pos + segment.length + 1) rest

def closedSegments (segments : List (List UInt8)) : List UInt8 :=
  segments.flatMap (· ++ [0])

structure CutInto (tok : AtcmdToken) (pre : List UInt8) (segments : List (List UInt8))
    (parsed : AtcmdParsed) : Prop where
  status : parsed.1 = 0
  name : parsed.2.1.name = tok.name
  op : parsed.2.1.op = tok.op
  argFound : parsed.2.1.argFound = tok.argFound + argumentCount segments
  arg : ∀ index < tok.argFound, parsed.2.1.arg index = tok.arg index
  placed : PlacedArgs parsed.2.1.arg tok.argFound pre.length segments
  buf : parsed.2.2 = pre ++ closedSegments segments ++ [0]

theorem parseArgs_cons (endLine left pos : Nat) {remainLen : Int} (more : remainLen > 0)
    (tok : AtcmdToken) (buf : List UInt8) :
    parseArgs endLine (left + 1) pos remainLen tok buf =
      match getFirstComma (buf.drop pos) remainLen with
      | none =>
          let found := if endLine ≠ pos then tok.argFound + 1 else tok.argFound
          (if remainLen - ((endLine : Int) - pos) > 1 then -cmdErrNotAllow else 0,
            { tok with argFound := found, arg := Function.update tok.arg found (endLine + 1) },
            buf.set endLine 0)
      | some comma =>
          parseArgs endLine left (pos + comma + 1) (remainLen - (comma + 1))
            { tok with
              argFound := tok.argFound + 1
              arg := Function.update tok.arg (tok.argFound + 1) (pos + comma + 1) }
            (buf.set (pos + comma) 0) := by
  rw [parseArgs]
  exact if_pos more

theorem set_comma {pre content : List UInt8} {comma : Nat} (inside : comma < content.length)
    (post : List UInt8) : (pre ++ content ++ post).set (pre.length + comma) 0 =
      (pre ++ content.take comma ++ [0]) ++ content.drop (comma + 1) ++ post := by
  have taken : (content.take comma).length = comma := by
    rw [List.length_take]
    omega
  have split : content = content.take comma ++ content[comma] :: content.drop (comma + 1) := by
    rw [← List.drop_eq_getElem_cons inside, List.take_append_drop]
  conv_lhs => rw [split]
  rw [List.append_assoc, List.set_append_right _ _ (by omega), Nat.add_sub_cancel_left,
    List.append_assoc, List.set_append_right _ _ (by omega), taken, Nat.sub_self]
  simp only [List.cons_append, List.set_cons_zero, List.append_assoc, List.nil_append]

section

variable {pre content : List UInt8} {tok : AtcmdToken}

/-- The last segment runs to the end of the line. -/
theorem cutInto_last (pointed : tok.arg tok.argFound = pre.length) :
    let endLine := pre.length + content.length
    let found := if endLine ≠ pre.length then tok.argFound + 1 else tok.argFound
    CutInto tok pre [content]
      (if ((content.length : Int) + 1) - ((endLine : Int) - (pre.length : Nat)) > 1
        then -cmdErrNotAllow else 0,
        { tok with argFound := found, arg := Function.update tok.arg found (endLine + 1) },
        (pre ++ content ++ [10, 0]).set endLine 0) := by
  have room : (content.length : Int) + 1 - (((pre.length + content.length : Nat) : Int) -
      (pre.length : Nat)) = 1 := by omega
  refine ⟨?_, rfl, rfl, ?_, ?_, ?_, ?_⟩
  · dsimp only
    rw [room]
    rfl
  · cases content with
    | nil => simp [argumentCount]
    | cons => simp [argumentCount]
  · intro index below
    refine Function.update_of_ne ?_ _ _
    split
    · omega
    · omega
  · refine ⟨fun filled => ?_, trivial⟩
    have more : content.length ≠ 0 := by simpa using filled
    have beyond : pre.length + content.length ≠ pre.length := by omega
    dsimp only
    rw [if_pos beyond, Function.update_of_ne (by omega), pointed]
  · have place : pre.length + content.length = (pre ++ content).length := by simp
    dsimp only
    rw [place, List.set_append_right _ _ (Nat.le_refl _), Nat.sub_self]
    simp [closedSegments]

theorem CutInto.comma {comma : Nat} {rest : List (List UInt8)} {parsed : AtcmdParsed}
    (some_rest : rest ≠ []) (inside : comma < content.length)
    (pointed : tok.arg tok.argFound = pre.length)
    (cut : CutInto { tok with
        argFound := tok.argFound + 1
        arg := Function.update tok.arg (tok.argFound + 1) (pre.length + comma + 1) }
      (pre ++ content.take comma ++ [0]) rest parsed) :
    CutInto tok pre (content.take comma :: rest) parsed := by
  have taken : (content.take comma).length = comma := by
    rw [List.length_take]
    omega
  have before (index : Nat) (low : index ≤ tok.argFound) :
      parsed.2.1.arg index = tok.arg index := by
    rw [cut.arg index (by simp only; omega)]
    exact Function.update_of_ne (by omega) _ _
  refine ⟨cut.status, cut.name, cut.op, ?_, fun index below => before index (by omega), ?_, ?_⟩
  · rw [cut.argFound]
    cases rest with
    | nil => exact absurd rfl some_rest
    | cons second rest =>
        simp only [argumentCount]
        omega
  · refine ⟨fun _ => (before _ (Nat.le_refl _)).trans pointed, ?_⟩
    have placed := cut.placed
    rw [List.length_append, List.length_append] at placed
    exact placed
  · rw [cut.buf]
    simp [closedSegments]

theorem segments_ne_nil {left : Nat} {cut : List (List UInt8)} (found : segments left content = some cut) :
    cut ≠ [] := by
  cases left with
  | zero => cases found
  | succ left =>
      rw [segments] at found
      split at found
      · cases found
        exact List.cons_ne_nil _ _
      · obtain ⟨rest, -, rfl⟩ := Option.map_eq_some_iff.mp found
        exact List.cons_ne_nil _ _

/-- The loop ends well if there are not too many segments. -/
theorem parseArgs_segments (left : Nat)
    (pointed : tok.arg tok.argFound = pre.length) :
    match segments left content with
    | none => (parseArgs (pre.length + content.length) left pre.length (content.length + 1) tok
        (pre ++ content ++ [10, 0])).1 ≠ 0
    | some cut => CutInto tok pre cut
        (parseArgs (pre.length + content.length) left pre.length (content.length + 1) tok
          (pre ++ content ++ [10, 0])) := by
  induction left generalizing pre content tok with
  | zero =>
      rw [segments, parseArgs, if_pos (by omega)]
      exact (by decide : -cmdErrInvParams ≠ 0)
  | succ left ih =>
      have here : (pre ++ content ++ [10, 0]).drop pre.length = content ++ [10, 0] := by
        rw [List.append_assoc, List.drop_left]
      have found : getFirstComma ((pre ++ content ++ [10, 0]).drop pre.length)
          ((content.length : Int) + 1) = nextComma content := by
        rw [here, nextComma]
      rw [segments, parseArgs_cons _ _ _ (by omega), found]
      cases next : nextComma content with
      | none => exact cutInto_last pointed
      | some comma =>
          have inside := nextComma_some next
          have lengths : (pre ++ content.take comma ++ [0]).length = pre.length + comma + 1 := by
            simp only [List.length_append, List.length_take, List.length_singleton]
            omega
          have remaining : ((content.drop (comma + 1)).length : Int) + 1 =
              (content.length : Int) + 1 - ((comma : Int) + 1) := by
            rw [List.length_drop]
            omega
          have lineEnd : (pre ++ content.take comma ++ [0]).length +
              (content.drop (comma + 1)).length = pre.length + content.length := by
            rw [lengths, List.length_drop]
            omega
          have step := @ih (pre ++ content.take comma ++ [0]) (content.drop (comma + 1))
            { tok with
              argFound := tok.argFound + 1
              arg := Function.update tok.arg (tok.argFound + 1) (pre.length + comma + 1) }
            (by rw [lengths]; exact Function.update_self ..)
          rw [lineEnd, lengths, remaining] at step
          dsimp only
          rw [set_comma inside]
          cases behind : segments left (content.drop (comma + 1)) with
          | none =>
              rw [behind] at step
              exact step
          | some rest =>
              rw [behind] at step
              exact step.comma (segments_ne_nil behind) inside pointed

end

end SmartMeter
