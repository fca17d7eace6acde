import SmartMeter.Dhcp.DhcpCore
import SmartMeter.Library.Tlv

/-!
What `_ParseDhcpOptions` reads of a received message, and the options it reports.
-/

namespace SmartMeter

open Tlv

def dhcpOptionsOffset : Nat := 240

/-- How many bytes of the value are stored for a code. -/
def storedLength (code : UInt8) : Option Nat :=
  if code = dhcpOptionIdMsgType then some 1
  else if code = dhcpOptionIdReqIpAddr then some 4
  else if code = dhcpOptionIdServerId then some 4
  else none

/-- A parse with the offsets that it reads, and those of the options that it reports. -/
structure OptionTrace where
  found : DhcpOptions
  reads : List Nat
  reported : List Nat
  ended : Bool

/-- `parseLoop` with its reads: the code is read before its offset is compared with the end. -/
def traceLoop (msg : Nat → UInt8) : Nat → Nat → DhcpOptions → OptionTrace
  | 0, _, found => ⟨found, [], [], false⟩
  | rounds + 1, pos, found =>
      if msg pos ≠ dhcpOptionIdEnd ∧ pos < dhcpMsgSize then
        if msg pos = dhcpOptionIdPad then
          let trace := traceLoop msg rounds (pos + 1) found
          { trace with reads := pos :: trace.reads }
        else
          let trace := traceLoop msg rounds (pos + 2 + (msg (pos + 1)).toNat)
            (parseDhcpOption msg pos found)
          match storedLength (msg pos) with
          | some length =>
              { trace with
                reads := pos :: (pos + 1) :: (List.range' (pos + 2) length ++ trace.reads)
                reported := pos :: trace.reported }
          | none => { trace with reads := pos :: (pos + 1) :: trace.reads }
      else ⟨found, [pos], [], true⟩

def traceOptions (msg : Nat → UInt8) : OptionTrace :=
  traceLoop msg (dhcpMsgSize + 1 - dhcpOptionsOffset) dhcpOptionsOffset
    ⟨false, false, false, 0xFF, 0, 0⟩

theorem traceLoop_found (msg : Nat → UInt8) (rounds pos : Nat) (found : DhcpOptions) :
    (traceLoop msg rounds pos found).found = parseLoop msg rounds pos found := by
  induction rounds generalizing pos found with
  | zero => rfl
  | succ rounds ih =>
      unfold traceLoop parseLoop
      split
      · split
        · exact ih _ _
        · cases storedLength (msg pos) <;> exact ih _ _
      · rfl

theorem traceOptions_found (msg : Nat → UInt8) :
    (traceOptions msg).found = parseDhcpOptions msg :=
  (traceLoop_found msg _ _ _).trans
    (parseLoop_enough msg 308 1 dhcpOptionsOffset _ (by decide))

def optionsFrom (msg : Nat → UInt8) (pos : Nat) : List UInt8 :=
  (List.range' pos (dhcpMsgSize - pos)).map msg

/-- An option that is stored has just the length of what is stored. -/
def properLength (code : UInt8) (length : Nat) : Prop :=
  ∀ stored, storedLength code = some stored → length = stored

def CompleteOption (msg : Nat → UInt8) (pos : Nat) : Prop :=
  storedLength (msg pos) = some (msg (pos + 1)).toNat ∧
    pos + 2 + (msg (pos + 1)).toNat ≤ dhcpMsgSize

def DhcpOptions.has (found : DhcpOptions) (code : UInt8) : Bool :=
  if code = dhcpOptionIdMsgType then found.hasMsgType
  else if code = dhcpOptionIdReqIpAddr then found.hasReqIpAddr
  else if code = dhcpOptionIdServerId then found.hasServerId
  else false

/-- The parse ends, reads the options only and reports complete options only. -/
structure ParsesInside (msg : Nat → UInt8) : Prop where
  ended : (traceOptions msg).ended = true
  reads : ∀ index ∈ (traceOptions msg).reads, dhcpOptionsOffset ≤ index ∧ index < dhcpMsgSize
  reports : ∀ pos ∈ (traceOptions msg).reported, CompleteOption msg pos
  result : ∀ code, (parseDhcpOptions msg).has code = true →
    ∃ pos ∈ (traceOptions msg).reported, msg pos = code

theorem optionsFrom_cons (msg : Nat → UInt8) {pos : Nat} (inside : pos < dhcpMsgSize) :
    optionsFrom msg pos = msg pos :: optionsFrom msg (pos + 1) := by
  have count : dhcpMsgSize - pos = dhcpMsgSize - (pos + 1) + 1 := by omega
  rw [optionsFrom, count, List.range'_succ, List.map_cons, optionsFrom]

theorem optionsFrom_outside (msg : Nat → UInt8) {pos : Nat} (outside : dhcpMsgSize ≤ pos) :
    optionsFrom msg pos = [] := by
  rw [optionsFrom, Nat.sub_eq_zero_of_le outside]
  rfl

theorem optionsFrom_length (msg : Nat → UInt8) (pos : Nat) :
    (optionsFrom msg pos).length = dhcpMsgSize - pos := by
  rw [optionsFrom, List.length_map, List.length_range']

theorem optionsFrom_drop (msg : Nat → UInt8) (pos count : Nat) :
    (optionsFrom msg pos).drop count = optionsFrom msg (pos + count) := by
  rw [optionsFrom, optionsFrom, ← List.map_drop, List.drop_range', Nat.sub_sub]
  simp

theorem parseDhcpOption_has (msg : Nat → UInt8) (pos : Nat) (found : DhcpOptions) (code : UInt8) :
    (parseDhcpOption msg pos found).has code =
      ((storedLength (msg pos)).isSome && msg pos == code || found.has code) := by
  unfold parseDhcpOption storedLength DhcpOptions.has
  have distinct : dhcpOptionIdReqIpAddr ≠ dhcpOptionIdMsgType ∧
      dhcpOptionIdServerId ≠ dhcpOptionIdMsgType ∧
      dhcpOptionIdServerId ≠ dhcpOptionIdReqIpAddr := by decide
  split
  · grind
  · split
    · grind
    · split <;> grind

section Rounds

variable (msg : Nat → UInt8) (rounds : Nat) {pos : Nat} (found : DhcpOptions)

theorem traceLoop_stop (stops : ¬(msg pos ≠ dhcpOptionIdEnd ∧ pos < dhcpMsgSize)) :
    traceLoop msg (rounds + 1) pos found = ⟨found, [pos], [], true⟩ := by
  rw [traceLoop, if_neg stops]

theorem traceLoop_pad (inside : pos < dhcpMsgSize) (padding : msg pos = dhcpOptionIdPad) :
    traceLoop msg (rounds + 1) pos found =
      { traceLoop msg rounds (pos + 1) found with
        reads := pos :: (traceLoop msg rounds (pos + 1) found).reads } := by
  have other : msg pos ≠ dhcpOptionIdEnd := by
    rw [padding]
    decide
  rw [traceLoop, if_pos ⟨other, inside⟩, if_pos padding]

variable (inside : pos < dhcpMsgSize) (notEnd : msg pos ≠ dhcpOptionIdEnd)
  (notPad : msg pos ≠ dhcpOptionIdPad)
include inside notEnd notPad

theorem traceLoop_skip (skipped : storedLength (msg pos) = none) {rest : OptionTrace}
    (behind : traceLoop msg rounds (pos + 2 + (msg (pos + 1)).toNat)
      (parseDhcpOption msg pos found) = rest) :
    traceLoop msg (rounds + 1) pos found =
      { rest with reads := pos :: (pos + 1) :: rest.reads } := by
  rw [traceLoop, if_pos ⟨notEnd, inside⟩, if_neg notPad, skipped, behind]

theorem traceLoop_store {length : Nat} (stored : storedLength (msg pos) = some length)
    {rest : OptionTrace} (behind : traceLoop msg rounds (pos + 2 + (msg (pos + 1)).toNat)
      (parseDhcpOption msg pos found) = rest) :
    traceLoop msg (rounds + 1) pos found =
      { rest with
        reads := pos :: (pos + 1) :: (List.range' (pos + 2) length ++ rest.reads)
        reported := pos :: rest.reported } := by
  rw [traceLoop, if_pos ⟨notEnd, inside⟩, if_neg notPad, stored, behind]

end Rounds

/-- A bit is set by an option that is reported. -/
theorem traceLoop_has (msg : Nat → UInt8) (rounds pos : Nat) (found : DhcpOptions) (code : UInt8)
    (has : (traceLoop msg rounds pos found).found.has code = true) :
    found.has code = true ∨
      ∃ place ∈ (traceLoop msg rounds pos found).reported, msg place = code := by
  induction rounds generalizing pos found with
  | zero => exact Or.inl has
  | succ rounds ih =>
      by_cases entered : msg pos ≠ dhcpOptionIdEnd ∧ pos < dhcpMsgSize
      · by_cases padding : msg pos = dhcpOptionIdPad
        · rw [traceLoop_pad msg rounds found entered.2 padding] at has ⊢
          exact ih _ _ has
        · have later := ih (pos + 2 + (msg (pos + 1)).toNat) (parseDhcpOption msg pos found)
          rw [parseDhcpOption_has] at later
          cases stored : storedLength (msg pos) with
          | none =>
              rw [traceLoop_skip msg rounds found entered.2 entered.1 padding stored rfl] at has ⊢
              simpa [stored] using later has
          | some length =>
              rw [traceLoop_store msg rounds found entered.2 entered.1 padding stored rfl] at has ⊢
              rcases later has with set | ⟨other, member, same⟩
              · simp only [stored, Option.isSome_some, Bool.true_and, Bool.or_eq_true,
                  beq_iff_eq] at set
                rcases set with same | before
                · exact Or.inr ⟨pos, List.mem_cons_self, same⟩
                · exact Or.inl before
              · exact Or.inr ⟨other, List.mem_cons_of_mem _ member, same⟩
      · rw [traceLoop_stop msg rounds found entered] at has
        exact Or.inl has

/-- With a round for each offset that is left, and one more, the loop comes to its end. -/
theorem traceLoop_ended (msg : Nat → UInt8) (rounds pos : Nat) (found : DhcpOptions)
    (enough : dhcpMsgSize < pos + rounds) (positive : 0 < rounds) :
    (traceLoop msg rounds pos found).ended = true := by
  induction rounds generalizing pos found with
  | zero => omega
  | succ rounds ih =>
      by_cases entered : msg pos ≠ dhcpOptionIdEnd ∧ pos < dhcpMsgSize
      · have inside := entered.2
        by_cases padding : msg pos = dhcpOptionIdPad
        · rw [traceLoop_pad msg rounds found inside padding]
          exact ih _ _ (by omega) (by omega)
        · have later := ih (pos + 2 + (msg (pos + 1)).toNat) (parseDhcpOption msg pos found)
            (by omega) (by omega)
          cases stored : storedLength (msg pos) with
          | none => rwa [traceLoop_skip msg rounds found inside entered.1 padding stored rfl]
          | some length => rwa [traceLoop_store msg rounds found inside entered.1 padding stored rfl]
      · rw [traceLoop_stop msg rounds found entered]

theorem traceLoop_reads_from (msg : Nat → UInt8) (rounds pos : Nat) (found : DhcpOptions) :
    ∀ index ∈ (traceLoop msg rounds pos found).reads, pos ≤ index := by
  induction rounds generalizing pos found with
  | zero => exact fun index member => absurd member List.not_mem_nil
  | succ rounds ih =>
      by_cases entered : msg pos ≠ dhcpOptionIdEnd ∧ pos < dhcpMsgSize
      · have inside := entered.2
        by_cases padding : msg pos = dhcpOptionIdPad
        · rw [traceLoop_pad msg rounds found inside padding]
          intro index member
          rcases List.mem_cons.mp member with rfl | later
          · exact Nat.le_refl _
          · have bound := ih _ _ index later
            omega
        · have behind := ih (pos + 2 + (msg (pos + 1)).toNat) (parseDhcpOption msg pos found)
          intro index member
          cases stored : storedLength (msg pos) with
          | none =>
              rw [traceLoop_skip msg rounds found inside entered.1 padding stored rfl] at member
              simp only [List.mem_cons] at member
              rcases member with first | second | later
              · omega
              · omega
              · have bound := behind index later
                omega
          | some length =>
              rw [traceLoop_store msg rounds found inside entered.1 padding stored rfl] at member
              simp only [List.mem_cons, List.mem_append, List.mem_range'_1] at member
              rcases member with first | second | value | later
              · omega
              · omega
              · omega
              · have bound := behind index later
                omega
      · rw [traceLoop_stop msg rounds found entered]
        intro index member
        exact Nat.le_of_eq (List.mem_singleton.mp member).symm

theorem wellFormed_inside (msg : Nat → UInt8) {pos : Nat}
    (wellFormed : WellFormed dhcpOptionIdPad dhcpOptionIdEnd properLength (optionsFrom msg pos)) :
    pos < dhcpMsgSize := by
  by_contra outside
  rw [optionsFrom_outside msg (Nat.le_of_not_lt outside)] at wellFormed
  exact not_wellFormed_nil wellFormed

/-- An option other than the padding: its length byte is inside, its value is, and the rest is
well formed. -/
theorem wellFormed_option (msg : Nat → UInt8) {pos : Nat} (inside : pos < dhcpMsgSize)
    (padding : msg pos ≠ dhcpOptionIdPad) (notEnd : msg pos ≠ dhcpOptionIdEnd) :
    WellFormed dhcpOptionIdPad dhcpOptionIdEnd properLength (optionsFrom msg pos) ↔
      pos + 1 < dhcpMsgSize ∧ (msg (pos + 1)).toNat ≤ dhcpMsgSize - (pos + 2) ∧
        properLength (msg pos) (msg (pos + 1)).toNat ∧
        WellFormed dhcpOptionIdPad dhcpOptionIdEnd properLength
          (optionsFrom msg (pos + 2 + (msg (pos + 1)).toNat)) := by
  rw [optionsFrom_cons msg inside, wellFormed_field padding notEnd]
  by_cases room : pos + 1 < dhcpMsgSize
  · rw [optionsFrom_cons msg room, ← optionsFrom_drop msg (pos + 2),
      ← optionsFrom_length msg (pos + 2), and_iff_right room]
    constructor
    · rintro ⟨length, more, same, conditions⟩
      obtain ⟨rfl, rfl⟩ := List.cons.inj same
      exact conditions
    · exact fun conditions => ⟨_, _, rfl, conditions⟩
  · rw [optionsFrom_outside msg (Nat.le_of_not_lt room)]
    refine iff_of_false ?_ (fun all => room all.1)
    rintro ⟨length, more, same, -⟩
    cases same

section Option

variable (msg : Nat → UInt8) (rounds : Nat) {pos : Nat} (found : DhcpOptions)
  (inside : pos < dhcpMsgSize) (padding : msg pos ≠ dhcpOptionIdPad)
  (notEnd : msg pos ≠ dhcpOptionIdEnd)

include inside padding notEnd

/-- The length byte is read wherever it is. -/
theorem traceLoop_reads_length : pos + 1 ∈ (traceLoop msg (rounds + 1) pos found).reads := by
  cases stored : storedLength (msg pos) with
  | none =>
      rw [traceLoop_skip msg rounds found inside notEnd padding stored rfl]
      exact List.mem_cons_of_mem _ List.mem_cons_self
  | some length =>
      rw [traceLoop_store msg rounds found inside notEnd padding stored rfl]
      exact List.mem_cons_of_mem _ List.mem_cons_self

/-- One option with its length byte inside. -/
theorem traceLoop_option (room : pos + 1 < dhcpMsgSize)
    (later : ((∀ index ∈ (traceLoop msg rounds (pos + 2 + (msg (pos + 1)).toNat)
          (parseDhcpOption msg pos found)).reads, index < dhcpMsgSize) ∧
        ∀ place ∈ (traceLoop msg rounds (pos + 2 + (msg (pos + 1)).toNat)
          (parseDhcpOption msg pos found)).reported, CompleteOption msg place) ↔
      WellFormed dhcpOptionIdPad dhcpOptionIdEnd properLength
        (optionsFrom msg (pos + 2 + (msg (pos + 1)).toNat))) :
    ((∀ index ∈ (traceLoop msg (rounds + 1) pos found).reads, index < dhcpMsgSize) ∧
      ∀ place ∈ (traceLoop msg (rounds + 1) pos found).reported, CompleteOption msg place) ↔
    (msg (pos + 1)).toNat ≤ dhcpMsgSize - (pos + 2) ∧
      properLength (msg pos) (msg (pos + 1)).toNat ∧
      WellFormed dhcpOptionIdPad dhcpOptionIdEnd properLength
        (optionsFrom msg (pos + 2 + (msg (pos + 1)).toNat)) := by
  rw [← later]
  cases stored : storedLength (msg pos) with
  | none =>
      have any : properLength (msg pos) (msg (pos + 1)).toNat := by
        intro length same
        rw [stored] at same
        cases same
      rw [traceLoop_skip msg rounds found inside notEnd padding stored rfl]
      simp only [List.forall_mem_cons, inside, room, any, true_and]
      refine ⟨fun both => ⟨?_, both⟩, fun both => both.2⟩
      have bound := wellFormed_inside msg (later.mp both)
      omega
  | some length =>
      have sameLength : properLength (msg pos) (msg (pos + 1)).toNat ↔
          length = (msg (pos + 1)).toNat := by
        rw [properLength, stored]
        exact ⟨fun right => (right length rfl).symm,
          fun same other some => same.symm.trans (Option.some.inj some)⟩
      rw [traceLoop_store msg rounds found inside notEnd padding stored rfl, sameLength]
      simp only [List.forall_mem_cons, List.forall_mem_append, inside, room, true_and,
        CompleteOption, stored, Option.some.injEq]
      constructor
      · rintro ⟨⟨-, reads⟩, ⟨same, complete⟩, reported⟩
        exact ⟨by omega, same, reads, reported⟩
      · rintro ⟨complete, same, reads, reported⟩
        refine ⟨⟨?_, reads⟩, ⟨same, by omega⟩, reported⟩
        intro index member
        rw [List.mem_range'_1] at member
        omega

end Option

/-- From any offset: the reads stay inside, and the reported options are complete, exactly when
the rest of the area is options with an end behind them. -/
theorem traceLoop_iff (msg : Nat → UInt8) (rounds pos : Nat) (found : DhcpOptions)
    (enough : dhcpMsgSize < pos + rounds) (positive : 0 < rounds) :
    ((∀ index ∈ (traceLoop msg rounds pos found).reads, index < dhcpMsgSize) ∧
      ∀ place ∈ (traceLoop msg rounds pos found).reported, CompleteOption msg place) ↔
    WellFormed dhcpOptionIdPad dhcpOptionIdEnd properLength (optionsFrom msg pos) := by
  induction rounds generalizing pos found with
  | zero => omega
  | succ rounds ih =>
      by_cases inside : pos < dhcpMsgSize
      · by_cases notEnd : msg pos = dhcpOptionIdEnd
        · rw [traceLoop_stop msg rounds found (fun entered => entered.1 notEnd),
            optionsFrom_cons msg inside, notEnd]
          refine iff_of_true ⟨?_, fun pos member => absurd member List.not_mem_nil⟩
            (wellFormed_stop _)
          intro index member
          rwa [List.mem_singleton.mp member]
        · by_cases padding : msg pos = dhcpOptionIdPad
          · rw [traceLoop_pad msg rounds found inside padding, optionsFrom_cons msg inside, padding,
              wellFormed_pad (by decide), ← ih (pos + 1) found (by omega) (by omega),
              List.forall_mem_cons]
            simp only [inside, true_and]
          · rw [wellFormed_option msg inside padding notEnd]
            by_cases room : pos + 1 < dhcpMsgSize
            · have later := ih (pos + 2 + (msg (pos + 1)).toNat) (parseDhcpOption msg pos found)
                (by omega) (by omega)
              rw [and_iff_right room]
              exact traceLoop_option msg rounds found inside padding notEnd room later
            · have read := traceLoop_reads_length msg rounds found inside padding notEnd
              exact iff_of_false (fun both => room (both.1 _ read)) (fun all => room all.1)
      · have outside := optionsFrom_outside msg (Nat.le_of_not_lt inside)
        rw [traceLoop_stop msg rounds found (fun entered => inside entered.2), outside]
        exact iff_of_false (fun both => inside (both.1 pos List.mem_cons_self)) not_wellFormed_nil

def dhcpOptionsArea (msg : Nat → UInt8) : List UInt8 := optionsFrom msg dhcpOptionsOffset

/-- For every message, and memory behind it: the area must be options with an end behind them, of
which those that are stored have the length of what is stored. -/
theorem parsesInside_iff (msg : Nat → UInt8) :
    ParsesInside msg ↔
      WellFormed dhcpOptionIdPad dhcpOptionIdEnd properLength (dhcpOptionsArea msg) := by
  have size : dhcpMsgSize = 548 := rfl
  have start : dhcpOptionsOffset = 240 := rfl
  have whole := traceLoop_iff msg (dhcpMsgSize + 1 - dhcpOptionsOffset) dhcpOptionsOffset
    ⟨false, false, false, 0xFF, 0, 0⟩ (by omega) (by omega)
  rw [dhcpOptionsArea, ← whole]
  constructor
  · exact fun parses => ⟨fun index member => (parses.reads index member).2, parses.reports⟩
  · rintro ⟨reads, reports⟩
    refine ⟨traceLoop_ended msg _ _ _ (by omega) (by omega), ?_, reports, ?_⟩
    · exact fun index member => ⟨traceLoop_reads_from msg _ _ _ index member, reads index member⟩
    · intro code has
      rw [← traceOptions_found] at has
      refine (traceLoop_has msg _ _ _ code has).resolve_left ?_
      unfold DhcpOptions.has
      simp

theorem pads_read_on {msg : Nat → UInt8} (pads : ∀ pos, dhcpOptionsOffset ≤ pos →
    msg pos = dhcpOptionIdPad) (rounds pos : Nat) (found : DhcpOptions)
    (start : dhcpOptionsOffset ≤ pos) (inside : pos ≤ dhcpMsgSize)
    (enough : dhcpMsgSize < pos + rounds) :
    dhcpMsgSize ∈ (traceLoop msg rounds pos found).reads := by
  induction rounds generalizing pos with
  | zero => omega
  | succ rounds ih =>
      by_cases last : pos = dhcpMsgSize
      · rw [traceLoop_stop _ rounds found (fun entered => absurd last (by omega)), last]
        exact List.mem_singleton_self _
      · rw [traceLoop_pad _ rounds found (by omega) (pads pos start)]
        exact List.mem_cons_of_mem _ (ih (pos + 1) (by omega) (by omega) (by omega))

/-- A request that ends with its magic number: there is no end behind the pads. -/
theorem pads_not_parsesInside :
    ¬ParsesInside (dhcpMsgOf .admitting (dhcpPacket [2, 0, 0, 0, 0, 1] []).dropLast) := by
  intro parses
  have pads (pos : Nat) (start : dhcpOptionsOffset ≤ pos) :
      dhcpMsgOf .admitting (dhcpPacket [2, 0, 0, 0, 0, 1] []).dropLast pos = dhcpOptionIdPad := by
    have length : (dhcpPacket [2, 0, 0, 0, 0, 1] []).dropLast.length = dhcpOptionsOffset := by
      rw [List.length_dropLast, dhcpPacket]
      simp only [List.length_append, List.length_replicate, List.length_cons, List.length_nil]
      decide
    rw [dhcpMsgOf, List.getD_eq_getElem?_getD, List.getElem?_eq_none (by omega)]
    split <;> rfl
  have member := pads_read_on pads (dhcpMsgSize + 1 - dhcpOptionsOffset) dhcpOptionsOffset
    ⟨false, false, false, 0xFF, 0, 0⟩ (by decide) (by decide) (by decide)
  have beyond := (parses.reads dhcpMsgSize member).2
  omega

end SmartMeter
