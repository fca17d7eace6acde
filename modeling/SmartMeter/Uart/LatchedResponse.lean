import SmartMeter.Uart.ResponseParser

/-!
What gets into `ReadRegBackBuf`. A line is the receiver together with every byte it has
accepted; the bytes latched by a callback are compared with these.
-/

namespace SmartMeter

open Runs RingBuffer

structure Line where
  uart : Uart1
  wire : List UInt8

def Line.init (recv : TlsUartCircBuf) : Line :=
  ⟨uart1Init recv fun _ => 0, recv.contents⟩

def Line.step (line : Line) (intr : RxInterrupt) : Line :=
  ⟨uart1IrqHandler line.uart intr, line.wire ++ intr.accepted⟩

def Line.latched (line : Line) : List UInt8 :=
  Buffer.toList line.uart.readRegBackBuf 8

def LatchesVerified (line : Line) (intr : RxInterrupt) : Prop :=
  (line.step intr).latched ≠ line.latched →
    IsReadResponse (line.step intr).latched ∧ (line.step intr).latched <:+: (line.step intr).wire

def FindsRegisters (line : Line) (intr : RxInterrupt) : Prop :=
  ¬IsEmptyAnswer ((line.uart.stream intr).take 4)

def Parser.held (parser : Parser) : List UInt8 :=
  match parser.stage with
  | .started => 0xFE :: parser.unread
  | _ => parser.unread

structure Parser.Follows (parser : Parser) (wire : List UInt8) : Prop where
  held : parser.held <:+ wire
  started : parser.stage = .started → parser.unread = []

theorem takeAnswer_unread (rest : List UInt8) : (takeAnswer rest).unread <:+ rest := by
  induction rest using takeAnswer_cases with
  | nothing => exact List.suffix_rfl
  | alone command => exact List.nil_suffix
  | write command rest =>
      refine List.IsSuffix.trans ?_ (List.suffix_cons command rest)
      dsimp only
      split
      · exact List.drop_suffix 2 rest
      · exact List.suffix_rfl
  | short command registers rest =>
      exact (List.suffix_cons registers rest).trans (List.suffix_cons command _)
  | whole command registers rest =>
      exact (List.drop_suffix _ rest).trans
        ((List.suffix_cons registers rest).trans (List.suffix_cons command _))
  | unknown command rest => exact List.suffix_cons command rest

theorem takeAnswer_started (rest : List UInt8) :
    (takeAnswer rest).stage = .started → rest = [] := by
  induction rest using takeAnswer_cases with
  | nothing => exact fun _ => rfl
  | alone => exact not_started_of_idle
  | write => exact not_started_of_idle
  | short => exact not_started_of_idle
  | whole => exact not_started_of_idle
  | unknown => exact not_started_of_stuck

theorem takeAnswer_held (rest latched : List UInt8) :
    Parser.Follows ⟨(takeAnswer rest).stage, (takeAnswer rest).unread, latched⟩ (0xFE :: rest) := by
  refine ⟨?_, ?_⟩
  · unfold Parser.held
    cases stage : (takeAnswer rest).stage with
    | started =>
        obtain rfl := takeAnswer_started rest stage
        exact List.suffix_rfl
    | idle => exact (takeAnswer_unread rest).trans (List.suffix_cons _ _)
    | stuck => exact (takeAnswer_unread rest).trans (List.suffix_cons _ _)
  · intro started
    obtain rfl := takeAnswer_started rest started
    rfl

theorem Parser.Follows.mono {parser : Parser} {first second : List UInt8}
    (follows : parser.Follows first) (longer : first <:+ second) : parser.Follows second :=
  ⟨follows.held.trans longer, follows.started⟩

theorem pending_suffix (parser : Parser) (bytes : List UInt8) :
    parser.pending bytes <:+ parser.unread ++ bytes := by
  unfold Parser.pending
  split
  · exact ⟨parser.unread.take rxCacheLimit, by rw [← List.append_assoc, List.take_append_drop]⟩
  · exact List.suffix_rfl

theorem append_suffix {first second : List UInt8} (suffix : first <:+ second) (bytes : List UInt8) :
    first ++ bytes <:+ second ++ bytes := by
  obtain ⟨before, rfl⟩ := suffix
  exact ⟨before, (List.append_assoc _ _ _).symm⟩

theorem Parser.Follows.stream {parser : Parser} {wire : List UInt8} (follows : parser.Follows wire)
    (bytes : List UInt8) : parser.stream bytes <:+ wire ++ bytes := by
  have held := append_suffix follows.held bytes
  unfold Parser.stream
  cases stage : parser.stage with
  | stuck => exact List.nil_suffix
  | idle =>
      rw [Parser.held, stage] at held
      exact (pending_suffix parser bytes).trans held
  | started =>
      have nothing := follows.started stage
      rw [Parser.held, stage, nothing] at held
      have pending : parser.pending bytes = bytes := by
        rw [Parser.pending, nothing]
        rfl
      rw [pending]
      exact held

theorem taken_eq_takeFrom {parser : Parser} (moving : parser.stage ≠ .stuck) (bytes : List UInt8) :
    parser.taken bytes = takeFrom .idle (parser.stream bytes) := by
  unfold Parser.taken Parser.stream
  cases stage : parser.stage with
  | stuck => exact absurd stage moving
  | idle => rfl
  | started => rfl

theorem receive_follows_stream {parser : Parser} (moving : parser.stage ≠ .stuck)
    (bytes : List UInt8) : (parser.receive bytes).Follows (parser.stream bytes) := by
  unfold Parser.receive
  rw [taken_eq_takeFrom moving]
  cases parser.stream bytes with
  | nil => exact ⟨List.nil_suffix, not_started_of_idle⟩
  | cons first rest =>
      by_cases start : first = 0xFE
      · subst start
        exact takeAnswer_held rest _
      · simp only [takeFrom, start, if_false]
        exact ⟨List.suffix_cons first rest, not_started_of_idle⟩

theorem Parser.Follows.receive {parser : Parser} {wire : List UInt8} (follows : parser.Follows wire)
    (bytes : List UInt8) : (parser.receive bytes).Follows (wire ++ bytes) := by
  by_cases stuck : parser.stage = .stuck
  · have held := append_suffix follows.held bytes
    rw [Parser.held, stuck] at held
    unfold Parser.receive Parser.taken
    rw [stuck]
    exact ⟨(pending_suffix parser bytes).trans held, not_started_of_stuck⟩
  · exact (receive_follows_stream stuck bytes).mono (follows.stream bytes)

structure Line.Consistent (line : Line) : Prop where
  parser : ∃ parser, Refines line.uart parser ∧ parser.Follows line.wire
  latched : line.latched.getD 0 0 ≠ 0xFE ∨ line.latched.getD 2 0 ≠ 0

theorem step_latched {line : Line} {parser : Parser} (refines : Refines line.uart parser)
    (intr : RxInterrupt) :
    (line.step intr).latched = ((parser.taken intr.accepted).latch).getD line.latched := by
  have next := (refines.receive intr).latched
  have before : line.latched = parser.latched := refines.latched
  rw [before]
  exact next

theorem latches_of_changed {line : Line} {parser : Parser} (refines : Refines line.uart parser)
    (intr : RxInterrupt) (changed : (line.step intr).latched ≠ line.latched) :
    Latches (parser.stream intr.accepted) (line.step intr).latched := by
  have next := step_latched refines intr
  rw [← taken_latch_iff]
  cases latch : (parser.taken intr.accepted).latch with
  | none =>
      rw [latch] at next
      exact absurd next changed
  | some back =>
      rw [latch] at next
      rw [next]
      rfl

theorem latchesVerified_iff_step (line : Line) (intr : RxInterrupt)
    (consistent : line.Consistent) : LatchesVerified line intr ↔ FindsRegisters line intr := by
  obtain ⟨⟨parser, refines, follows⟩, clean⟩ := consistent
  have stream := refines.stream intr
  unfold LatchesVerified FindsRegisters
  rw [stream]
  constructor
  · intro verified empty
    have latch := (taken_latch_iff parser intr.accepted _).mpr (.empty empty)
    have next := step_latched refines intr
    rw [latch, Option.getD_some] at next
    have start : (line.step intr).latched.getD 0 0 = 0xFE := by
      rw [next]
      exact empty.start
    have registers : (line.step intr).latched.getD 2 0 = 0 := by
      rw [next]
      exact empty.registers
    have changed : (line.step intr).latched ≠ line.latched := by
      intro same
      rw [same] at start registers
      rcases clean with other | some
      · exact other start
      · exact some registers
    have one := (verified changed).1.registers
    rw [registers] at one
    exact absurd one (by decide)
  · intro some changed
    have latches := latches_of_changed refines intr changed
    generalize (line.step intr).latched = back at latches ⊢
    cases latches with
    | empty answer => exact absurd answer some
    | response answer =>
        refine ⟨answer, ?_⟩
        exact (List.take_prefix 8 _).isInfix.trans (follows.stream intr.accepted).isInfix

theorem Line.Consistent.step {line : Line} (consistent : line.Consistent) (intr : RxInterrupt)
    (some : FindsRegisters line intr) : (line.step intr).Consistent := by
  obtain ⟨parser, refines, follows⟩ := consistent.parser
  refine ⟨⟨_, refines.receive intr, follows.receive intr.accepted⟩, ?_⟩
  by_cases changed : (line.step intr).latched = line.latched
  · rw [changed]
    exact consistent.latched
  · have verified := (latchesVerified_iff_step line intr consistent).mpr some changed
    right
    rw [verified.1.registers]
    decide

theorem Line.init_consistent (recv : TlsUartCircBuf) : (Line.init recv).Consistent :=
  ⟨⟨_, refines_idle rfl, List.suffix_rfl, not_started_of_idle⟩, .inl (by change (0 : UInt8) ≠ 0xFE; decide)⟩

/-- Along every run from start-up what is latched is a received one-register answer, exactly
when no callback finds a checksum-correct answer that announces no registers: its four bytes
pass the test `len <= 4`, and zeros fill up the eight. -/
theorem run_latchesVerified_iff (recv : TlsUartCircBuf) (intrs : List RxInterrupt) :
    Along Line.step LatchesVerified (Line.init recv) intrs ↔
      Along Line.step FindsRegisters (Line.init recv) intrs :=
  along_iff_along_of_invariant latchesVerified_iff_step (fun _ intr consistent => consistent.step intr)
    (Line.init_consistent recv) intrs

def emptyAnswer : RxInterrupt :=
  ⟨false, [0xFE, 0x11, 0x00, 0x23], by decide⟩

theorem emptyAnswer_not_latchesVerified :
    ¬Along Line.step LatchesVerified (Line.init blankRing) [emptyAnswer] := by
  rintro ⟨verified, _⟩
  have some := (latchesVerified_iff_step _ _ (Line.init_consistent blankRing)).mp verified
  have stream : (Line.init blankRing).uart.stream emptyAnswer = [0xFE, 0x11, 0x00, 0x23] :=
    contents_receive_empty (Ring.contents_eq_nil rfl) rfl
  apply some
  rw [stream]
  exact ⟨rfl, rfl, rfl, rfl, rfl⟩

end SmartMeter
