import Mathlib.Data.List.SplitLengths
import SmartMeter.Uart.ResponseChunks

/-!
A sequence of answers that shows up every division that goes wrong: each tail an answer can
leave behind brings the parser to a command it does not know, and only the last register
answer carries the mark.
-/

namespace SmartMeter

open RingBuffer

def probeAnswer : Answer → UInt8 → List UInt8
  | .written, _ => [0xFE, 0x12, 0xFE, 0x24]
  | .register, mark => [0xFE, 0x11, 0x01, 0xFE, 0xFE, 0x00, mark, 0x26 - mark]

def probe : List Answer → List (List UInt8)
  | [] => []
  | answer :: rest => probeAnswer answer (if .register ∈ rest then 0 else 1) :: probe rest

theorem probeAnswer_bytes (answer : Answer) {mark : UInt8} (bit : mark = 0 ∨ mark = 1) :
    answer.Bytes (probeAnswer answer mark) := by
  cases answer with
  | written =>
      change IsWriteAck [0xFE, 0x12, 0xFE, 0x24]
      exact ⟨rfl, rfl, rfl, rfl⟩
  | register =>
      rcases bit with rfl | rfl
      · exact IsReadResponse.mk rfl rfl rfl rfl rfl
      · exact IsReadResponse.mk rfl rfl rfl rfl rfl

theorem probe_bytes (answers : List Answer) : List.Forall₂ Answer.Bytes answers (probe answers) := by
  induction answers with
  | nil => exact .nil
  | cons answer rest ih =>
      refine .cons (probeAnswer_bytes answer ?_) ih
      split
      · exact .inl rfl
      · exact .inr rfl

theorem latest_probe {answers : List Answer} (some : .register ∈ answers) (latched : List UInt8) :
    (latest answers (probe answers) latched).getD 6 0 = 1 := by
  induction answers generalizing latched with
  | nil => cases some
  | cons answer rest ih =>
      cases answer with
      | written => exact ih (by simpa using some) latched
      | register =>
          by_cases more : .register ∈ rest
          · exact ih more _
          · change (latest rest (probe rest) _).getD 6 0 = 1
            rw [latest_of_no_register more, if_neg more]
            rfl

def Unknown (command : UInt8) : Prop :=
  command &&& 0x0F ≠ 1 ∧ command &&& 0x0F ≠ 2

/-- The parser is stuck, or the coming bytes make it so before anything else is latched. -/
inductive Doomed : Parser → List UInt8 → Prop
  | stuck {latched unread future : List UInt8} : Doomed ⟨.stuck, unread, latched⟩ future
  | command {latched future later : List UInt8} {command : UInt8} (unknown : Unknown command)
      (next : future = command :: later) : Doomed ⟨.started, [], latched⟩ future
  | start {latched unread future later : List UInt8} {command : UInt8} (unknown : Unknown command)
      (few : unread.length ≤ 100) (next : unread ++ future = 0xFE :: command :: later) :
      Doomed ⟨.idle, unread, latched⟩ future
  | skip {latched unread future later : List UInt8} {command : UInt8} (unknown : Unknown command)
      (few : unread.length ≤ 30) (next : unread ++ future = 0x01 :: 0xFE :: command :: later) :
      Doomed ⟨.idle, unread, latched⟩ future

theorem receive_idle {unread latched chunk : List UInt8} (few : unread.length ≤ 100) :
    Parser.receive ⟨.idle, unread, latched⟩ chunk =
      ⟨(takeFrom .idle (unread ++ chunk)).stage, (takeFrom .idle (unread ++ chunk)).unread,
        (takeFrom .idle (unread ++ chunk)).latch.getD latched⟩ := by
  have limit : rxCacheLimit = 128 := rfl
  have room : ¬4095 - unread.length ≤ rxCacheLimit := by omega
  simp only [Parser.receive, Parser.taken, Parser.pending, room, if_false]

theorem takeFrom_unknown {command : UInt8} (unknown : Unknown command) (rest : List UInt8) :
    takeFrom .idle (0xFE :: command :: rest) = ⟨.stuck, rest, none⟩ :=
  takeAnswer_unknown unknown.1 unknown.2

theorem Doomed.receive {parser : Parser} {chunk future : List UInt8}
    (doomed : Doomed parser (chunk ++ future)) (some : 0 < chunk.length) (fits : chunk.length ≤ 63) :
    Doomed (parser.receive chunk) future ∧ (parser.receive chunk).latched = parser.latched := by
  cases doomed with
  | stuck => exact ⟨.stuck, rfl⟩
  | command unknown next =>
      cases chunk with
      | nil => cases some
      | cons command chunk =>
          obtain ⟨rfl, _⟩ := List.cons.inj next
          have takes : takeAnswer (command :: chunk) = ⟨.stuck, chunk, none⟩ :=
            takeAnswer_unknown unknown.1 unknown.2
          change Doomed ⟨(takeAnswer (command :: chunk)).stage, (takeAnswer (command :: chunk)).unread,
            (takeAnswer (command :: chunk)).latch.getD _⟩ _ ∧ (takeAnswer (command :: chunk)).latch.getD _ = _
          rw [takes]
          exact ⟨.stuck, rfl⟩
  | start unknown few next =>
      rename_i latched unread later command
      rw [receive_idle few]
      rw [← List.append_assoc] at next
      match stream : unread ++ chunk with
      | [] =>
          have size := congrArg List.length stream
          rw [List.length_append, List.length_nil] at size
          omega
      | [first] =>
          rw [stream] at next
          obtain ⟨rfl, behind⟩ := List.cons.inj next
          exact ⟨.command unknown behind, rfl⟩
      | first :: second :: rest =>
          rw [stream] at next
          obtain ⟨rfl, behind⟩ := List.cons.inj next
          obtain ⟨rfl, _⟩ := List.cons.inj behind
          rw [takeFrom_unknown unknown]
          exact ⟨.stuck, rfl⟩
  | skip unknown few next =>
      rename_i latched unread later command
      rw [receive_idle (by omega)]
      rw [← List.append_assoc] at next
      cases stream : unread ++ chunk with
      | nil =>
          have size := congrArg List.length stream
          rw [List.length_append, List.length_nil] at size
          omega
      | cons first rest =>
          have size := congrArg List.length stream
          rw [List.length_append, List.length_cons] at size
          rw [stream] at next
          obtain ⟨rfl, behind⟩ := List.cons.inj next
          exact ⟨.start unknown (by change rest.length ≤ 100; omega) behind, rfl⟩

theorem Doomed.foldl (chunks : List (List UInt8)) {parser : Parser}
    (doomed : Doomed parser chunks.flatten)
    (fits : ∀ chunk ∈ chunks, 0 < chunk.length ∧ chunk.length ≤ 63) :
    (chunks.foldl Parser.receive parser).latched = parser.latched := by
  induction chunks generalizing parser with
  | nil => rfl
  | cons chunk chunks ih =>
      obtain ⟨some, small⟩ := fits chunk List.mem_cons_self
      rw [List.flatten_cons] at doomed
      obtain ⟨next, latched⟩ := doomed.receive some small
      rw [List.foldl_cons, ih next fun other inside => fits other (List.mem_cons_of_mem _ inside),
        latched]

theorem unknown_tail : Unknown 0xFE ∧ Unknown 0x24 ∧ Unknown 0x00 := by
  unfold Unknown
  decide

/-- A callback that finds more than the start byte of an answer but not all of it. -/
theorem probeAnswer_cut (answer : Answer) (mark : UInt8) {arrived : Nat} (two : 2 ≤ arrived)
    (short : arrived < answer.size) (later latched : List UInt8) :
    (takeFrom .idle ((probeAnswer answer mark).take arrived)).latch = none ∧
      Doomed ⟨(takeFrom .idle ((probeAnswer answer mark).take arrived)).stage,
          (takeFrom .idle ((probeAnswer answer mark).take arrived)).unread, latched⟩
        ((probeAnswer answer mark).drop arrived ++ later) := by
  obtain ⟨start, write, _⟩ := unknown_tail
  cases answer with
  | written =>
      have sizes : arrived = 2 ∨ arrived = 3 := by
        change arrived < 4 at short
        omega
      rcases sizes with rfl | rfl
      · exact ⟨rfl, .start write (Nat.zero_le _) rfl⟩
      · exact ⟨rfl, .start write (Nat.le_add_left 1 99) rfl⟩
  | register =>
      have sizes : arrived = 2 ∨ arrived = 3 ∨ arrived = 4 ∨ arrived = 5 ∨ arrived = 6 ∨
          arrived = 7 := by
        change arrived < 8 at short
        omega
      rcases sizes with rfl | rfl | rfl | rfl | rfl | rfl
      · exact ⟨rfl, .skip start (Nat.zero_le _) rfl⟩
      · exact ⟨rfl, .start start (Nat.zero_le _) rfl⟩
      · exact ⟨rfl, .start start (Nat.le_add_left 1 99) rfl⟩
      · exact ⟨rfl, .start start (Nat.le_add_left 2 98) rfl⟩
      · exact ⟨rfl, .start start (Nat.le_add_left 3 97) rfl⟩
      · exact ⟨rfl, .start start (Nat.le_add_left 4 96) rfl⟩

theorem probe_drop {count : Nat} {answers : List Answer} (four : 4 ∣ count)
    (inside : count ≤ (answers.map Answer.size).sum) :
    match skipBytes count answers with
    | some left => (probe answers).flatten.drop count = (probe left).flatten
    | none => ∃ later, (probe answers).flatten.drop count = 0xFE :: 0x00 :: later := by
  induction answers generalizing count with
  | nil =>
      obtain rfl : count = 0 := by simpa using inside
      rfl
  | cons answer rest ih =>
      by_cases zero : count = 0
      · subst zero
        rfl
      rw [List.map_cons, List.sum_cons] at inside
      by_cases whole : answer.size ≤ count
      · have size : 4 ∣ answer.size := by
          cases answer with
          | written => decide
          | register => decide
        have next := ih (Nat.dvd_sub four size) (by omega)
        have bytes : (probeAnswer answer (if .register ∈ rest then 0 else 1)).length = answer.size := by
          cases answer with
          | written => rfl
          | register => rfl
        rw [probe, List.flatten_cons, List.drop_append, List.drop_eq_nil_of_le (by omega), bytes,
          List.nil_append]
        simp only [skipBytes, zero, whole, if_true, if_false]
        exact next
      · simp only [skipBytes, zero, whole, if_false]
        cases answer with
        | written =>
            change ¬4 ≤ count at whole
            omega
        | register =>
            change ¬8 ≤ count at whole
            obtain rfl : count = 4 := by omega
            exact ⟨_, rfl⟩

theorem settles_of_no_register {answers : List Answer} (none : .register ∉ answers) (unread : Nat)
    (sizes : List Nat) : settles answers unread sizes = true := by
  cases sizes with
  | nil => exact decide_eq_true none
  | cons size sizes => rw [settles, decide_eq_true none, Bool.true_or]

theorem register_mem_of_unsettled {answers : List Answer} {unread : Nat} {sizes : List Nat}
    (unsettled : settles answers unread sizes = false) : .register ∈ answers := by
  by_contra none
  rw [settles_of_no_register none] at unsettled
  cases unsettled

theorem four_dvd_lostBytes (unread : Nat) : 4 ∣ lostBytes unread := by
  unfold lostBytes
  split
  · decide
  · decide

section Unsettled

variable {answers : List Answer} {parser : Parser} {unread : Nat} {chunk future : List UInt8}

theorem Parser.Aligned.lose (aligned : parser.Aligned (probe answers).flatten unread)
    (next : (probe answers).flatten.drop unread = chunk ++ future)
    (cut : skipBytes (lostBytes unread) answers = none) {behind : List UInt8}
    (start : (probe answers).flatten.drop (lostBytes unread) = 0xFE :: 0x00 :: behind) :
    Doomed (parser.receive chunk) future ∧ (parser.receive chunk).latched = parser.latched := by
  have limit : rxCacheLimit = 128 := rfl
  have lost : lostBytes unread ≠ 0 := by
    intro zero
    rw [zero, skipBytes_zero] at cut
    cases cut
  have many : 2 ≤ unread - lostBytes unread + chunk.length := by
    unfold lostBytes at lost ⊢
    split at lost
    · rw [if_pos (by assumption)]
      omega
    · exact absurd rfl lost
  obtain ⟨more, arrived⟩ := Nat.exists_eq_add_of_le many
  have takes : takeFrom .idle (((probe answers).flatten.drop (lostBytes unread)).take
      (unread - lostBytes unread + chunk.length)) = ⟨.stuck, behind.take more, none⟩ := by
    rw [start, arrived, Nat.add_comm, List.take_succ_cons, List.take_succ_cons]
    exact takeFrom_unknown unknown_tail.2.2 _
  rw [aligned.receive next takes]
  exact ⟨.stuck, rfl⟩

theorem Parser.Aligned.cut {answer : Answer} {mark : UInt8} {later : List UInt8}
    (aligned : parser.Aligned (probe answers).flatten unread)
    (next : (probe answers).flatten.drop unread = chunk ++ future)
    (behind : (probe answers).flatten.drop (lostBytes unread) = probeAnswer answer mark ++ later)
    (two : 2 ≤ unread - lostBytes unread + chunk.length)
    (short : unread - lostBytes unread + chunk.length < answer.size) :
    Doomed (parser.receive chunk) future ∧ (parser.receive chunk).latched = parser.latched := by
  have size : (probeAnswer answer mark).length = answer.size := by
    cases answer with
    | written => rfl
    | register => rfl
  have left := drop_arrived next
  rw [behind, List.drop_append_of_le_length (by omega)] at left
  have front := congrArg (List.take (unread - lostBytes unread + chunk.length)) behind
  rw [List.take_append_of_le_length (by omega)] at front
  obtain ⟨latch, doomed⟩ := probeAnswer_cut answer mark two short later parser.latched
  rw [aligned.receive next (congrArg (takeFrom .idle) front), latch, ← left]
  exact ⟨doomed, rfl⟩

end Unsettled

/-- The parser on its way through the probe, with a register answer ahead that these chunks do
not bring in whole; no mark is latched yet. -/
structure Probing (answers : List Answer) (unread : Nat) (parser : Parser)
    (chunks : List (List UInt8)) : Prop where
  aligned : parser.Aligned (probe answers).flatten unread
  future : (probe answers).flatten.drop unread = chunks.flatten
  unsettled : settles answers unread (chunks.map List.length) = false
  clean : parser.latched.getD 6 0 = 0

/-- What a further chunk leads to: the same one chunk later, or an end without the mark. -/
def StaysClean (parser : Parser) (chunks : List (List UInt8)) : Prop :=
  (∃ answers unread, Probing answers unread parser chunks) ∨
    (chunks.foldl Parser.receive parser).latched.getD 6 0 = 0

section Probing

variable {answers left rest : List Answer} {answer : Answer} {parser : Parser} {unread : Nat}
  {chunk : List UInt8} {chunks : List (List UInt8)}

theorem Doomed.staysClean (doomed : Doomed (parser.receive chunk) chunks.flatten)
    (fits : ∀ chunk ∈ chunks, 0 < chunk.length ∧ chunk.length ≤ 63)
    (latched : (parser.receive chunk).latched = parser.latched)
    (clean : parser.latched.getD 6 0 = 0) : StaysClean (parser.receive chunk) chunks := by
  right
  rw [doomed.foldl chunks fits, latched]
  exact clean

/-- Only answers without data are left in what the parser still sees. -/
theorem Probing.silent (probing : Probing answers unread parser (chunk :: chunks))
    (dropped : (probe answers).flatten.drop (lostBytes unread) = (probe left).flatten)
    (none : .register ∉ left) : StaysClean (parser.receive chunk) chunks := by
  right
  have future := probing.future
  rw [List.flatten_cons] at future
  have stream := probing.aligned.stream future
  have remains := drop_arrived future
  rw [dropped] at stream remains
  have quiet := quiet_of_no_register (probe_bytes left) none
  rw [← List.take_append_drop (unread - lostBytes unread + chunk.length)
    (probe left).flatten, ← stream, remains] at quiet
  rw [foldl_receive_quiet chunks (receive_follows_stream probing.aligned.moving chunk) quiet,
    receive_quiet quiet.left_of_append]
  exact probing.clean

/-- The chunk brings in the rest of the oldest answer, which is not the last one with data. -/
theorem Probing.whole (probing : Probing answers unread parser (chunk :: chunks))
    (dropped : (probe answers).flatten.drop (lostBytes unread) = (probe (answer :: rest)).flatten)
    (whole : answer.size ≤ unread - lostBytes unread + chunk.length)
    (unsettled : settles rest (unread - lostBytes unread + chunk.length - answer.size)
      (chunks.map List.length) = false) : StaysClean (parser.receive chunk) chunks := by
  have future := probing.future
  rw [List.flatten_cons] at future
  have more : .register ∈ rest := register_mem_of_unsettled unsettled
  rw [probe, List.flatten_cons, if_pos more] at dropped
  obtain ⟨next, latched, remains⟩ := probing.aligned.consume future
    (probeAnswer_bytes answer (.inl rfl)) dropped whole
  refine .inl ⟨rest, _, next, remains, unsettled, ?_⟩
  rw [latched]
  cases answer with
  | written => exact probing.clean
  | register => rfl

/-- The chunk brings in the start byte of the oldest answer and no more. -/
theorem Probing.alone (probing : Probing answers unread parser (chunk :: chunks))
    (dropped : (probe answers).flatten.drop (lostBytes unread) = (probe (answer :: rest)).flatten)
    (alone : unread - lostBytes unread + chunk.length = 1)
    (unsettled : settles (answer :: rest) 1 (chunks.map List.length) = false) :
    StaysClean (parser.receive chunk) chunks := by
  have future := probing.future
  rw [List.flatten_cons] at future
  have start : ∃ behind, (probe answers).flatten.drop (lostBytes unread) = 0xFE :: behind := by
    rw [dropped]
    cases answer with
    | written => exact ⟨_, rfl⟩
    | register => exact ⟨_, rfl⟩
  obtain ⟨behind, start⟩ := start
  obtain ⟨next, latched, remains⟩ := probing.aligned.wait future start alone
  rw [dropped] at next remains
  refine .inl ⟨answer :: rest, 1, next, remains, unsettled, ?_⟩
  rw [latched]
  exact probing.clean

theorem Probing.receive (probing : Probing answers unread parser (chunk :: chunks))
    (filled : 0 < chunk.length) (fits : ∀ chunk ∈ chunks, 0 < chunk.length ∧ chunk.length ≤ 63) :
    StaysClean (parser.receive chunk) chunks := by
  have aligned := probing.aligned
  have future := probing.future
  have unsettled := probing.unsettled
  have some : .register ∈ answers := register_mem_of_unsettled unsettled
  have total : (probe answers).flatten.length = (answers.map Answer.size).sum := by
    rw [List.length_flatten, map_length_of_bytes (probe_bytes answers)]
  have dropped := probe_drop (four_dvd_lostBytes unread)
    (Nat.le_trans (lostBytes_le unread) (total ▸ aligned.arrived))
  rw [List.map_cons, settles, decide_eq_false (not_not_intro some), Bool.false_or] at unsettled
  rw [List.flatten_cons] at future
  cases skips : skipBytes (lostBytes unread) answers with
  | none =>
      rw [skips] at dropped
      obtain ⟨behind, start⟩ := dropped
      obtain ⟨doomed, latched⟩ := aligned.lose future skips start
      exact doomed.staysClean fits latched probing.clean
  | some left =>
      simp only [skips] at dropped unsettled
      by_cases inside : .register ∈ left
      · cases left with
        | nil => cases inside
        | cons answer rest =>
            simp only [inside, decide_true, Bool.true_and] at unsettled
            by_cases whole : answer.size ≤ unread - lostBytes unread + chunk.length
            · rw [if_pos whole] at unsettled
              exact probing.whole dropped whole unsettled
            · rw [if_neg whole] at unsettled
              by_cases alone : unread - lostBytes unread + chunk.length = 1
              · rw [decide_eq_true alone, Bool.true_and] at unsettled
                exact probing.alone dropped alone unsettled
              · rw [probe, List.flatten_cons] at dropped
                obtain ⟨doomed, latched⟩ := aligned.cut future dropped (by omega) (by omega)
                exact doomed.staysClean fits latched probing.clean
      · exact probing.silent dropped inside

end Probing

/-- Where a division goes wrong the mark of the last register answer is not latched. -/
theorem Probing.foldl (chunks : List (List UInt8)) {answers : List Answer} {parser : Parser}
    {unread : Nat} (probing : Probing answers unread parser chunks)
    (fits : ∀ chunk ∈ chunks, 0 < chunk.length ∧ chunk.length ≤ 63) :
    (chunks.foldl Parser.receive parser).latched.getD 6 0 = 0 := by
  induction chunks generalizing answers parser unread with
  | nil => exact probing.clean
  | cons chunk chunks ih =>
      have later : ∀ chunk ∈ chunks, 0 < chunk.length ∧ chunk.length ≤ 63 :=
        fun other inside => fits other (List.mem_cons_of_mem _ inside)
      rw [List.foldl_cons]
      rcases probing.receive (fits chunk List.mem_cons_self).1 later with
        ⟨answers, unread, next⟩ | clean
      · exact ih next later
      · exact clean

theorem Division.length_probe (division : Division) :
    (probe division.answers).flatten.length = division.sizes.sum := by
  rw [List.length_flatten, map_length_of_bytes (probe_bytes _), division.total]

def Division.probeChunks (division : Division) : List (List UInt8) :=
  division.sizes.splitLengths (probe division.answers).flatten

theorem Division.probeChunks_length (division : Division) :
    division.probeChunks.map List.length = division.sizes :=
  List.map_splitLengths_length _ _ (Nat.le_of_eq division.length_probe.symm)

theorem Division.probeChunks_flatten (division : Division) :
    division.probeChunks.flatten = (probe division.answers).flatten :=
  List.flatten_splitLengths _ _ (Nat.le_of_eq division.length_probe)

theorem Division.probeChunks_fits (division : Division) :
    ∀ chunk ∈ division.probeChunks, 0 < chunk.length ∧ chunk.length ≤ 63 := by
  intro chunk inside
  apply division.fits
  rw [← division.probeChunks_length]
  exact List.mem_map_of_mem inside

theorem Division.probeChunks_fifo (division : Division) :
    (division.probeChunks.map wholeCallback).map RxInterrupt.fifo = division.probeChunks := by
  have same : ∀ chunk ∈ division.probeChunks, (wholeCallback chunk).fifo = id chunk :=
    fun chunk inside => wholeCallback_fifo (division.probeChunks_fits chunk inside).2
  rw [List.map_map]
  exact (List.map_congr_left same).trans (List.map_id _)

theorem Division.delivers_probe (division : Division) :
    division.Delivers (probe division.answers) (division.probeChunks.map wholeCallback) := by
  have fifo := division.probeChunks_fifo
  refine ⟨probe_bytes _, ?_, ?_, ?_⟩
  · change List.map (List.length ∘ RxInterrupt.fifo) _ = _
    rw [← List.map_map, fifo]
    exact division.probeChunks_length
  · intro chunk inside
    obtain ⟨bytes, _, rfl⟩ := List.mem_map.mp inside
    rfl
  · rw [List.flatMap_def, fifo]
    exact division.probeChunks_flatten

theorem Division.probe_not_independent {division : Division}
    (unsettled : settles division.answers 0 division.sizes = false) :
    ¬ChunkingIndependent (uart1Init blankRing fun _ => 0) (probe division.answers)
      (division.probeChunks.map wholeCallback) := by
  intro same
  rw [ChunkingIndependent, whole_latched (Ring.contents_eq_nil rfl) _ (probe_bytes _),
    foldl_latched (Ring.contents_eq_nil rfl) _ division.delivers_probe.clean,
    division.probeChunks_fifo] at same
  have lost : (division.probeChunks.foldl Parser.receive (startParser fun _ => 0)).latched.getD 6 0
      = 0 := by
    have probing : Probing division.answers 0 (startParser fun _ => 0) division.probeChunks := by
      refine ⟨startParser_aligned _ _, division.probeChunks_flatten.symm, ?_, rfl⟩
      rw [division.probeChunks_length]
      exact unsettled
    exact probing.foldl division.probeChunks division.probeChunks_fits
  rw [same, latest_probe (register_mem_of_unsettled unsettled)] at lost
  exact absurd lost (by decide)

/-- Callbacks may divide the chip's answers in this way exactly when up to the last register
answer each of them finds the oldest answer not yet handled complete, or nothing of it but its
start byte: one answer is handled in a callback, and a shorter remainder is given up with
bytes left over. -/
theorem division_chunkingIndependent_iff (division : Division) :
    (∀ (recv : TlsUartCircBuf) (back : Nat → UInt8) (responses : List (List UInt8))
        (chunks : List RxInterrupt), recv.contents = [] → division.Delivers responses chunks →
          ChunkingIndependent (uart1Init recv back) responses chunks) ↔
      settles division.answers 0 division.sizes = true := by
  constructor
  · intro independent
    by_contra broken
    refine Division.probe_not_independent (Bool.eq_false_iff.mpr broken) ?_
    exact independent _ _ _ _ (Ring.contents_eq_nil rfl) division.delivers_probe
  · intro settled recv back responses chunks nothing delivers
    rw [ChunkingIndependent, delivers.latched settled nothing, whole_latched nothing back
      delivers.answers]

def afterCommand : Division :=
  ⟨[.register], [2, 6], by decide, rfl⟩

def commandFirst : List RxInterrupt :=
  [⟨false, [0xFE, 0x11], by decide⟩, ⟨false, [0x01, 0xFE, 0xFE, 0x00, 0x01, 0x25], by decide⟩]

theorem afterCommand_not_chunkingIndependent :
    afterCommand.Delivers [[0xFE, 0x11, 0x01, 0xFE, 0xFE, 0x00, 0x01, 0x25]] commandFirst ∧
      ¬ChunkingIndependent (uart1Init blankRing fun _ => 0)
        [[0xFE, 0x11, 0x01, 0xFE, 0xFE, 0x00, 0x01, 0x25]] commandFirst := by
  have responses : probe afterCommand.answers = [[0xFE, 0x11, 0x01, 0xFE, 0xFE, 0x00, 0x01, 0x25]] := rfl
  have chunks : afterCommand.probeChunks.map wholeCallback = commandFirst := rfl
  rw [← responses, ← chunks]
  exact ⟨afterCommand.delivers_probe, Division.probe_not_independent rfl⟩

end SmartMeter
