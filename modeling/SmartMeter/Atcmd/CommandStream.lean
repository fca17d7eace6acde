import SmartMeter.Atcmd.LineEnds

/-!
Commands that arrive in chunks. After each chunk `parse_atcmd_line` is called, and again as often
as a call has passed a command on and found more bytes behind it.
-/

namespace SmartMeter

open RingBuffer

structure AtcmdText where
  chars : List UInt8
  short : chars.length ≤ 100
  printable : ∀ char ∈ chars, 32 ≤ char ∧ char < 127

namespace AtcmdText

def line (text : AtcmdText) : List UInt8 := [65, 84, 43] ++ text.chars ++ [13, 10]

def command (text : AtcmdText) : AtcmdCommand :=
  ⟨[65, 84, 43] ++ text.chars ++ [10, 0], 3 + text.chars.length + 1⟩

theorem not_isEol (text : AtcmdText) : ∀ char ∈ text.chars, ¬IsEol char := by
  rintro char member (rfl | rfl)
  · exact absurd (text.printable _ member).1 (by decide)
  · exact absurd (text.printable _ member).1 (by decide)

end AtcmdText

namespace TlsUartCircBuf

/-- The calls of `uart_rx` up to the one that posts no other. -/
def uartRx (alloc : Nat → Bool) :
    Nat → TlsUartCircBuf → Option (TlsUartCircBuf × List AtcmdCommand)
  | 0, _ => none
  | calls + 1, recv => do
      let call ← parseAtcmdLine alloc recv
      if call.posted then
        let (after, commands) ← uartRx alloc calls call.recv
        return (after, call.command.toList ++ commands)
      else return (call.recv, call.command.toList)

def receiveChunk (alloc : Nat → Bool) (recv : TlsUartCircBuf) (chunk : List UInt8) :
    Option (TlsUartCircBuf × List AtcmdCommand) :=
  uartRx alloc tlsUartRxBufSize (chunk.foldl Ring.push recv)

def receiveAll (alloc : Nat → Bool) (recv : TlsUartCircBuf) :
    List (List UInt8) → Option (TlsUartCircBuf × List AtcmdCommand)
  | [] => some (recv, [])
  | chunk :: rest => do
      let (after, commands) ← receiveChunk alloc recv chunk
      let (final, later) ← receiveAll alloc after rest
      return (final, commands ++ later)

/-- A chunk finds room, and does not end behind an `AT+` while a line end is in the buffer. -/
structure ChunkFits (recv : TlsUartCircBuf) (chunk : List UInt8) : Prop where
  room : recv.count + chunk.length < tlsUartRxBufSize
  behind : ∀ earlier, recv.contents ++ chunk ≠ earlier ++ [10, 65, 84, 43]
  alone : recv.contents ++ chunk = [65, 84, 43] →
    ∀ cell < tlsUartRxBufSize, ¬IsEol ((chunk.foldl Ring.push recv).cells cell)

def AllFit (alloc : Nat → Bool) : TlsUartCircBuf → List (List UInt8) → Prop
  | _, [] => True
  | recv, chunk :: rest => ChunkFits recv chunk ∧ ∀ after commands,
      receiveChunk alloc recv chunk = some (after, commands) → AllFit alloc after rest

variable {recv : TlsUartCircBuf} {rest : List UInt8} {texts : List AtcmdText}

/-- The unread bytes and those that are still to come are the lines of `texts`, maybe behind the
second half of a line end. -/
structure Awaits (recv : TlsUartCircBuf) (lf rest : List UInt8) (texts : List AtcmdText) : Prop where
  stream : recv.contents ++ rest = lf ++ texts.flatMap AtcmdText.line
  behind : ∀ earlier, recv.contents ≠ earlier ++ [10, 65, 84, 43]
  alone : recv.contents = [65, 84, 43] → ∀ cell < tlsUartRxBufSize, ¬IsEol (recv.cells cell)

def Idle (recv : TlsUartCircBuf) : Prop :=
  recv.count < 3 ∨ ∀ value ∈ recv.contents, ¬IsEol value

inductive CallDone (rest : List UInt8) (count : Nat) (texts : List AtcmdText) (call : AtcmdCall) :
    Prop
  | waits (lf : List UInt8) : lf = [] ∨ lf = [10] → call.command = none → call.posted = false →
      Idle call.recv → Awaits call.recv lf rest texts → CallDone rest count texts call
  | passes (lf : List UInt8) (text : AtcmdText) (later : List AtcmdText) : lf = [] ∨ lf = [10] →
      texts = text :: later → call.command = some text.command →
      call.posted = decide (0 < call.recv.count) → call.recv.count < count →
      Awaits call.recv lf rest later → CallDone rest count texts call

theorem ahead_of_contents {before after : List UInt8} {value : UInt8}
    (parts : recv.contents = before ++ value :: after) : recv.ahead before.length = value := by
  have length := congrArg List.length parts
  rw [Ring.contents_length, List.length_append, List.length_cons] at length
  have entry := recv.getElem?_contents (by omega : before.length < recv.count)
  rw [parts, List.getElem?_append_right (Nat.le_refl _), Nat.sub_self] at entry
  exact (Option.some.inj entry).symm

theorem contents_drop_eq {before after : List UInt8} (parts : recv.contents = before ++ after) :
    (recv.drop before.length).contents = after := by
  have length := congrArg List.length parts
  rw [Ring.contents_length, List.length_append] at length
  rw [recv.contents_drop (by omega), parts, List.drop_left]

theorem ahead_mem {index : Nat} (bound : index < recv.count) :
    recv.ahead index ∈ recv.contents :=
  List.mem_of_getElem? (recv.getElem?_contents bound)

theorem Awaits.drop {lf lf' before after : List UInt8} {later : List AtcmdText}
    (awaits : Awaits recv lf rest texts) (parts : recv.contents = before ++ after)
    (next : after ++ rest = lf' ++ later.flatMap AtcmdText.line)
    (apart : after = [65, 84, 43] → ∃ earlier, before = earlier ++ [10]) :
    Awaits (recv.drop before.length) lf' rest later where
  stream := by rw [contents_drop_eq parts, next]
  behind earlier same := by
    rw [contents_drop_eq parts] at same
    rw [same, ← List.append_assoc] at parts
    exact awaits.behind _ parts
  alone same := by
    rw [contents_drop_eq parts] at same
    obtain ⟨earlier, rfl⟩ := apart same
    rw [same, List.append_assoc] at parts
    exact absurd parts (awaits.behind earlier)

theorem atPrefix_of_contents {text : List UInt8} (parts : recv.contents = [65, 84, 43] ++ text) :
    AtPrefix recv :=
  ⟨.inl (@ahead_of_contents recv [] _ _ parts), .inl (@ahead_of_contents recv [65] _ _ parts),
    @ahead_of_contents recv [65, 84] _ _ parts⟩

theorem parse_incomplete {alloc : Nat → Bool} {rounds : Nat} {lf part : List UInt8}
    (lfOr : lf = [] ∨ lf = [10]) (awaits : Awaits recv lf rest texts)
    (parts : recv.contents = [65, 84, 43] ++ part) (none : ∀ value ∈ part, ¬IsEol value)
    (short : part.length ≤ 100) :
    ∃ call, parseLoop alloc (rounds + 1) recv = some call ∧ CallDone rest recv.count texts call := by
  have length := congrArg List.length parts
  rw [Ring.contents_length, List.length_append] at length
  change recv.count = 3 + part.length at length
  have left := recv.count_drop (by omega : 3 ≤ recv.count)
  have missed : ∀ index < span (recv.drop 3), ¬IsEol ((recv.drop 3).ahead index) := by
    intro index bound
    by_cases empty : part = []
    · rw [empty, List.append_nil] at parts
      exact awaits.alone parts _ (Nat.mod_lt _ (by decide))
    · have some : 0 < part.length := List.length_pos_iff.mpr empty
      rw [span_eq_count _ (by omega)] at bound
      have member := @ahead_mem (recv.drop 3) index bound
      have behind : (recv.drop 3).contents = part := @contents_drop_eq recv [65, 84, 43] _ parts
      rw [behind] at member
      exact none _ member
  have result := @parseLoop_prefix_none recv alloc rounds (by omega) (atPrefix_of_contents parts) missed
  rw [if_neg (by omega)] at result
  refine ⟨_, result, .waits lf lfOr rfl rfl (.inr ?_) awaits⟩
  intro value member
  rw [parts] at member
  rcases List.mem_append.mp member with pre | member
  · simp only [List.mem_cons, List.not_mem_nil, or_false] at pre
    rcases pre with rfl | rfl | rfl <;> decide
  · exact none value member

/-- A line that is there up to its `\r` is passed on. -/
theorem parse_complete {alloc : Nat → Bool} {rounds : Nat} {lf after : List UInt8}
    {text : AtcmdText} {later : List AtcmdText} (memory : ∀ size, alloc size = true)
    (awaits : Awaits recv lf rest (text :: later))
    (parts : recv.contents = [65, 84, 43] ++ (text.chars ++ 13 :: after))
    (next : after ++ rest = 10 :: later.flatMap AtcmdText.line) :
    ∃ call, parseLoop alloc (rounds + 1) recv = some call ∧
      CallDone rest recv.count (text :: later) call := by
  have short := text.short
  have length := congrArg List.length parts
  simp only [Ring.contents_length, List.length_append, List.length_cons] at length
  change recv.count = 3 + (text.chars.length + (after.length + 1)) at length
  have left := recv.count_drop (by omega : 3 ≤ recv.count)
  have behind : (recv.drop 3).contents = text.chars ++ 13 :: after :=
    @contents_drop_eq recv [65, 84, 43] _ parts
  have eolHere : IsEol ((recv.drop 3).ahead text.chars.length) :=
    .inl (ahead_of_contents behind)
  have none {index : Nat} (inside : index < text.chars.length) :
      ¬IsEol ((recv.drop 3).ahead index) := by
    have entry := (recv.drop 3).getElem?_contents (by omega : index < (recv.drop 3).count)
    rw [behind, List.getElem?_append_left inside] at entry
    exact text.not_isEol _ (List.mem_of_getElem? entry)
  rcases lineEnd_or_none (recv.drop 3) with ⟨first, eol, line⟩ | missed
  · have firstEq : first = text.chars.length := by
      apply Nat.le_antisymm (line.first_le eolHere)
      apply Nat.le_of_not_lt
      intro early
      exact none early line.isEol
    subst firstEq
    have eolOr := line.eol_or
    rw [span_eq_count _ (by omega), left] at eolOr
    refine ⟨_, parseLoop_prefix_line (by omega) (atPrefix_of_contents parts) line, ?_⟩
    have cut : cutLine (recv.drop 3) eol = recv.drop (3 + (eol + 1)) := by
      rw [cutLine, if_neg (by omega), Ring.drop_drop]
    have bytes : Buffer.toList recv.ahead (3 + text.chars.length) = [65, 84, 43] ++ text.chars := by
      rw [← Buffer.take_toList recv.ahead (by omega : 3 + text.chars.length ≤ recv.count)]
      change recv.contents.take _ = _
      rw [parts, ← List.append_assoc]
      exact List.take_left' (by simp only [List.length_append]; rfl)
    rw [passLine, memory, if_pos rfl, cut, bytes]
    have fewer := recv.count_drop (by omega : 3 + (eol + 1) ≤ recv.count)
    rcases eolOr with lone | ⟨pair, further⟩
    · subst lone
      have cutAt : 3 + (text.chars.length + 1) = ([65, 84, 43] ++ text.chars ++ [13]).length := by
        simp only [List.length_append, List.length_cons, List.length_nil]
        omega
      refine .passes [10] text later (.inr rfl) rfl rfl rfl ?_ ?_
      · exact Nat.lt_of_le_of_lt (Nat.le_of_eq fewer) (by omega)
      rw [cutAt]
      refine awaits.drop (by simpa using parts) next ?_
      rintro rfl
      cases next
    · obtain ⟨after, rfl⟩ : ∃ after', after = 10 :: after' := by
        cases after with
        | nil =>
            rw [List.length_nil] at length
            omega
        | cons head after =>
            rw [(List.cons.inj next).1]
            exact ⟨after, rfl⟩
      have cutAt : 3 + (eol + 1) = ([65, 84, 43] ++ text.chars ++ [13, 10]).length := by
        simp only [List.length_append, List.length_cons, List.length_nil]
        omega
      refine .passes [] text later (.inl rfl) rfl rfl rfl ?_ ?_
      · exact Nat.lt_of_le_of_lt (Nat.le_of_eq fewer) (by omega)
      rw [cutAt]
      refine awaits.drop (by simpa using parts) (List.cons.inj next).2 ?_
      intro _
      exact ⟨[65, 84, 43] ++ text.chars ++ [13], by simp⟩
  · rw [span_eq_count _ (by omega)] at missed
    exact absurd eolHere (missed _ (by omega))

theorem idle_of_few {lf : List UInt8} (few : recv.count < 3) (lfOr : lf = [] ∨ lf = [10])
    (awaits : Awaits recv lf rest texts) :
    CallDone rest recv.count texts ⟨recv, [], none, false⟩ :=
  .waits lf lfOr rfl rfl (.inl few) awaits

/-- A command in front, as far as it has come. -/
theorem parse_command {alloc : Nat → Bool} (memory : ∀ size, alloc size = true) {rounds : Nat}
    (awaits : Awaits recv [] rest texts) :
    ∃ call, parseLoop alloc (rounds + 1) recv = some call ∧ CallDone rest recv.count texts call := by
  by_cases few : recv.count < 3
  · exact ⟨_, parseLoop_short few, idle_of_few few (.inl rfl) awaits⟩
  · have stream := awaits.stream
    rw [List.nil_append] at stream
    cases texts with
    | nil =>
        have empty := (List.append_eq_nil_iff.mp stream).1
        have length := recv.contents_length
        rw [empty, List.length_nil] at length
        omega
    | cons text later =>
        have length := recv.contents_length
        rw [List.flatMap_cons, AtcmdText.line, List.append_assoc, List.append_assoc] at stream
        obtain ⟨part, parts⟩ : ∃ part, recv.contents = [65, 84, 43] ++ part := by
          rcases List.append_eq_append_iff.mp stream with ⟨more, pre, _⟩ | ⟨part, parts, _⟩
          · have sizes := congrArg List.length pre
            rw [List.length_append, length] at sizes
            have none : more = [] := by
              apply List.eq_nil_of_length_eq_zero
              change 3 = _ at sizes
              omega
            rw [none, List.append_nil] at pre
            exact ⟨[], by rw [← pre]; rfl⟩
          · exact ⟨part, parts⟩
        rw [parts, List.append_assoc] at stream
        have behind := List.append_cancel_left stream
        rcases List.append_eq_append_iff.mp behind with ⟨more, cut, _⟩ | ⟨after, cut, next⟩
        · refine parse_incomplete (.inl rfl) awaits parts ?_ ?_
          · intro value member
            exact text.not_isEol value (cut ▸ List.mem_append_left _ member)
          · have short := text.short
            rw [cut, List.length_append] at short
            omega
        · cases after with
          | nil =>
              refine parse_incomplete (.inl rfl) awaits parts ?_ ?_
              · intro value member
                rw [cut, List.append_nil] at member
                exact text.not_isEol value member
              · rw [cut, List.append_nil]
                exact text.short
          | cons cr after =>
              have behindCr := (List.cons.inj next).2
              rw [cut, ← (List.cons.inj next).1] at parts
              exact parse_complete memory awaits parts behindCr.symm

/-- A second half of a line end in front is skipped in the same call. -/
theorem parseAtcmdLine_done {alloc : Nat → Bool} (memory : ∀ size, alloc size = true)
    {lf : List UInt8} (lfOr : lf = [] ∨ lf = [10]) (awaits : Awaits recv lf rest texts) :
    ∃ call, parseAtcmdLine alloc recv = some call ∧ CallDone rest recv.count texts call := by
  by_cases few : recv.count < 3
  · exact ⟨_, parseLoop_short few, idle_of_few few lfOr awaits⟩
  · rcases lfOr with rfl | rfl
    · exact parse_command memory awaits
    · have stream := awaits.stream
      have length := recv.contents_length
      obtain ⟨part, parts⟩ : ∃ part, recv.contents = [10] ++ part := by
        cases h : recv.contents with
        | nil =>
            rw [h, List.length_nil] at length
            omega
        | cons value part =>
            rw [h] at stream
            exact ⟨part, by rw [(List.cons.inj stream).1]; rfl⟩
      rw [parts] at length stream
      have next := (List.cons.inj stream).2
      obtain ⟨more, startsA⟩ : ∃ more, part = 65 :: more := by
        cases part with
        | nil =>
            rw [List.append_nil, List.length_singleton] at length
            omega
        | cons value more =>
            cases texts with
            | nil => cases next
            | cons text later => exact ⟨more, by rw [(List.cons.inj next).1]⟩
      have here : recv.ahead 0 = 10 := @ahead_of_contents recv [] _ _ parts
      have behind : recv.ahead 1 = 65 := @ahead_of_contents recv [10] _ _ (startsA ▸ parts)
      have junk : ¬AtPrefix recv := by
        rintro ⟨first | first, _⟩
        · exact absurd (here.symm.trans first) (by decide)
        · exact absurd (here.symm.trans first) (by decide)
      have line : LineEnd recv recv.count 0 0 := by
        refine ⟨by omega, .inr here, nofun, ?_⟩
        rw [if_neg]
        rintro ⟨_, _, ⟨first, _⟩ | ⟨_, second⟩⟩
        · rw [here] at first
          exact absurd first (by decide)
        · rw [behind] at second
          exact absurd second (by decide)
      have dropped : Awaits (recv.drop 1) [] rest texts :=
        awaits.drop parts next fun _ => ⟨[], rfl⟩
      have fewer := recv.count_drop (by omega : 1 ≤ recv.count)
      rw [parseAtcmdLine, parseLoop_junk (by omega) junk line, cutLine, if_neg (by decide)]
      obtain ⟨call, ran, done⟩ := @parse_command (recv.drop 1) rest texts alloc memory 4095 dropped
      refine ⟨call, ran, ?_⟩
      cases done with
      | waits lf lfOr command posted idle awaits => exact .waits lf lfOr command posted idle awaits
      | passes lf text later lfOr same command posted less awaits =>
          exact .passes lf text later lfOr same command posted (by omega) awaits

theorem Idle.no_texts {lf : List UInt8} (idle : Idle recv)
    (stream : recv.contents = lf ++ texts.flatMap AtcmdText.line) : texts = [] := by
  cases texts with
  | nil => rfl
  | cons text later =>
      rw [List.flatMap_cons, AtcmdText.line] at stream
      rcases idle with few | none
      · have length := congrArg List.length stream
        simp only [Ring.contents_length, List.length_append, List.length_cons] at length
        omega
      · exact absurd (.inl rfl) (none 13 (by rw [stream]; simp))

/-- The calls behind a chunk pass on every line that is complete by then. -/
theorem uartRx_done {alloc : Nat → Bool} (memory : ∀ size, alloc size = true) {calls : Nat}
    {lf : List UInt8} (lfOr : lf = [] ∨ lf = [10]) (enough : recv.count < calls)
    (awaits : Awaits recv lf rest texts) :
    ∃ after done later lf', texts = done ++ later ∧
      uartRx alloc calls recv = some (after, done.map AtcmdText.command) ∧ Idle after ∧
        (lf' = [] ∨ lf' = [10]) ∧ Awaits after lf' rest later := by
  induction calls generalizing recv texts lf with
  | zero => omega
  | succ calls ih =>
      obtain ⟨call, ran, done⟩ := parseAtcmdLine_done memory lfOr awaits
      cases done with
      | waits lf lfOr command posted idle awaits =>
          refine ⟨call.recv, [], texts, lf, rfl, ?_, idle, lfOr, awaits⟩
          simp [uartRx, ran, posted, command]
      | passes lf text later lfOr same command posted less awaits =>
          by_cases more : 0 < call.recv.count
          · obtain ⟨after, done, final, lf', rfl, ran', idle, lfOr', awaits'⟩ :=
              ih lfOr (by omega) awaits
            refine ⟨after, text :: done, final, lf', same, ?_, idle, lfOr', awaits'⟩
            simp [uartRx, ran, posted, more, ran', command]
          · refine ⟨call.recv, [text], later, lf, same, ?_, .inl (by omega), lfOr, awaits⟩
            simp [uartRx, ran, posted, more, command]

theorem receiveAll_commands {alloc : Nat → Bool} (memory : ∀ size, alloc size = true)
    {lf : List UInt8} (lfOr : lf = [] ∨ lf = [10]) (idle : Idle recv) {chunks : List (List UInt8)}
    (stream : recv.contents ++ chunks.flatten = lf ++ texts.flatMap AtcmdText.line)
    (fits : AllFit alloc recv chunks) :
    ∃ after, receiveAll alloc recv chunks = some (after, texts.map AtcmdText.command) := by
  induction chunks generalizing recv texts lf with
  | nil =>
      rw [List.flatten_nil, List.append_nil] at stream
      rw [idle.no_texts stream]
      exact ⟨recv, rfl⟩
  | cons chunk chunks ih =>
      obtain ⟨⟨room, behind, alone⟩, later⟩ := fits
      have contents := recv.contents_pushAll chunk room
      have count := (chunk.foldl Ring.push recv).count_lt
      have awaits : Awaits (chunk.foldl Ring.push recv) lf chunks.flatten texts := by
        refine ⟨?_, ?_, ?_⟩
        · rw [contents, List.append_assoc, ← List.flatten_cons, stream]
        · rw [contents]
          exact behind
        · rw [contents]
          exact alone
      obtain ⟨after, done, waiting, lf', rfl, ran, idle', lfOr', awaits'⟩ :=
        uartRx_done memory lfOr count awaits
      obtain ⟨final, received⟩ := ih lfOr' idle' awaits'.stream (later after _ ran)
      refine ⟨final, ?_⟩
      have first : receiveChunk alloc recv chunk = some (after, done.map AtcmdText.command) := ran
      simp [receiveAll, first, received]

/-- However the bytes of the lines are divided into chunks that fit, each line is passed on once
and in order. -/
theorem commands_independent_of_chunks {alloc : Nat → Bool} (memory : ∀ size, alloc size = true)
    {recv : TlsUartCircBuf} (empty : recv.head = recv.tail) {texts : List AtcmdText}
    {chunks : List (List UInt8)} (stream : chunks.flatten = texts.flatMap AtcmdText.line)
    (fits : AllFit alloc recv chunks) :
    ∃ after, receiveAll alloc recv chunks = some (after, texts.map AtcmdText.command) := by
  have nothing := Ring.contents_eq_nil empty
  have count : recv.count = 0 := by rw [← Ring.contents_length, nothing, List.length_nil]
  refine receiveAll_commands memory (.inl rfl) (.inl (by omega)) ?_ fits
  rw [nothing, List.nil_append, stream, List.nil_append]

def fresh : TlsUartCircBuf := ⟨fun _ => 0, 0, 0, tlsUartRxBufSize_pos, tlsUartRxBufSize_pos⟩

def zText : AtcmdText :=
  ⟨[90], by decide, fun char member => by rw [List.mem_singleton.mp member]; decide⟩

theorem commands_independent_of_chunks_in_prefix :
    ∃ after, receiveAll (fun _ => true) fresh [[65, 84], [43, 90, 13, 10]] =
      some (after, [zText].map AtcmdText.command) := by
  refine commands_independent_of_chunks (fun _ => rfl) rfl rfl ⟨⟨by decide, ?_, ?_⟩, ?_⟩
  · intro earlier same
    have lengths : 2 = (earlier ++ [10, 65, 84, 43]).length := congrArg List.length same
    simp only [List.length_append, List.length_cons, List.length_nil] at lengths
    omega
  · intro same
    exact absurd same (by decide)
  · intro after commands ran
    have first : receiveChunk (fun _ => true) fresh [65, 84] =
        some ([65, 84].foldl Ring.push fresh, []) := rfl
    rw [first] at ran
    cases ran
    refine ⟨⟨by decide, ?_, ?_⟩, fun _ _ _ => trivial⟩
    · intro earlier same
      have held : ([65, 84].foldl Ring.push fresh).contents = [65, 84] :=
        fresh.contents_pushAll [65, 84] (by decide)
      rw [held] at same
      have last : some 10 = some 43 := by
        simpa using congrArg List.getLast? same
      exact absurd last (by decide)
    · intro same
      exact absurd same (by decide)

def stale : TlsUartCircBuf :=
  ⟨fun cell => [0, 0, 0, 81, 13, 10].getD cell 0, 0, 0, tlsUartRxBufSize_pos, tlsUartRxBufSize_pos⟩

/-- The first chunk ends behind the `AT+`, and the call takes the old line for the rest. -/
theorem cut_behind_prefix :
    [[65, 84, 43], [90, 13, 10]].flatten = [zText].flatMap AtcmdText.line ∧
      (receiveAll (fun _ => true) stale [[65, 84, 43], [90, 13, 10]]).map Prod.snd ≠
        some ([zText].map AtcmdText.command) := by
  decide +kernel

end TlsUartCircBuf

end SmartMeter
