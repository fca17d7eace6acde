import Mathlib.Algebra.GroupWithZero.Nat
import Mathlib.Algebra.Order.Group.Nat
import Mathlib.Data.List.Induction

/-!
The transmit side of `wm_uart.c`: `tls_uart_fill_buf`, `tls_uart_tx_chars_start` and the
interrupt's `tls_uart_tx_chars`, over any readings of the FIFO level.
-/

namespace SmartMeter

def ufsTxFifoCntMask : UInt32 := 0x3F

structure TxMsg where
  buf : List UInt8
  offset : Nat
  offset_le : offset ≤ buf.length

/-- A port: `reads` numbers the readings of `UR_FIFOS`, `wire` is what was written to `UR_TXW`. -/
structure TxPort where
  pending : List TxMsg
  toBeFreed : List TxMsg
  txFifofull : UInt32
  reads : Nat
  wire : List UInt8
  icountTx : UInt32
  txCallbacks : Nat
  semReleases : Nat

namespace TxMsg

def fresh (buf : List UInt8) : TxMsg := ⟨buf, 0, Nat.zero_le _⟩

def unsent (msg : TxMsg) : List UInt8 := msg.buf.drop msg.offset

def advance (msg : TxMsg) (count : Nat) (inside : count ≤ msg.unsent.length) : TxMsg where
  buf := msg.buf
  offset := msg.offset + count
  offset_le := by
    have bound := msg.offset_le
    rw [unsent, List.length_drop] at inside
    omega

end TxMsg

structure CharRun where
  written : List UInt8
  txCount : Int
  reads : Nat
  fifofull : Bool

def sendChars (urFifos : Nat → UInt32) (txFifofull : UInt32) : List UInt8 → Int → Nat → CharRun
  | [], txCount, reads => ⟨[], txCount - 1, reads, false⟩
  | char :: rest, txCount, reads =>
      if txCount > 0 then
        if urFifos reads &&& ufsTxFifoCntMask = txFifofull then ⟨[], txCount - 1, reads + 1, true⟩
        else
          let run := sendChars urFifos txFifofull rest (txCount - 1) (reads + 1)
          { run with written := char :: run.written }
      else ⟨[], txCount - 1, reads, false⟩

theorem sendChars_front (urFifos : Nat → UInt32) (txFifofull : UInt32) (chars : List UInt8)
    (txCount : Int) (reads : Nat) :
    (sendChars urFifos txFifofull chars txCount reads).written <+: chars := by
  induction chars generalizing txCount reads with
  | nil => exact List.prefix_refl _
  | cons char rest ih =>
      unfold sendChars
      split
      · split
        · exact List.nil_prefix
        · exact (List.prefix_append_right_inj [char]).mpr (ih _ _)
      · exact List.nil_prefix

theorem sendChars_txCount (urFifos : Nat → UInt32) (txFifofull : UInt32) (chars : List UInt8)
    (txCount : Int) (reads : Nat) :
    (sendChars urFifos txFifofull chars txCount reads).txCount =
      txCount - (sendChars urFifos txFifofull chars txCount reads).written.length - 1 := by
  induction chars generalizing txCount reads with
  | nil => simp [sendChars]
  | cons char rest ih =>
      unfold sendChars
      split
      · split
        · simp
        · have behind := ih (txCount - 1) (reads + 1)
          simp only [List.length_cons]
          omega
      · simp

structure TxRound where
  port : TxPort
  txCount : Int
  fifofull : Bool

def sendMessage (urFifos : Nat → UInt32) (port : TxPort) (msg : TxMsg) (rest : List TxMsg)
    (txCount : Int) : TxRound :=
  let run := sendChars urFifos port.txFifofull msg.unsent txCount port.reads
  let msg := msg.advance run.written.length (sendChars_front _ _ _ _ _).length_le
  let port := { port with
    reads := run.reads
    wire := port.wire ++ run.written
    icountTx := port.icountTx + UInt32.ofNat run.written.length }
  if msg.offset ≥ msg.buf.length then
    ⟨{ port with
      pending := rest
      toBeFreed := port.toBeFreed ++ [msg]
      txCallbacks := port.txCallbacks + 1 }, run.txCount, run.fifofull⟩
  else ⟨{ port with pending := msg :: rest }, run.txCount, run.fifofull⟩

def tlsUartFillBuf (port : TxPort) (buf : List UInt8) (memory : Bool) : Int × TxPort :=
  if memory then (0, { port with pending := port.pending ++ [.fresh buf] }) else (-1, port)

def releaseWhenEmpty (port : TxPort) : TxPort :=
  match port.pending with
  | [] => { port with semReleases := port.semReleases + 1 }
  | _ :: _ => port

def tlsUartTxCharsStart (urFifos : Nat → UInt32) (port : TxPort) : TxPort :=
  match port.pending with
  | [] => releaseWhenEmpty port
  | msg :: rest => releaseWhenEmpty (sendMessage urFifos port msg rest 32).port

def intMin : Int := -2147483648

theorem sendMessage_txCount (urFifos : Nat → UInt32) (port : TxPort) (msg : TxMsg)
    (rest : List TxMsg) (txCount : Int) :
    (sendMessage urFifos port msg rest txCount).txCount < txCount := by
  have count := sendChars_txCount urFifos port.txFifofull msg.unsent txCount port.reads
  have same : (sendMessage urFifos port msg rest txCount).txCount =
      (sendChars urFifos port.txFifofull msg.unsent txCount port.reads).txCount := by
    simp only [sendMessage]
    split <;> rfl
  omega

/-- The outer loop, `none` when it takes one from the least `int` there is. -/
def txLoop (urFifos : Nat → UInt32) (port : TxPort) (txCount : Int) : Option TxPort :=
  match port.pending with
  | [] => some port
  | msg :: rest =>
      if txCount ≤ intMin then none
      else
        let round := sendMessage urFifos port msg rest txCount
        if round.fifofull then some round.port else txLoop urFifos round.port round.txCount
termination_by (txCount - intMin).toNat
decreasing_by
  have less := sendMessage_txCount urFifos port msg rest txCount
  omega

def tlsUartTxChars (urFifos : Nat → UInt32) (port : TxPort) : Option TxPort :=
  match port.pending with
  | [] => some (releaseWhenEmpty port)
  | _ :: _ => txLoop urFifos port 64

/-- The FIFO is found full by that reading. -/
def TxPort.FullAt (urFifos : Nat → UInt32) (port : TxPort) (reading : Nat) : Prop :=
  urFifos reading &&& ufsTxFifoCntMask = port.txFifofull

theorem sendChars_spec (urFifos : Nat → UInt32) (txFifofull : UInt32) (chars : List UInt8)
    (txCount : Int) (reads : Nat) :
    ((sendChars urFifos txFifofull chars txCount reads).fifofull = true ∧
      (sendChars urFifos txFifofull chars txCount reads).written.length <
        min chars.length txCount.toNat ∧
      urFifos (reads + (sendChars urFifos txFifofull chars txCount reads).written.length) &&&
        ufsTxFifoCntMask = txFifofull) ∨
    ((sendChars urFifos txFifofull chars txCount reads).fifofull = false ∧
      (sendChars urFifos txFifofull chars txCount reads).written.length =
        min chars.length txCount.toNat ∧
      (sendChars urFifos txFifofull chars txCount reads).reads =
        reads + min chars.length txCount.toNat ∧
      ∀ reading < min chars.length txCount.toNat,
        ¬urFifos (reads + reading) &&& ufsTxFifoCntMask = txFifofull) := by
  induction chars generalizing txCount reads with
  | nil =>
      right
      simp [sendChars]
  | cons char rest ih =>
      unfold sendChars
      by_cases positive : txCount > 0
      · rw [if_pos positive]
        by_cases full : urFifos reads &&& ufsTxFifoCntMask = txFifofull
        · rw [if_pos full]
          left
          refine ⟨rfl, ?_, full⟩
          simp only [List.length_nil, List.length_cons]
          omega
        · rw [if_neg full]
          have shift : min (char :: rest).length txCount.toNat =
              min rest.length (txCount - 1).toNat + 1 := by
            rw [List.length_cons]
            omega
          rcases ih (txCount - 1) (reads + 1) with ⟨found, few, filled⟩ | ⟨room, all, next, none⟩
          · left
            refine ⟨found, ?_, ?_⟩
            · rw [shift]
              exact Nat.succ_lt_succ few
            · rwa [Nat.add_right_comm, Nat.add_assoc] at filled
          · right
            refine ⟨room, ?_, ?_, ?_⟩
            · rw [shift, List.length_cons, all]
            · rw [shift, next]
              omega
            · rw [shift]
              intro reading inside
              cases reading with
              | zero => exact full
              | succ reading =>
                  have later := none reading (by omega)
                  rwa [Nat.add_right_comm, Nat.add_assoc] at later
      · rw [if_neg positive]
        right
        have spent : txCount.toNat = 0 := by omega
        simp [spent]

/-- What a round does to the first message: it is freed with its last byte. -/
theorem sendMessage_spec (urFifos : Nat → UInt32) (port : TxPort) (msg : TxMsg)
    (rest : List TxMsg) (txCount : Int) {run : CharRun}
    (runs : sendChars urFifos port.txFifofull msg.unsent txCount port.reads = run)
    {round : TxRound} (rounds : sendMessage urFifos port msg rest txCount = round) :
    round.port.wire = port.wire ++ run.written ∧ round.port.reads = run.reads ∧
      round.port.txFifofull = port.txFifofull ∧ round.txCount = run.txCount ∧
      round.fifofull = run.fifofull ∧
      ∃ after : TxMsg, after.buf = msg.buf ∧ after.offset = msg.offset + run.written.length ∧
        ((run.written.length = msg.unsent.length ∧ round.port.pending = rest ∧
          round.port.toBeFreed = port.toBeFreed ++ [after]) ∨
        (run.written.length < msg.unsent.length ∧ round.port.pending = after :: rest ∧
          round.port.toBeFreed = port.toBeFreed)) := by
  subst runs rounds
  have inside := (sendChars_front urFifos port.txFifofull msg.unsent txCount port.reads).length_le
  have left : msg.unsent.length = msg.buf.length - msg.offset := List.length_drop ..
  have bound := msg.offset_le
  rw [sendMessage]
  by_cases finished : (msg.advance _ inside).offset ≥ (msg.advance _ inside).buf.length
  · have all : msg.offset + (sendChars urFifos port.txFifofull msg.unsent txCount
        port.reads).written.length ≥ msg.buf.length := finished
    rw [if_pos finished]
    exact ⟨rfl, rfl, rfl, rfl, rfl, msg.advance _ inside, rfl, rfl,
      Or.inl ⟨by omega, rfl, rfl⟩⟩
  · have some : ¬msg.offset + (sendChars urFifos port.txFifofull msg.unsent txCount
        port.reads).written.length ≥ msg.buf.length := finished
    rw [if_neg finished]
    exact ⟨rfl, rfl, rfl, rfl, rfl, msg.advance _ inside, rfl, rfl,
      Or.inr ⟨by omega, rfl, rfl⟩⟩

/-- How many of the bytes of messages a budget covers that the end of each message takes one
from. -/
def affordable : Nat → List Nat → Nat
  | _, [] => 0
  | budget, left :: rest =>
      if left < budget then left + affordable (budget - left - 1) rest else budget

@[simp] theorem affordable_zero (lefts : List Nat) : affordable 0 lefts = 0 := by
  cases lefts with
  | nil => rfl
  | cons left rest => rfl

theorem affordable_finished {budget left : Nat} (rest : List Nat) (enough : left ≤ budget) :
    affordable budget (left :: rest) = left + affordable (budget - left - 1) rest := by
  rw [affordable]
  split
  · rfl
  · have spent : budget - left - 1 = 0 := by omega
    rw [spent, affordable_zero]
    omega

theorem affordable_cut {budget left : Nat} (rest : List Nat) (cut : budget ≤ left) :
    affordable budget (left :: rest) = budget := by
  rw [affordable, if_neg (by omega)]

def TxPort.lefts (port : TxPort) : List Nat := port.pending.map fun msg => msg.unsent.length

/-- The budget covers the pending bytes, or one of the readings that it covers finds the FIFO
full. -/
def TxPort.Served (urFifos : Nat → UInt32) (port : TxPort) (txCount : Int) : Prop :=
  (∃ reading < affordable txCount.toNat port.lefts,
    port.FullAt urFifos (port.reads + reading)) ∨
  (affordable txCount.toNat port.lefts = port.lefts.sum ∧
    (port.lefts.sum : Int) + port.pending.length ≤ txCount - intMin)

/-- With the budget used up and a byte left no round does anything. -/
theorem txLoop_stuck (urFifos : Nat → UInt32) {port : TxPort} {msg : TxMsg} {rest : List TxMsg}
    (first : port.pending = msg :: rest) (left : 0 < msg.unsent.length) {txCount : Int}
    (spent : txCount ≤ 0) : txLoop urFifos port txCount = none := by
  generalize rounds : (txCount - intMin).toNat = count
  induction count using Nat.strongRecOn generalizing port msg txCount with
  | ind count ih =>
      rw [txLoop, first]
      by_cases least : txCount ≤ intMin
      · exact if_pos least
      · have nothing : sendChars urFifos port.txFifofull msg.unsent txCount port.reads =
            ⟨[], txCount - 1, port.reads, false⟩ := by
          cases unsent : msg.unsent with
          | nil => rfl
          | cons char chars => exact if_neg (by omega)
        obtain ⟨-, -, -, counted, open', after, buf, offset, finished | unfinished⟩ :=
          sendMessage_spec urFifos port msg rest txCount nothing rfl
        · exact absurd finished.1.symm (by simpa using Nat.pos_iff_ne_zero.mp left)
        · have still : 0 < after.unsent.length := by
            rw [TxMsg.unsent, buf, offset]
            exact left
          have fewer : (sendMessage urFifos port msg rest txCount).txCount = txCount - 1 := counted
          simp only [if_neg least, open', Bool.false_eq_true, if_false]
          rw [fewer]
          exact ih ((txCount - 1) - intMin).toNat (by omega) unfinished.2.1 still (by omega) rfl

theorem TxPort.lefts_cons {port : TxPort} {msg : TxMsg} {rest : List TxMsg}
    (queue : port.pending = msg :: rest) :
    port.lefts = msg.unsent.length :: rest.map fun msg => msg.unsent.length := by
  rw [TxPort.lefts, queue, List.map_cons]

theorem TxPort.not_served_spent {urFifos : Nat → UInt32} {port : TxPort}
    (waits : port.pending ≠ []) {txCount : Int} (least : txCount ≤ intMin) :
    ¬port.Served urFifos txCount := by
  have negative : intMin < 0 := by decide
  have spent : txCount.toNat = 0 := by omega
  have some_pending := List.length_pos_iff.mpr waits
  rw [TxPort.Served, spent, affordable_zero]
  rintro (⟨reading, few, -⟩ | ⟨-, room⟩)
  · exact absurd few (Nat.not_lt_zero reading)
  · omega

/-- With the first message finished within the budget the rest of the queue decides. -/
theorem TxPort.served_finished {urFifos : Nat → UInt32} {port after : TxPort} {msg : TxMsg}
    (queue : port.pending = msg :: after.pending) {txCount : Int}
    (enough : msg.unsent.length ≤ txCount.toNat)
    (reads : after.reads = port.reads + msg.unsent.length)
    (filled : after.txFifofull = port.txFifofull)
    (noneFull : ∀ reading < msg.unsent.length, ¬port.FullAt urFifos (port.reads + reading)) :
    after.Served urFifos (txCount - msg.unsent.length - 1) ↔ port.Served urFifos txCount := by
  have budget : (txCount - msg.unsent.length - 1).toNat =
      txCount.toNat - msg.unsent.length - 1 := by omega
  have lefts' : (after.pending.map fun msg => msg.unsent.length) = after.lefts := rfl
  rw [TxPort.Served, TxPort.Served, TxPort.lefts_cons queue, lefts', budget,
    affordable_finished _ enough, queue, List.sum_cons, List.length_cons]
  generalize affordable (txCount.toNat - msg.unsent.length - 1) after.lefts = further
  generalize after.lefts.sum = total
  apply or_congr _ (by omega)
  constructor
  · rintro ⟨reading, inside, full⟩
    refine ⟨msg.unsent.length + reading, by omega, ?_⟩
    rwa [TxPort.FullAt, filled, reads, Nat.add_assoc] at full
  · rintro ⟨reading, inside, full⟩
    have later : msg.unsent.length ≤ reading := by
      by_contra early
      exact noneFull reading (by omega) full
    refine ⟨reading - msg.unsent.length, by omega, ?_⟩
    rw [TxPort.FullAt, filled, reads, Nat.add_assoc, Nat.add_sub_cancel' later]
    exact full

theorem TxPort.not_served_cut {urFifos : Nat → UInt32} {port : TxPort} {msg : TxMsg}
    {rest : List TxMsg} (queue : port.pending = msg :: rest) {txCount : Int}
    (cut : txCount.toNat < msg.unsent.length)
    (noneFull : ∀ reading < txCount.toNat, ¬port.FullAt urFifos (port.reads + reading)) :
    ¬port.Served urFifos txCount := by
  rw [TxPort.Served, TxPort.lefts_cons queue, affordable_cut _ (by omega), List.sum_cons]
  rintro (⟨reading, inside, full⟩ | ⟨whole, -⟩)
  · exact noneFull reading inside full
  · omega

theorem TxPort.covered {port : TxPort} {msg : TxMsg} {rest : List TxMsg}
    (queue : port.pending = msg :: rest) (txCount : Int) :
    min msg.unsent.length txCount.toNat ≤ affordable txCount.toNat port.lefts := by
  rw [TxPort.lefts_cons queue]
  by_cases enough : msg.unsent.length ≤ txCount.toNat
  · rw [affordable_finished _ enough]
    omega
  · rw [affordable_cut _ (by omega)]
    omega

theorem TxPort.txLoop_isSome_iff (urFifos : Nat → UInt32) (port : TxPort) (txCount : Int)
    (countable : intMin ≤ txCount) :
    (txLoop urFifos port txCount).isSome ↔ port.Served urFifos txCount := by
  have negative : intMin < 0 := by decide
  generalize queue : port.pending = pending
  induction pending generalizing port txCount with
  | nil =>
      have idle : txLoop urFifos port txCount = some port := by rw [txLoop, queue]
      have none : port.lefts = [] := by rw [TxPort.lefts, queue, List.map_nil]
      rw [idle, TxPort.Served, none, queue]
      simp only [Option.isSome_some, true_iff]
      exact Or.inr ⟨rfl, by simpa using countable⟩
  | cons msg rest ih =>
      by_cases least : txCount ≤ intMin
      · have stops : txLoop urFifos port txCount = none := by
          rw [txLoop, queue]
          exact if_pos least
        have waits : port.pending ≠ [] := by
          rw [queue]
          exact List.cons_ne_nil _ _
        rw [stops]
        exact iff_of_false Bool.false_ne_true (TxPort.not_served_spent waits least)
      · obtain ⟨-, reads, filled, counted, open', after, buf, offset, moved⟩ :=
          sendMessage_spec urFifos port msg rest txCount rfl rfl
        have spent := sendChars_txCount urFifos port.txFifofull msg.unsent txCount port.reads
        have goes : txLoop urFifos port txCount =
            if (sendMessage urFifos port msg rest txCount).fifofull then
              some (sendMessage urFifos port msg rest txCount).port
            else txLoop urFifos (sendMessage urFifos port msg rest txCount).port
              (sendMessage urFifos port msg rest txCount).txCount := by
          rw [txLoop, queue]
          exact if_neg least
        have covered := TxPort.covered queue txCount
        generalize sendMessage urFifos port msg rest txCount = round at *
        rcases sendChars_spec urFifos port.txFifofull msg.unsent txCount port.reads with
          ⟨found, few, full⟩ | ⟨room, all, next, none⟩
        · rw [goes, open', found]
          exact iff_of_true rfl (Or.inl ⟨_, by omega, full⟩)
        · rw [goes, open', room, if_neg Bool.false_ne_true]
          rcases moved with ⟨whole, queued, -⟩ | ⟨part, queued, -⟩
          · have enough : msg.unsent.length ≤ txCount.toNat := by omega
            have fewer : round.txCount = txCount - msg.unsent.length - 1 := by omega
            refine (ih round.port round.txCount (by omega) queued).trans ?_
            rw [fewer]
            exact TxPort.served_finished (queue.trans (by rw [queued])) enough (by omega) filled
              fun reading inside => none reading (by omega)
          · have cut : txCount.toNat < msg.unsent.length := by omega
            have left : 0 < after.unsent.length := by
              rw [TxMsg.unsent, List.length_drop, buf, offset]
              rw [TxMsg.unsent, List.length_drop] at part cut
              omega
            rw [txLoop_stuck urFifos queued left (by omega)]
            exact iff_of_false Bool.false_ne_true
              (TxPort.not_served_cut queue cut fun reading inside => none reading (by omega))

theorem TxPort.tlsUartTxChars_isSome_iff (urFifos : Nat → UInt32) (port : TxPort) :
    (tlsUartTxChars urFifos port).isSome ↔ port.Served urFifos 64 := by
  rw [← port.txLoop_isSome_iff urFifos 64 (by decide), tlsUartTxChars]
  cases queue : port.pending with
  | nil => simp [txLoop, queue]
  | cons msg rest => rfl

def TxMsg.sent (msg : TxMsg) : List UInt8 := msg.buf.take msg.offset

/-- Every message queued is in one of the lists, in order, on the free list when its bytes are on
the wire; only the first of the others may have been begun. -/
structure TxLaw (queued : List (List UInt8)) (port : TxPort) : Prop where
  once : (port.toBeFreed ++ port.pending).map TxMsg.buf = queued
  wire : port.wire = (port.toBeFreed ++ port.pending).flatMap TxMsg.sent
  freed : ∀ msg ∈ port.toBeFreed, msg.offset = msg.buf.length
  pending : ∀ msg ∈ port.pending, msg.buf = [] ∨ msg.offset < msg.buf.length
  waiting : ∀ msg ∈ port.pending.tail, msg.offset = 0

theorem flatMap_sent_waiting {msgs : List TxMsg} (waiting : ∀ msg ∈ msgs, msg.offset = 0) :
    msgs.flatMap TxMsg.sent = [] := by
  apply List.flatMap_eq_nil_iff.mpr
  intro msg member
  rw [TxMsg.sent, waiting msg member, List.take_zero]

theorem flatMap_sent_freed {msgs : List TxMsg}
    (freed : ∀ msg ∈ msgs, msg.offset = msg.buf.length) :
    msgs.flatMap TxMsg.sent = (msgs.map TxMsg.buf).flatten := by
  rw [List.flatMap]
  congr 1
  apply List.map_congr_left
  intro msg member
  rw [TxMsg.sent, freed msg member, List.take_length]

/-- What is on the wire is the beginning of everything queued. -/
theorem TxLaw.written {queued : List (List UInt8)} {port : TxPort} (law : TxLaw queued port) :
    port.wire <+: queued.flatten := by
  rw [law.wire, ← law.once, List.flatMap_append, List.map_append, List.flatten_append,
    flatMap_sent_freed law.freed]
  apply (List.prefix_append_right_inj _).mpr
  have waiting := law.waiting
  cases queue : port.pending with
  | nil => exact List.prefix_refl _
  | cons msg rest =>
      rw [queue, List.tail_cons] at waiting
      rw [List.flatMap_cons, flatMap_sent_waiting waiting, List.append_nil, List.map_cons,
        List.flatten_cons]
      exact (List.take_prefix _ _).trans (List.prefix_append _ _)

theorem TxLaw.sendMessage {queued : List (List UInt8)} {port : TxPort} (law : TxLaw queued port)
    (urFifos : Nat → UInt32) {msg : TxMsg} {rest : List TxMsg} (queue : port.pending = msg :: rest)
    (txCount : Int) : TxLaw queued (sendMessage urFifos port msg rest txCount).port := by
  obtain ⟨wire, -, -, -, -, after, buf, offset, moved⟩ :=
    sendMessage_spec urFifos port msg rest txCount rfl rfl
  have written := sendChars_front urFifos port.txFifofull msg.unsent txCount port.reads
  generalize (sendChars urFifos port.txFifofull msg.unsent txCount port.reads).written = bytes at *
  generalize SmartMeter.sendMessage urFifos port msg rest txCount = round at *
  have waiting : ∀ other ∈ rest, other.offset = 0 := by
    have later := law.waiting
    rwa [queue] at later
  have sent : after.sent = msg.sent ++ bytes := by
    rw [TxMsg.sent, TxMsg.sent, buf, offset, List.take_add, ← TxMsg.unsent,
      ← List.prefix_iff_eq_take.mp written]
  have unsent : msg.unsent.length = msg.buf.length - msg.offset := List.length_drop ..
  have bound := msg.offset_le
  have before := law.wire
  rw [queue, List.flatMap_append, List.flatMap_cons, flatMap_sent_waiting waiting,
    List.append_nil] at before
  have total : round.port.wire = port.toBeFreed.flatMap TxMsg.sent ++ after.sent := by
    rw [wire, before, sent, List.append_assoc]
  have names := law.once
  rw [queue, List.map_append, List.map_cons] at names
  have others : ∀ other ∈ rest, other.buf = [] ∨ other.offset < other.buf.length :=
    fun other member => law.pending other (queue ▸ List.mem_cons_of_mem _ member)
  rcases moved with ⟨whole, pending, toBeFreed⟩ | ⟨part, pending, toBeFreed⟩
  · refine ⟨?_, ?_, ?_, ?_, ?_⟩
    · rw [pending, toBeFreed, ← names]
      simp [buf]
    · rw [total, pending, toBeFreed, List.flatMap_append, flatMap_sent_waiting waiting]
      simp
    · rw [toBeFreed]
      intro other member
      rcases List.mem_append.mp member with early | last
      · exact law.freed other early
      · rw [List.mem_singleton.mp last, offset, buf]
        omega
    · rwa [pending]
    · rw [pending]
      exact fun other member => waiting other (List.mem_of_mem_tail member)
  · refine ⟨?_, ?_, ?_, ?_, ?_⟩
    · rw [pending, toBeFreed, ← names]
      simp [buf]
    · rw [total, pending, toBeFreed, List.flatMap_append, List.flatMap_cons,
        flatMap_sent_waiting waiting, List.append_nil]
    · rw [toBeFreed]
      exact law.freed
    · rw [pending]
      intro other member
      rcases List.mem_cons.mp member with rfl | later
      · right
        rw [offset, buf]
        omega
      · exact others other later
    · rwa [pending]

theorem TxLaw.releaseWhenEmpty {queued : List (List UInt8)} {port : TxPort}
    (law : TxLaw queued port) : TxLaw queued (releaseWhenEmpty port) := by
  unfold SmartMeter.releaseWhenEmpty
  split
  · exact ⟨law.once, law.wire, law.freed, law.pending, law.waiting⟩
  · exact law

theorem TxLaw.txLoop {queued : List (List UInt8)} {port after : TxPort} (law : TxLaw queued port)
    (urFifos : Nat → UInt32) {txCount : Int} (returned : txLoop urFifos port txCount = some after) :
    TxLaw queued after := by
  fun_induction SmartMeter.txLoop urFifos port txCount with
  | case1 port txCount queue =>
      cases returned
      exact law
  | case2 port txCount msg rest queue least => cases returned
  | case3 port txCount msg rest queue least round full =>
      cases returned
      exact law.sendMessage urFifos queue txCount
  | case4 port txCount msg rest queue least round room ih =>
      exact ih (law.sendMessage urFifos queue txCount) returned

inductive TxCall
  | start
  | chars
  | fill (buf : List UInt8) (memory : Bool)

namespace TxCall

def apply (urFifos : Nat → UInt32) (port : TxPort) : TxCall → Option TxPort
  | start => some (tlsUartTxCharsStart urFifos port)
  | chars => tlsUartTxChars urFifos port
  | fill buf memory => some (tlsUartFillBuf port buf memory).2

def queues : TxCall → List (List UInt8)
  | start => []
  | chars => []
  | fill buf memory => if memory then [buf] else []

end TxCall

def txRun (urFifos : Nat → UInt32) (port : TxPort) : List TxCall → Option TxPort
  | [] => some port
  | call :: rest => (call.apply urFifos port).bind fun port => txRun urFifos port rest

theorem txRun_append (urFifos : Nat → UInt32) (port : TxPort) (first second : List TxCall) :
    txRun urFifos port (first ++ second) =
      (txRun urFifos port first).bind fun port => txRun urFifos port second := by
  induction first generalizing port with
  | nil => rfl
  | cons call rest ih =>
      rw [List.cons_append, txRun, txRun, Option.bind_assoc]
      exact congrArg _ (funext fun port => ih port)

theorem TxLaw.apply {queued : List (List UInt8)} {port after : TxPort} (law : TxLaw queued port)
    (urFifos : Nat → UInt32) {call : TxCall} (returned : call.apply urFifos port = some after) :
    TxLaw (queued ++ call.queues) after := by
  cases call with
  | start =>
      cases returned
      rw [TxCall.queues, List.append_nil, tlsUartTxCharsStart]
      cases queue : port.pending with
      | nil => exact law.releaseWhenEmpty
      | cons msg rest => exact (law.sendMessage urFifos queue 32).releaseWhenEmpty
  | chars =>
      rw [TxCall.queues, List.append_nil]
      rw [TxCall.apply, tlsUartTxChars] at returned
      split at returned
      · cases returned
        exact law.releaseWhenEmpty
      · exact law.txLoop urFifos returned
  | fill buf memory =>
      cases returned
      cases memory with
      | false => exact (List.append_nil queued).symm ▸ law
      | true =>
          have fresh : (TxMsg.fresh buf).sent = [] := List.take_zero
          refine ⟨?_, ?_, law.freed, ?_, ?_⟩
          · rw [← law.once, TxCall.queues]
            simp [tlsUartFillBuf, TxMsg.fresh]
          · have wire := law.wire
            simpa [tlsUartFillBuf, fresh] using wire
          · intro msg member
            rcases List.mem_append.mp member with early | last
            · exact law.pending msg early
            · rw [List.mem_singleton.mp last]
              cases buf with
              | nil => exact Or.inl rfl
              | cons char chars => exact Or.inr (Nat.succ_pos _)
          · intro msg member
            have waiting := law.waiting
            cases queue : port.pending with
            | nil => simp [tlsUartFillBuf, queue] at member
            | cons first rest =>
                rw [queue] at waiting
                simp only [tlsUartFillBuf, queue, if_true, List.cons_append, List.tail_cons,
                  List.mem_append, List.mem_singleton] at member
                rcases member with early | rfl
                · exact waiting msg early
                · rfl

def queuedPort (txFifofull : UInt32) (msgs : List (List UInt8)) : TxPort :=
  ⟨msgs.map .fresh, [], txFifofull, 0, [], 0, 0, 0⟩

theorem TxLaw.queuedPort (txFifofull : UInt32) (msgs : List (List UInt8)) :
    TxLaw msgs (queuedPort txFifofull msgs) := by
  have fresh : ∀ msg ∈ msgs.map TxMsg.fresh, msg.offset = 0 := by
    intro msg member
    obtain ⟨buf, -, rfl⟩ := List.mem_map.mp member
    rfl
  refine ⟨?_, (flatMap_sent_waiting fresh).symm, ?_, ?_, ?_⟩
  · exact (List.map_map ..).trans (List.map_id' msgs)
  · exact fun msg member => absurd member List.not_mem_nil
  · intro msg member
    rw [fresh msg member]
    exact (Decidable.em (msg.buf = [])).imp_right List.length_pos_iff.mpr
  · exact fun msg member => fresh msg (List.mem_of_mem_tail member)

/-- Every call returns, and the law holds after each of them. -/
def Transmits (urFifos : Nat → UInt32) (txFifofull : UInt32) (msgs : List (List UInt8))
    (calls : List TxCall) : Prop :=
  ∀ done, done <+: calls → ∃ port, txRun urFifos (queuedPort txFifofull msgs) done = some port ∧
    TxLaw (msgs ++ done.flatMap TxCall.queues) port ∧
    port.wire <+: (msgs ++ done.flatMap TxCall.queues).flatten

/-- In every run: the interrupt always finds its budget or the FIFO at their end in time, or else
there is a call that does not return. -/
theorem transmits_iff (urFifos : Nat → UInt32) (txFifofull : UInt32) (msgs : List (List UInt8))
    (calls : List TxCall) :
    Transmits urFifos txFifofull msgs calls ↔
      ∀ done port, done ++ [.chars] <+: calls →
        txRun urFifos (queuedPort txFifofull msgs) done = some port → port.Served urFifos 64 := by
  constructor
  · intro transmits done port called reached
    obtain ⟨after, returned, -⟩ := transmits _ called
    rw [txRun_append, reached, Option.bind_some, txRun] at returned
    apply (port.tlsUartTxChars_isSome_iff urFifos).mp
    cases sent : tlsUartTxChars urFifos port with
    | none => rw [TxCall.apply, sent] at returned; cases returned
    | some _ => rfl
  · intro served done
    induction done using List.reverseRecOn with
    | nil =>
        intro _
        have law := TxLaw.queuedPort txFifofull msgs
        have same : msgs ++ ([] : List TxCall).flatMap TxCall.queues = msgs := List.append_nil _
        rw [same]
        exact ⟨_, rfl, law, law.written⟩
    | append_singleton done call ih =>
        intro called
        obtain ⟨port, reached, law, -⟩ := ih ((List.prefix_append _ _).trans called)
        have returns : ∃ after, call.apply urFifos port = some after := by
          cases call with
          | start => exact ⟨_, rfl⟩
          | fill buf memory => exact ⟨_, rfl⟩
          | chars =>
              exact Option.isSome_iff_exists.mp
                ((port.tlsUartTxChars_isSome_iff urFifos).mpr (served done port called reached))
        obtain ⟨after, returned⟩ := returns
        have kept := law.apply urFifos returned
        have queued : msgs ++ (done ++ [call]).flatMap TxCall.queues =
            msgs ++ done.flatMap TxCall.queues ++ call.queues := by simp
        refine ⟨after, ?_, queued ▸ kept, queued ▸ kept.written⟩
        rw [txRun_append, reached, Option.bind_some, txRun, returned]
        rfl

/-- One message of 65 bytes and a FIFO that always has room. -/
theorem long_message_not_transmits :
    ¬Transmits (fun _ => 0) 16 [List.replicate 65 0] [.chars] := by
  intro transmits
  obtain ⟨after, returned, -⟩ := transmits [.chars] (List.prefix_refl _)
  have sent : (tlsUartTxChars (fun _ => 0) (queuedPort 16 [List.replicate 65 0])).isSome := by
    cases call : tlsUartTxChars (fun _ => 0) (queuedPort 16 [List.replicate 65 0]) with
    | none => rw [txRun, TxCall.apply, call] at returned; cases returned
    | some _ => rfl
  have lefts : (queuedPort 16 [List.replicate 65 0]).lefts = [65] := rfl
  rcases (TxPort.tlsUartTxChars_isSome_iff _ _).mp sent with ⟨reading, -, full⟩ | ⟨all, -⟩
  · exact absurd (show (0 : UInt32) &&& ufsTxFifoCntMask = 16 from full) (by decide)
  · rw [lefts] at all
    exact absurd all (by decide)

end SmartMeter
