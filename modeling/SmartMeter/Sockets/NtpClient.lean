import SmartMeter.Library.Buffer
import SmartMeter.Library.Handles

/-!
`open_connect` of `ntp_client.c`: up to four rounds in which four servers are asked for the time.
The sockets of a round are closed at the start of the next one.
-/

namespace SmartMeter

open Handles

/-- What the stack answers in one round. `recvfrom` comes with the bytes of the datagram. -/
structure NtpRound where
  socket : Nat → Int
  sendto : Nat → Int
  select : Int
  ready : Nat → Bool
  recvfrom : Nat → Int × (Nat → UInt8)

inductive NtpCall where
  | socket (fd : Int)
  | sendto (fd : Int) (ipNum : Nat)
  | select (nfds : Int)
  | recvfrom (fd : Int)
  | closesocket (fd : Int)
deriving DecidableEq

structure NtpState where
  s : Nat → Int
  maxSocketnum : Int
  totalSocketnum : Nat
  lastTotalSocketnum : Nat
  retval : Bool
  buf : Nat → UInt8
  calls : List NtpCall

/-- The time that is sent is always 2208988800. -/
def ntpRequest (buf : Nat → UInt8) : Nat → UInt8 :=
  Buffer.copy (Function.update buf 0 0x23) 40
    (fun index => [0x83, 0xAA, 0x7E, 0x80, 0, 0, 0, 0].getD index 0) 8

namespace NtpState

def closeSlot (state : NtpState) (servernum : Nat) : NtpState :=
  { state with
    s := Function.update state.s servernum (-1)
    calls :=
      if state.s servernum ≥ 0 then state.calls ++ [NtpCall.closesocket (state.s servernum)]
      else state.calls }

def reset (state : NtpState) : NtpState :=
  (List.range 4).foldl closeSlot { state with maxSocketnum := 0 }

def sendRequest (round : NtpRound) (state : NtpState) (servernum : Nat) : NtpState :=
  let fd := round.socket servernum
  let state := { state with
    s := Function.update state.s servernum fd
    calls := state.calls ++ [NtpCall.socket fd] }
  if fd < 0 then state
  else
    let ipNum := (servernum + state.lastTotalSocketnum) % 4
    let state := { state with
      buf := ntpRequest state.buf
      calls := state.calls ++ [NtpCall.sendto fd ipNum] }
    if round.sendto servernum < 0 then
      { state with
        s := Function.update state.s servernum (-1)
        calls := state.calls ++ [NtpCall.closesocket fd] }
    else
      { state with
        maxSocketnum := if state.maxSocketnum ≥ fd then state.maxSocketnum else fd
        totalSocketnum := state.totalSocketnum + 1 }

def receive (round : NtpRound) : List Nat → NtpState → NtpState
  | [], state => state
  | servernum :: rest, state =>
      if state.s servernum ≥ 0 ∧ round.ready servernum = true then
        let state := { state with
          buf := Buffer.fill state.buf 0 48
          calls := state.calls ++ [NtpCall.recvfrom (state.s servernum)] }
        let (ret, data) := round.recvfrom servernum
        if ret ≤ 0 then receive round rest state
        else { state with buf := Buffer.copy state.buf 0 data ret.toNat, retval := true }
      else receive round rest state

def selected (state : NtpState) : NtpState :=
  { state with
    lastTotalSocketnum := state.totalSocketnum
    calls := state.calls ++ [NtpCall.select (state.maxSocketnum + 1)] }

def tryRound (round : NtpRound) (state : NtpState) : NtpState :=
  let state := ((List.range 4).foldl (sendRequest round) state).selected
  if round.select ≤ 0 then state else receive round (List.range 4) state

def openConnectFrom (rounds : Nat → NtpRound) : Nat → Nat → NtpState → NtpState
  | 0, _, state => state
  | left + 1, i, state =>
      let state := state.reset
      if state.retval then state
      else openConnectFrom rounds left (i + 1) (state.tryRound (rounds i))

end NtpState

/-- `s` is what the array holds before it is written, and the result has the status in `retval`. -/
def openConnect (s : Nat → Int) (buf : Nat → UInt8) (rounds : Nat → NtpRound) : NtpState :=
  NtpState.openConnectFrom rounds 4 0 ⟨s, 0, 0, 0, false, buf, []⟩

def NtpCall.handle : NtpCall → Option (Event Int)
  | .socket fd => if 0 ≤ fd then some (.opened fd) else none
  | .closesocket fd => some (.closed fd)
  | .sendto _ _ => none
  | .select _ => none
  | .recvfrom _ => none

def openSlot (fd : Int) : Option Int :=
  if 0 ≤ fd then some fd else none

namespace NtpRound

def kept (round : NtpRound) (servernum : Nat) : Option Int :=
  if 0 ≤ round.sendto servernum then openSlot (round.socket servernum) else none

def Received (round : NtpRound) : Prop :=
  0 < round.select ∧ ∃ servernum < 4, round.kept servernum ≠ none ∧
    round.ready servernum = true ∧ 0 < (round.recvfrom servernum).1

end NtpRound

namespace NtpState

def log (state : NtpState) : List (Event Int) :=
  state.calls.filterMap NtpCall.handle

def slots (state : NtpState) (servernum : Nat) : Option Int :=
  openSlot (state.s servernum)

variable {state : NtpState} {round : NtpRound} {servernum : Nat}

/-- The four variables hold the sockets that are open. -/
def Kept (state : NtpState) : Prop := Accounts state.log state.slots 4

theorem Kept.same {after : NtpState} (kept : state.Kept) (log : after.log = state.log)
    (s : after.s = state.s) : after.Kept := by
  have slots : after.slots = state.slots := congrArg (fun s index => openSlot (s index)) s
  rw [Kept, log, slots]
  exact kept

theorem openSlot_update (s : Nat → Int) (servernum : Nat) (fd : Int) :
    (fun index => openSlot (Function.update s servernum fd index)) =
      Function.update (fun index => openSlot (s index)) servernum (openSlot fd) := by
  funext index
  by_cases same : index = servernum
  · rw [same, Function.update_self, Function.update_self]
  · rw [Function.update_of_ne same, Function.update_of_ne same]

theorem closeSlot_slots (state : NtpState) (servernum : Nat) :
    (state.closeSlot servernum).slots = Function.update state.slots servernum none :=
  openSlot_update state.s servernum (-1)

theorem closeSlot_log (state : NtpState) (servernum : Nat) :
    (state.closeSlot servernum).log =
      state.log ++ ((state.slots servernum).map Event.closed).toList := by
  by_cases opened : 0 ≤ state.s servernum
  · simp [closeSlot, log, slots, openSlot, opened, NtpCall.handle]
  · simp [closeSlot, log, slots, openSlot, opened]

theorem closeSlot_kept (kept : state.Kept) (inside : servernum < 4) :
    (state.closeSlot servernum).Kept := by
  rw [Kept, closeSlot_slots, closeSlot_log]
  cases holds : state.slots servernum with
  | none =>
      have same := Function.update_eq_self servernum state.slots
      rw [holds] at same
      rw [same]
      simpa [Kept] using kept
  | some fd => exact Accounts.close_slot kept inside holds

/-- After the first `count` turns of the closing loop. -/
theorem closeSlots_kept {count : Nat} (kept : state.Kept) (few : count ≤ 4) :
    let closed := (List.range count).foldl closeSlot state
    closed.Kept ∧ (∀ index < count, closed.slots index = none) ∧
      (∀ index ≥ count, closed.s index = state.s index) ∧ closed.retval = state.retval := by
  induction count with
  | zero =>
      exact ⟨kept, fun index below => absurd below (Nat.not_lt_zero index), fun _ _ => rfl, rfl⟩
  | succ count ih =>
      obtain ⟨earlier, empty, later, same⟩ := ih (by omega)
      rw [List.range_succ, List.foldl_concat]
      refine ⟨closeSlot_kept earlier few, ?_, ?_, same⟩
      · intro index below
        rw [closeSlot_slots]
        by_cases last : index = count
        · rw [last, Function.update_self]
        · rw [Function.update_of_ne last]
          exact empty index (by omega)
      · intro index above
        exact (Function.update_of_ne (by omega) _ _).trans (later index (by omega))

theorem reset_kept (kept : state.Kept) :
    state.reset.Kept ∧ (∀ index < 4, state.reset.slots index = none) ∧
      state.reset.retval = state.retval := by
  have started : ({ state with maxSocketnum := 0 } : NtpState).Kept := kept
  obtain ⟨closed, empty, -, same⟩ := closeSlots_kept started (Nat.le_refl 4)
  exact ⟨closed, empty, same⟩

/-- What the request to a server does: no socket, one that is closed again, or one that stays. -/
theorem sendRequest_cases (state : NtpState) (round : NtpRound) (servernum : Nat) :
    let fd := round.socket servernum
    let sent := state.sendRequest round servernum
    fd < 0 ∧ sent.s = Function.update state.s servernum fd ∧ sent.log = state.log ∨
      0 ≤ fd ∧ round.sendto servernum < 0 ∧ sent.s = Function.update state.s servernum (-1) ∧
        sent.log = state.log ++ [.opened fd] ++ [.closed fd] ∨
      0 ≤ fd ∧ 0 ≤ round.sendto servernum ∧ sent.s = Function.update state.s servernum fd ∧
        sent.log = state.log ++ [.opened fd] := by
  by_cases failed : round.socket servernum < 0
  · refine .inl ⟨failed, by simp [sendRequest, failed], ?_⟩
    simp [sendRequest, failed, log, NtpCall.handle]
  · have opened : 0 ≤ round.socket servernum := Int.not_lt.mp failed
    by_cases lost : round.sendto servernum < 0
    · refine .inr (.inl ⟨opened, lost, by simp [sendRequest, failed, lost], ?_⟩)
      simp [sendRequest, failed, lost, log, NtpCall.handle, opened]
      rfl
    · refine .inr (.inr ⟨opened, Int.not_lt.mp lost, by simp [sendRequest, failed, lost], ?_⟩)
      simp [sendRequest, failed, lost, log, NtpCall.handle, opened]

theorem sendRequest_retval (state : NtpState) (round : NtpRound) (servernum : Nat) :
    (state.sendRequest round servernum).retval = state.retval := by
  unfold sendRequest
  dsimp only
  split
  · rfl
  · split
    · rfl
    · rfl

theorem slots_update {after : NtpState} {fd : Int}
    (written : after.s = Function.update state.s servernum fd) :
    after.slots = Function.update state.slots servernum (openSlot fd) := by
  have same := openSlot_update state.s servernum fd
  rw [← written] at same
  exact same

theorem sendRequest_slots (state : NtpState) (round : NtpRound) (servernum : Nat) :
    (state.sendRequest round servernum).slots =
      Function.update state.slots servernum (round.kept servernum) := by
  rcases sendRequest_cases state round servernum with
    ⟨failed, written, -⟩ | ⟨-, lost, written, -⟩ | ⟨-, sent, written, -⟩
  · have none_ : openSlot (round.socket servernum) = none := if_neg (Int.not_le.mpr failed)
    have kept : round.kept servernum = none := by simp [NtpRound.kept, none_]
    rw [slots_update written, none_, kept]
  · have kept : round.kept servernum = none := if_neg (Int.not_le.mpr lost)
    rw [slots_update written, kept]
    rfl
  · have kept : round.kept servernum = openSlot (round.socket servernum) := if_pos sent
    rw [slots_update written, kept]

theorem sendRequest_kept (kept : state.Kept) (inside : servernum < 4)
    (empty : state.slots servernum = none) : (state.sendRequest round servernum).Kept := by
  have unchanged := Function.update_eq_self servernum state.slots
  rw [empty] at unchanged
  rcases sendRequest_cases state round servernum with
    ⟨failed, written, logged⟩ | ⟨opened, -, written, logged⟩ | ⟨opened, -, written, logged⟩
  · have none_ : openSlot (round.socket servernum) = none := if_neg (Int.not_le.mpr failed)
    rw [Kept, slots_update written, logged, none_, unchanged]
    exact kept
  · have returned := (Accounts.open_slot kept inside empty (round.socket servernum)).close_slot
      inside (Function.update_self ..)
    rw [Function.update_idem] at returned
    rw [Kept, slots_update written, logged]
    exact returned
  · have some_ : openSlot (round.socket servernum) = some (round.socket servernum) := if_pos opened
    rw [Kept, slots_update written, logged, some_]
    exact Accounts.open_slot kept inside empty (round.socket servernum)

/-- After the first `count` requests. -/
theorem sendRequests_kept {count : Nat} (kept : state.Kept) (few : count ≤ 4)
    (empty : ∀ index < 4, state.slots index = none) :
    let sent := (List.range count).foldl (sendRequest round) state
    sent.Kept ∧ (∀ index < count, sent.slots index = round.kept index) ∧
      (∀ index < 4, count ≤ index → sent.slots index = none) ∧ sent.retval = state.retval := by
  induction count with
  | zero =>
      exact ⟨kept, fun index below => absurd below (Nat.not_lt_zero index),
        fun index inside _ => empty index inside, rfl⟩
  | succ count ih =>
      obtain ⟨earlier, filled, later, same⟩ := ih (by omega)
      rw [List.range_succ, List.foldl_concat]
      refine ⟨sendRequest_kept earlier few (later count few (Nat.le_refl count)), ?_, ?_,
        (sendRequest_retval ..).trans same⟩
      · intro index below
        rw [sendRequest_slots]
        by_cases last : index = count
        · rw [last, Function.update_self]
        · rw [Function.update_of_ne last]
          exact filled index (by omega)
      · intro index inside above
        rw [sendRequest_slots, Function.update_of_ne (by omega)]
        exact later index inside (by omega)

/-- Receiving leaves the sockets alone, and succeeds if one of those that are ready has something. -/
theorem receive_spec (round : NtpRound) (servers : List Nat) (state : NtpState) :
    let received := receive round servers state
    received.log = state.log ∧ received.s = state.s ∧
      (received.retval = true ↔ state.retval = true ∨ ∃ servernum ∈ servers,
        state.slots servernum ≠ none ∧ round.ready servernum = true ∧
          0 < (round.recvfrom servernum).1) := by
  induction servers generalizing state with
  | nil => simp [receive]
  | cons servernum rest ih =>
      have slot : state.slots servernum ≠ none ↔ 0 ≤ state.s servernum := by
        simp [slots, openSlot]
      rw [receive]
      by_cases asked : state.s servernum ≥ 0 ∧ round.ready servernum = true
      · obtain ⟨holds, ready⟩ := asked
        have logged : (state.calls ++ [NtpCall.recvfrom (state.s servernum)]).filterMap
            NtpCall.handle = state.log := by
          simp [log, NtpCall.handle]
        rw [if_pos ⟨holds, ready⟩]
        by_cases nothing : (round.recvfrom servernum).1 ≤ 0
        · obtain ⟨sameLog, sameS, later⟩ := ih { state with
            buf := Buffer.fill state.buf 0 48
            calls := state.calls ++ [NtpCall.recvfrom (state.s servernum)] }
          simp only [nothing, if_true]
          refine ⟨sameLog.trans logged, sameS, later.trans ?_⟩
          simp only [List.exists_mem_cons_iff, Int.not_lt.mpr nothing, and_false, false_or]
          rfl
        · simp only [nothing, if_false]
          refine ⟨logged, trivial, iff_of_true trivial (.inr ⟨servernum, List.mem_cons_self, ?_⟩)⟩
          exact ⟨slot.mpr holds, ready, Int.not_le.mp nothing⟩
      · rw [if_neg asked]
        obtain ⟨sameLog, sameS, later⟩ := ih state
        refine ⟨sameLog, sameS, later.trans ?_⟩
        have silent : ¬(state.slots servernum ≠ none ∧ round.ready servernum = true ∧
            0 < (round.recvfrom servernum).1) := by
          rintro ⟨holds, ready, -⟩
          exact asked ⟨slot.mp holds, ready⟩
        simp only [List.exists_mem_cons_iff, silent, false_or]

theorem tryRound_kept (kept : state.Kept) (empty : ∀ index < 4, state.slots index = none)
    (waits : state.retval = false) (round : NtpRound) :
    (state.tryRound round).Kept ∧
      (∀ index < 4, (state.tryRound round).slots index = round.kept index) ∧
      ((state.tryRound round).retval = true ↔ round.Received) := by
  obtain ⟨sent, filled, -, same⟩ := @sendRequests_kept state round 4 kept (Nat.le_refl 4) empty
  generalize reached : (List.range 4).foldl (sendRequest round) state = after at sent filled same
  have waiting : after.selected.Kept := sent.same (by simp [selected, log, NtpCall.handle]) rfl
  rw [tryRound, reached]
  by_cases timeout : round.select ≤ 0
  · simp only [timeout, if_true]
    refine ⟨waiting, filled, iff_of_false ?_ fun received => ?_⟩
    · rw [selected, same, waits]
      exact Bool.false_ne_true
    · have answered := received.1
      omega
  · simp only [timeout, if_false]
    obtain ⟨sameLog, sameS, success⟩ := receive_spec round (List.range 4) after.selected
    have sameSlots (index : Nat) := congrArg (fun s => openSlot (s index)) sameS
    have answered : 0 < round.select := Int.not_le.mp timeout
    have failed : after.selected.retval = false := same.trans waits
    refine ⟨waiting.same sameLog sameS, fun index inside => (sameSlots index).trans
      (filled index inside), success.trans ?_⟩
    rw [failed, NtpRound.Received]
    simp only [answered, true_and, Bool.false_eq_true, false_or, List.mem_range]
    constructor
    · rintro ⟨servernum, inside, holds, rest⟩
      exact ⟨servernum, inside, filled servernum inside ▸ holds, rest⟩
    · rintro ⟨servernum, inside, holds, rest⟩
      exact ⟨servernum, inside, (filled servernum inside).symm ▸ holds, rest⟩

theorem openConnectFrom_done (rounds : Nat → NtpRound) (left i : Nat) (kept : state.Kept)
    (done : state.retval = true) : Released (openConnectFrom rounds (left + 1) i state).log := by
  obtain ⟨closed, empty, same⟩ := reset_kept kept
  rw [openConnectFrom]
  rw [if_pos (same.trans done)]
  exact closed.released_iff.mpr empty

/-- A round that is made, with what the next one finds. -/
theorem openConnectFrom_turn (rounds : Nat → NtpRound) (left i : Nat) (kept : state.Kept)
    (waits : state.retval = false) : ∃ next : NtpState,
      openConnectFrom rounds (left + 1) i state = openConnectFrom rounds left (i + 1) next ∧
        next.Kept ∧ (∀ index < 4, next.slots index = (rounds i).kept index) ∧
        (next.retval = true ↔ (rounds i).Received) := by
  obtain ⟨closed, empty, same⟩ := reset_kept kept
  refine ⟨state.reset.tryRound (rounds i), ?_, tryRound_kept closed empty (same.trans waits) _⟩
  rw [openConnectFrom]
  refine if_neg ?_
  rw [same, waits]
  exact Bool.false_ne_true

/-- The sockets of the last round that is made are the ones that stay open. -/
theorem openConnectFrom_released_iff (rounds : Nat → NtpRound) (left i : Nat) (kept : state.Kept) :
    Released (openConnectFrom rounds (left + 1) i state).log ↔ state.retval = true ∨
      (∃ later < left, (rounds (i + later)).Received) ∨
        ∀ servernum < 4, (rounds (i + left)).kept servernum = none := by
  induction left generalizing i state with
  | zero =>
      cases done : state.retval with
      | true => exact iff_of_true (openConnectFrom_done rounds 0 i kept done) (.inl rfl)
      | false =>
          obtain ⟨next, turn, tried, filled, -⟩ := openConnectFrom_turn rounds 0 i kept done
          rw [turn, openConnectFrom, tried.released_iff]
          constructor
          · intro empty
            exact .inr (.inr fun index inside =>
              (filled index inside).symm.trans (empty index inside))
          · rintro (received | ⟨_, none_, _⟩ | empty)
            · cases received
            · exact absurd none_ (Nat.not_lt_zero _)
            · exact fun index inside => (filled index inside).trans (empty index inside)
  | succ left ih =>
      cases done : state.retval with
      | true => exact iff_of_true (openConnectFrom_done rounds (left + 1) i kept done) (.inl rfl)
      | false =>
          obtain ⟨next, turn, tried, -, success⟩ :=
            openConnectFrom_turn rounds (left + 1) i kept done
          have shift (later : Nat) : i + 1 + later = i + (later + 1) := by omega
          have first : (∃ later < left + 1, (rounds (i + later)).Received) ↔
              (rounds i).Received ∨ ∃ later < left, (rounds (i + (later + 1))).Received :=
            Nat.exists_lt_succ_left
          simp only [turn, ih (i + 1) tried, success, shift, first, or_assoc, Bool.false_eq_true,
            false_or]

section Log

def Continues (before after : NtpState) : Prop :=
  ∃ more, after.log = before.log ++ more

theorem Continues.trans {first second third : NtpState} (one : first.Continues second)
    (two : second.Continues third) : first.Continues third := by
  obtain ⟨some_, first_⟩ := one
  obtain ⟨more, second_⟩ := two
  exact ⟨some_ ++ more, by rw [second_, first_, List.append_assoc]⟩

theorem foldl_continues {step : NtpState → Nat → NtpState}
    (continues : ∀ (state : NtpState) servernum, state.Continues (step state servernum))
    (servers : List Nat) (state : NtpState) : state.Continues (servers.foldl step state) := by
  induction servers generalizing state with
  | nil => exact ⟨[], (List.append_nil _).symm⟩
  | cons servernum rest ih => exact (continues state servernum).trans (ih _)

theorem closeSlot_continues (state : NtpState) (servernum : Nat) :
    state.Continues (state.closeSlot servernum) :=
  ⟨_, closeSlot_log state servernum⟩

theorem sendRequest_continues (round : NtpRound) (state : NtpState) (servernum : Nat) :
    state.Continues (state.sendRequest round servernum) := by
  rcases sendRequest_cases state round servernum with
    ⟨-, -, logged⟩ | ⟨-, -, -, logged⟩ | ⟨-, -, -, logged⟩
  · exact ⟨[], logged.trans (List.append_nil _).symm⟩
  · exact ⟨_, logged.trans (List.append_assoc ..)⟩
  · exact ⟨_, logged⟩

theorem tryRound_continues (round : NtpRound) (state : NtpState) :
    state.Continues (state.tryRound round) := by
  have sent := foldl_continues (sendRequest_continues round) (List.range 4) state
  have waiting : state.Continues ((List.range 4).foldl (sendRequest round) state).selected :=
    sent.trans ⟨[], by simp [selected, log, NtpCall.handle]⟩
  rw [tryRound]
  split
  · exact waiting
  · exact waiting.trans ⟨[], (receive_spec ..).1.trans (List.append_nil _).symm⟩

theorem reset_continues (state : NtpState) : state.Continues state.reset :=
  foldl_continues closeSlot_continues (List.range 4) { state with maxSocketnum := 0 }

theorem openConnectFrom_continues (rounds : Nat → NtpRound) (left i : Nat) (state : NtpState) :
    state.reset.Continues (openConnectFrom rounds (left + 1) i state) := by
  induction left generalizing i state with
  | zero =>
      rw [openConnectFrom]
      split
      · exact ⟨[], (List.append_nil _).symm⟩
      · exact tryRound_continues (rounds i) state.reset
  | succ left ih =>
      rw [openConnectFrom]
      split
      · exact ⟨[], (List.append_nil _).symm⟩
      · exact (tryRound_continues (rounds i) state.reset).trans
          ((reset_continues _).trans (ih (i + 1) _))

theorem closeSlots_log {count : Nat} (empty : ∀ index < count, state.slots index = none) :
    ((List.range count).foldl closeSlot state).log = state.log ∧
      ∀ index ≥ count, ((List.range count).foldl closeSlot state).slots index = state.slots index := by
  induction count with
  | zero => exact ⟨rfl, fun _ _ => rfl⟩
  | succ count ih =>
      obtain ⟨logged, later⟩ := ih fun index below => empty index (by omega)
      rw [List.range_succ, List.foldl_concat, closeSlot_log, closeSlot_slots, logged,
        later count (Nat.le_refl count), empty count (Nat.lt_succ_self count)]
      refine ⟨List.append_nil _, fun index above => ?_⟩
      rw [Function.update_of_ne (by omega)]
      exact later index (by omega)

/-- A number that happens to be in one of the variables is closed before any socket is opened. -/
theorem closeSlots_strays (fresh : state.log = []) {count : Nat}
    (stray : ∃ index < count, state.slots index ≠ none) :
    ∃ fd more, ((List.range count).foldl closeSlot state).log = .closed fd :: more := by
  induction count with
  | zero => exact absurd stray.choose_spec.1 (Nat.not_lt_zero _)
  | succ count ih =>
      rw [List.range_succ, List.foldl_concat, closeSlot_log]
      by_cases earlier : ∃ index < count, state.slots index ≠ none
      · obtain ⟨fd, more, closed⟩ := ih earlier
        exact ⟨fd, _, by rw [closed, List.cons_append]⟩
      · have clear (index : Nat) (below : index < count) : state.slots index = none := by
          cases holds : state.slots index with
          | none => rfl
          | some fd => exact absurd ⟨index, below, by rw [holds]; nofun⟩ earlier
        obtain ⟨logged, later⟩ := closeSlots_log clear
        have last : state.slots count ≠ none := by
          obtain ⟨index, below, holds⟩ := stray
          by_cases same : index = count
          · exact same ▸ holds
          · exact absurd (clear index (by omega)) holds
        obtain ⟨fd, holds⟩ := Option.ne_none_iff_exists'.mp last
        rw [logged, fresh, later count (Nat.le_refl count), holds]
        exact ⟨fd, [], rfl⟩

end Log

end NtpState

/-- Nothing strange is in the array, and the sockets of the last round do not stay open: the time
comes before it, or it ends with none. -/
def ReleasesSockets (s : Nat → Int) (rounds : Nat → NtpRound) : Prop :=
  (∀ servernum < 4, s servernum < 0) ∧
    ((∃ i < 3, (rounds i).Received) ∨ ∀ servernum < 4, (rounds 3).kept servernum = none)

theorem openSlot_eq_none (fd : Int) : openSlot fd = none ↔ fd < 0 := by
  simp [openSlot]

theorem open_connect_releases_iff (s : Nat → Int) (buf : Nat → UInt8) (rounds : Nat → NtpRound) :
    Released (openConnect s buf rounds).log ↔ ReleasesSockets s rounds := by
  by_cases clean : ∀ servernum < 4, s servernum < 0
  · have kept : NtpState.Kept ⟨s, 0, 0, 0, false, buf, []⟩ :=
      accounts_nil fun servernum inside => (openSlot_eq_none _).mpr (clean servernum inside)
    have released := NtpState.openConnectFrom_released_iff rounds 3 0 kept
    simp only [Bool.false_eq_true, false_or, Nat.zero_add] at released
    rw [openConnect, released, ReleasesSockets]
    exact (and_iff_right clean).symm
  · refine iff_of_false ?_ fun releases => clean releases.1
    rintro ⟨owned, -⟩
    have stray : ∃ servernum < 4, openSlot (s servernum) ≠ none := by
      simpa [openSlot_eq_none] using clean
    obtain ⟨fd, more, closed⟩ :=
      @NtpState.closeSlots_strays ⟨s, 0, 0, 0, false, buf, []⟩ rfl 4 stray
    obtain ⟨rest, continues⟩ :=
      NtpState.openConnectFrom_continues rounds 3 0 ⟨s, 0, 0, 0, false, buf, []⟩
    have first : (openConnect s buf rounds).log = [.closed fd] ++ (more ++ rest) := by
      refine continues.trans ?_
      exact congrArg (· ++ rest) closed
    rw [first] at owned
    exact not_owned_of_closed fd owned.left

def silentRound : NtpRound where
  socket := fun servernum => servernum
  sendto := fun _ => 48
  select := 0
  ready := fun _ => false
  recvfrom := fun _ => (0, fun _ => 0)

/-- The last four sockets stay open; and what is in the array before is closed. -/
theorem silent_servers_leak :
    ¬(∀ s buf rounds, Released (openConnect s buf rounds).log) ∧
      opens (openConnect (fun _ => -1) (fun _ => 0) fun _ => silentRound).log 0 = 4 ∧
      closes (openConnect (fun _ => -1) (fun _ => 0) fun _ => silentRound).log 0 = 3 ∧
      (openConnect (fun _ => 7) (fun _ => 0) fun _ => silentRound).calls.head? =
        some (.closesocket 7) := by
  have opened : opens (openConnect (fun _ => -1) (fun _ => 0) fun _ => silentRound).log 0 = 4 := by
    decide
  have closed : closes (openConnect (fun _ => -1) (fun _ => 0) fun _ => silentRound).log 0 = 3 := by
    decide
  refine ⟨fun claim => ?_, opened, closed, by decide⟩
  have settled := (claim (fun _ => -1) (fun _ => 0) fun _ => silentRound).2 0
  rw [opened, closed] at settled
  cases settled

end SmartMeter
