import SmartMeter.Library.Buffer

/-!
`wm_socket_fwup.c`: a firmware image that comes in packets over TCP. A packet is an operation, the
length of its data with the high byte first, and the data.
-/

namespace SmartMeter

def socketFwupStart : UInt8 := 1
def socketFwupEnd : UInt8 := 2
def socketFwupData : UInt8 := 3
def socketFwupPackSize : UInt16 := 2048

inductive SocketFwupCall
  | enter
  | request (sessionId : UInt32) (data : List UInt8)
  | exit (sessionId : UInt32)
deriving DecidableEq

/-- What `tls_fwup_enter` returns and whether `tls_fwup_request_sync` succeeds, after the calls
made so far, the present one included. -/
structure SocketFwupHost where
  enter : List SocketFwupCall → UInt32
  requestOk : List SocketFwupCall → Bool

/-- `current_pack`, `current_offset` and `session_id`. `data` is `none` for `NULL`; `calls` and
`closed` are what was called and whether the socket was closed. -/
structure SocketFwup where
  operation : UInt8
  datalen : UInt16
  data : Option (Nat → UInt8)
  currentOffset : UInt16
  sessionId : UInt32
  calls : List SocketFwupCall
  closed : Bool

def ntohs (word : UInt16) : UInt16 := word.toUInt8.toUInt16 <<< 8 + word >>> 8

/-- A copy of at most two bytes into a word whose first byte is the low one. -/
def copyLength (word : UInt16) : List UInt8 → UInt16
  | [] => word
  | [low] => (word >>> 8) <<< 8 + low.toUInt16
  | low :: high :: _ => high.toUInt16 <<< 8 + low.toUInt16

theorem ntohs_toNat {word : UInt16} {low high : Nat} (lowBound : low < 256) (highBound : high < 256)
    (bytes : word.toNat = high * 256 + low) : (ntohs word).toNat = low * 256 + high := by
  have first : word.toNat % 256 = low := by omega
  have second : word.toNat / 256 = high := by omega
  simp only [ntohs, UInt16.toNat_add, UInt16.toNat_shiftLeft, UInt8.toNat_toUInt16,
    UInt16.toNat_toUInt8, UInt16.toNat_shiftRight, UInt16.reduceToNat, Nat.shiftRight_eq_div_pow,
    Nat.shiftLeft_eq, Nat.reduceMod, Nat.reducePow, first, second]
  omega

theorem ntohs_copyLength (word : UInt16) (high low : UInt8) (rest : List UInt8) :
    (ntohs (copyLength word (high :: low :: rest))).toNat = high.toNat * 256 + low.toNat := by
  have highBound := high.toNat_lt
  have lowBound := low.toNat_lt
  apply ntohs_toNat highBound lowBound
  simp only [copyLength, UInt16.toNat_add, UInt16.toNat_shiftLeft, UInt8.toNat_toUInt16,
    UInt16.reduceToNat, Nat.shiftLeft_eq, Nat.reduceMod, Nat.reducePow]
  omega

inductive FwupRound
  | next (state : SocketFwup) (rest : List UInt8)
  | done (state : SocketFwup)

namespace SocketFwup

def freeCurrentPack (state : SocketFwup) : SocketFwup :=
  match state.data with
  | some _ => { state with sessionId := 0, operation := 0, datalen := 0, data := none }
  | none => { state with sessionId := 0 }

def finish (state : SocketFwup) : SocketFwup :=
  freeCurrentPack
    { state with calls := state.calls ++ [.exit state.sessionId], closed := true }

section Rounds

variable (host : SocketFwupHost) (state : SocketFwup) (rest : List UInt8)

/-- `rest` is the pbuf from `offset` on. The header that is not there is not waited for. -/
def recvHeader : FwupRound :=
  let read := { state with
    currentOffset := 0
    operation := rest.headD state.operation
    datalen := ntohs (copyLength state.datalen (rest.drop 1)) }
  if read.operation > socketFwupData ∨ read.operation < socketFwupStart then .done read
  else if read.operation = socketFwupStart then
    let calls := read.calls ++ [.enter]
    let entered := { read with sessionId := host.enter calls, calls := calls }
    if entered.sessionId = 0 then .done entered else .next entered (rest.drop 3)
  else .next read (rest.drop 3)

def requestPack : FwupRound :=
  let content := state.data.elim [] fun data => Buffer.toList data state.datalen.toNat
  let calls := state.calls ++ [.request state.sessionId content]
  let asked := { state with calls := calls }
  if host.requestOk calls = false then .done asked
  else if asked.operation = socketFwupEnd then .done asked.finish
  else .next { asked with operation := 0 } rest

def recvData : FwupRound :=
  let bytes := state.data.elim [] fun _ => rest.take (state.datalen - state.currentOffset).toNat
  let copied := { state with
    data := state.data.map fun data =>
      Buffer.copy data state.currentOffset.toNat (fun index => bytes.getD index 0) bytes.length
    currentOffset := state.currentOffset + UInt16.ofNat bytes.length }
  if copied.currentOffset = copied.datalen then
    requestPack host copied (rest.drop bytes.length)
  else .next copied (rest.drop bytes.length)

def recvRound : FwupRound :=
  if state.operation < socketFwupStart then recvHeader host state rest
  else if state.datalen > 0 ∧ state.datalen ≤ socketFwupPackSize then recvData host state rest
  else if state.datalen = 0 then
    if state.operation = socketFwupEnd then .done state.finish
    else .next { state with operation := 0 } rest
  else .next state rest

end Rounds

/-- `none` when the rounds do not suffice. -/
def recvLoop (host : SocketFwupHost) : Nat → SocketFwup → List UInt8 → Option SocketFwup
  | 0, _, _ => none
  | rounds + 1, state, rest =>
      match recvRound host state rest with
      | .done state => some state
      | .next state [] => some state
      | .next state (byte :: rest) => recvLoop host rounds state (byte :: rest)

def socketFwupRecv (host : SocketFwupHost) (state : SocketFwup) (pbuf : List UInt8) :
    Option SocketFwup :=
  recvLoop host (2 * pbuf.length + 2) state pbuf

/-- The network hands the pbufs over one by one until the socket is closed; it does not look at
what `socket_fwup_recv` returns. -/
def receiveAll (host : SocketFwupHost) (state : SocketFwup) (pbufs : List (List UInt8)) :
    Option SocketFwup :=
  pbufs.foldlM (fun state pbuf => if state.closed then some state else
    socketFwupRecv host state pbuf) state

def socketFwupAccept (state : SocketFwup) : SocketFwup :=
  { state with
    operation := 0
    datalen := 0
    data := some fun _ => 0
    calls := []
    closed := false }

/-- An upper bound of the rounds that are left, unless a round changes nothing. -/
def roundsLeft (state : SocketFwup) (rest : List UInt8) : Nat :=
  2 * rest.length + if state.operation < socketFwupStart then 0 else 1

theorem recvRound_progress (host : SocketFwupHost) {state next : SocketFwup}
    {rest left : List UInt8} (filled : rest ≠ []) (round : recvRound host state rest = .next next left) :
    next.roundsLeft left < state.roundsLeft rest ∨ next = state ∧ left = rest := by
  have size : 0 < rest.length := List.length_pos_iff.mpr filled
  unfold recvRound at round
  by_cases fresh : state.operation < socketFwupStart
  · left
    rw [if_pos fresh] at round
    have shorter : (rest.drop 3).length < rest.length := by
      rw [List.length_drop]
      omega
    have bound {after : SocketFwup} (here : FwupRound.next after (rest.drop 3) =
        .next next left) : next.roundsLeft left < state.roundsLeft rest := by
      cases here
      unfold roundsLeft
      rw [if_pos fresh]
      split <;> omega
    unfold recvHeader at round
    dsimp only at round
    split at round
    · cases round
    · split at round
      · split at round
        · cases round
        · exact bound round
      · exact bound round
  rw [if_neg fresh] at round
  have again {after : SocketFwup} {count : Nat} (idle : after.operation = 0) :
      after.roundsLeft (rest.drop count) < state.roundsLeft rest := by
    unfold roundsLeft
    rw [if_neg fresh, idle, if_pos (by decide), List.length_drop]
    omega
  split at round
  · unfold recvData at round
    generalize taken : state.data.elim [] (fun _ =>
      rest.take (state.datalen - state.currentOffset).toNat) = bytes at round
    dsimp only at round
    split at round
    · left
      unfold requestPack at round
      dsimp only at round
      split at round
      · cases round
      · split at round
        · cases round
        · cases round
          exact again rfl
    · cases round
      cases bytes with
      | nil =>
          right
          refine ⟨?_, rfl⟩
          cases state with
          | mk operation datalen data currentOffset sessionId calls closed =>
              cases data with
              | none => simp
              | some data => simp [Buffer.copy]
      | cons byte bytes =>
          left
          unfold roundsLeft
          dsimp only
          rw [if_neg fresh, List.length_drop, List.length_cons]
          omega
  · split at round
    · split at round
      · cases round
      · cases round
        exact .inl (@again _ 0 rfl)
    · cases round
      exact .inr ⟨rfl, rfl⟩

theorem recvLoop_stuck (host : SocketFwupHost) {state : SocketFwup} {rest : List UInt8}
    (filled : rest ≠ []) (same : recvRound host state rest = .next state rest) (rounds : Nat) :
    recvLoop host rounds state rest = none := by
  induction rounds with
  | zero => rfl
  | succ rounds ih =>
      cases rest with
      | nil => exact absurd rfl filled
      | cons byte rest =>
          rw [recvLoop, same]
          exact ih

/-- More rounds make no difference: a loop that is not at its end by then never ends. -/
theorem recvLoop_enough (host : SocketFwupHost) (state : SocketFwup) {rest : List UInt8}
    (filled : rest ≠ []) {rounds : Nat} (enough : state.roundsLeft rest < rounds) (more : Nat) :
    recvLoop host (rounds + more) state rest = recvLoop host rounds state rest := by
  induction rounds generalizing state rest more with
  | zero => omega
  | succ rounds ih =>
      rw [Nat.add_right_comm, recvLoop, recvLoop]
      cases round : recvRound host state rest with
      | done after => rfl
      | next after left =>
          cases left with
          | nil => rfl
          | cons byte left =>
              dsimp only
              rcases recvRound_progress host filled round with fewer | ⟨rfl, rfl⟩
              · exact ih _ (List.cons_ne_nil _ _) (by omega) more
              · rw [recvLoop_stuck host filled round, recvLoop_stuck host filled round]

end SocketFwup

end SmartMeter
