import SmartMeter.Udp.SocketRecord

/-!
The sockets that are open against the one descriptor the record can name. `CreateUdpSock`
writes a new descriptor over the old one without closing it.
-/

namespace SmartMeter

open Runs

def WifiTask.named (task : WifiTask) : List Int :=
  match task.userSock with
  | some sock => if 0 ≤ sock.socketNum then [sock.socketNum] else []
  | none => []

structure Bookkeeping (task : WifiTask) : Prop where
  connected : ∀ sock, task.userSock = some sock → sock.connStatus = 1 →
    0 ≤ sock.socketNum ∧ sock.socketNum ∈ task.network.opened
  opened : task.network.opened = task.named

def Consistent (state : Option WifiTask) : Prop :=
  ∀ task, state = some task → Bookkeeping task

/-- The Wi-Fi task calls `SocketUdp` only while the record names no socket. -/
def OpensWhileClosed : Option WifiTask → WifiEvent → Prop
  | some task, .wifiTask _ => task.retrying = true ∨ task.takes = some .netUp →
      ∀ sock, task.userSock = some sock → sock.socketNum < 0
  | _, _ => True

section Bookkeeping

variable {task after : WifiTask} {sock updated : UserSock}

theorem named_of_valid (present : task.userSock = some sock) (valid : 0 ≤ sock.socketNum) :
    task.named = [sock.socketNum] := by
  simp [WifiTask.named, present, valid]

theorem named_of_invalid (present : task.userSock = some sock) (invalid : sock.socketNum < 0) :
    task.named = [] := by
  simp [WifiTask.named, present, invalid]

theorem Bookkeeping.of_open (present : task.userSock = some sock) (valid : 0 ≤ sock.socketNum)
    (opened : task.network.opened = [sock.socketNum]) : Bookkeeping task := by
  refine ⟨?_, opened.trans (named_of_valid present valid).symm⟩
  intro other found _
  obtain rfl : sock = other := Option.some.inj (present.symm.trans found)
  exact ⟨valid, by simp [opened]⟩

theorem Bookkeeping.of_closed (present : task.userSock = some sock) (invalid : sock.socketNum < 0)
    (unconnected : sock.connStatus ≠ 1) (opened : task.network.opened = []) : Bookkeeping task := by
  refine ⟨?_, opened.trans (named_of_invalid present invalid).symm⟩
  intro other found connected
  obtain rfl : sock = other := Option.some.inj (present.symm.trans found)
  exact absurd connected unconnected

theorem Bookkeeping.congr (kept : Bookkeeping task) (record : after.userSock = task.userSock)
    (network : after.network.opened = task.network.opened) : Bookkeeping after := by
  refine ⟨?_, ?_⟩
  · rw [record, network]
    exact kept.connected
  · rw [network, kept.opened]
    simp only [WifiTask.named, record]

/-- Nothing but the descriptor and the status of the record counts. -/
theorem Bookkeeping.update (kept : Bookkeeping task) (present : task.userSock = some sock)
    (record : after.userSock = some updated) (status : updated.connStatus = sock.connStatus)
    (num : updated.socketNum = sock.socketNum)
    (network : after.network.opened = task.network.opened) : Bookkeeping after := by
  refine ⟨?_, ?_⟩
  · intro other found connected
    obtain rfl : updated = other := Option.some.inj (record.symm.trans found)
    rw [num, network]
    exact kept.connected sock present (status.symm.trans connected)
  · rw [network, kept.opened]
    simp only [WifiTask.named, record, present, num]

theorem Bookkeeping.signalled (kept : Bookkeeping task) (signals : Signals task after) :
    Bookkeeping after :=
  kept.congr signals.userSock (congrArg Network.opened signals.network)

theorem Bookkeeping.closed (kept : Bookkeeping task) (present : task.userSock = some sock)
    (invalid : sock.socketNum < 0) : sock.connStatus ≠ 1 ∧ task.network.opened = [] := by
  refine ⟨?_, kept.opened.trans (named_of_invalid present invalid)⟩
  intro connected
  have valid := (kept.connected sock present connected).1
  omega

theorem closesocket_opened (kept : Bookkeeping task) (present : task.userSock = some sock) :
    (task.network.closesocket sock.socketNum).opened = [] := by
  unfold Network.closesocket
  rw [kept.opened]
  by_cases valid : 0 ≤ sock.socketNum
  · simp [named_of_valid present valid]
  · simp [named_of_invalid present (by omega)]

theorem closeUdpSock_bookkeeping (kept : Bookkeeping task) (done : closeUdpSock task = some after) :
    Bookkeeping after := by
  cases present : task.userSock with
  | none => simp [closeUdpSock, present] at done
  | some sock =>
      obtain ⟨result, updated, closes, record, _, _, _, fate⟩ := closeUdpSock_cases present
      obtain rfl : result = after := Option.some.inj (closes.symm.trans done)
      rcases fate with ⟨valid, opened, rfl⟩ | ⟨_, opened, rfl⟩
      · refine Bookkeeping.of_closed record (by simp) (by simp) ?_
        rw [opened]
        exact closesocket_opened kept present
      · exact kept.congr (record.trans present.symm) opened

theorem createUdpSock_bookkeeping (kept : Bookkeeping task) (present : task.userSock = some sock)
    (invalid : sock.socketNum < 0) {outcome : Outcome}
    (done : createUdpSock task outcome = some after) : Bookkeeping after := by
  obtain ⟨unconnected, empty⟩ := kept.closed present invalid
  obtain ⟨result, updated, creates, record, _, _, _, fate⟩ := createUdpSock_cases present outcome
  obtain rfl : result = after := Option.some.inj (creates.symm.trans done)
  rcases fate with ⟨slot, valid, _, opened, rfl⟩ | ⟨opened, rfl | rfl⟩
  · exact Bookkeeping.of_open record valid (by rw [opened, empty])
  · exact Bookkeeping.of_closed record (by simp) (by simp) (opened.trans empty)
  · exact Bookkeeping.of_closed record (by simp) unconnected (opened.trans empty)

/-- The old socket stays open, and the record no longer names it. -/
theorem createUdpSock_leaks (kept : Bookkeeping task) (present : task.userSock = some sock)
    (valid : 0 ≤ sock.socketNum) (outcome : Outcome) :
    ∃ after, createUdpSock task outcome = some after ∧ ¬Bookkeeping after := by
  have opened := kept.opened.trans (named_of_valid present valid)
  obtain ⟨after, updated, creates, record, _, _, _, fate⟩ := createUdpSock_cases present outcome
  refine ⟨after, creates, ?_⟩
  intro still
  have same := still.opened
  rcases fate with ⟨slot, real, _, more, rfl⟩ | ⟨more, rfl | rfl⟩
  · rw [more, opened, named_of_valid record real] at same
    cases same
  · rw [more, opened, named_of_invalid record (by simp)] at same
    cases same
  · rw [more, opened, named_of_invalid record (by simp)] at same
    cases same

theorem socketUdp_bookkeeping (kept : Bookkeeping task)
    (closed : ∀ sock, task.userSock = some sock → sock.socketNum < 0) {outcome : Outcome}
    (done : socketUdp task outcome = some after) : Bookkeeping after := by
  cases present : task.userSock with
  | some sock =>
      simp only [socketUdp, present] at done
      exact createUdpSock_bookkeeping kept present (closed sock present) done
  | none =>
      simp only [socketUdp, present] at done
      split at done
      · have empty : task.network.opened = [] := by
          rw [kept.opened]
          simp only [WifiTask.named, present]
        refine createUdpSock_bookkeeping ?_ rfl (by simp [UserSock.allocated]) done
        exact Bookkeeping.of_closed rfl (by simp [UserSock.allocated]) (by simp [UserSock.allocated]) empty
      · obtain rfl := Option.some.inj done
        exact kept

theorem socketUdp_leaks (kept : Bookkeeping task)
    (stillOpen : ¬∀ sock, task.userSock = some sock → sock.socketNum < 0) (outcome : Outcome) :
    ∃ after, socketUdp task outcome = some after ∧ ¬Bookkeeping after := by
  cases present : task.userSock with
  | none => exact absurd (by simp [present]) stillOpen
  | some sock =>
      have valid : 0 ≤ sock.socketNum := by
        simp only [present, Option.some.injEq, forall_eq'] at stillOpen
        omega
      simp only [socketUdp, present]
      exact createUdpSock_leaks kept present valid outcome

theorem socketSnd_bookkeeping (kept : Bookkeeping task) {outcome : Outcome}
    (done : socketSnd task outcome = some after) : Bookkeeping after := by
  cases present : task.userSock with
  | none => simp [socketSnd, present] at done
  | some sock =>
      simp only [socketSnd, present] at done
      split at done
      · split at done
        · obtain rfl := Option.some.inj done
          exact kept
        · obtain rfl := Option.some.inj done
          split
          · exact kept.update present (post_userSock _ _) rfl rfl (by simp)
          · exact kept.update present rfl rfl rfl rfl
      · obtain rfl := Option.some.inj done
        exact kept

theorem handleMsg_bookkeeping (kept : Bookkeeping task) {outcome : Outcome} {msg : Msg}
    (closed : msg = .netUp → ∀ sock, task.userSock = some sock → sock.socketNum < 0)
    (done : task.handleMsg outcome msg = some after) : Bookkeeping after := by
  cases msg with
  | netUp =>
      exact @socketUdp_bookkeeping { task with oneshotflag := 0 } after (kept.congr rfl rfl)
        (closed rfl) outcome done
  | netDown => exact closeUdpSock_bookkeeping kept done
  | socketSnd => exact socketSnd_bookkeeping kept done
  | oneshot | key | socketErr =>
      obtain rfl := Option.some.inj done
      exact kept.congr rfl rfl

theorem wifiTaskProc_bookkeeping (kept : Bookkeeping task) {outcome : Outcome}
    (closed : OpensWhileClosed (some task) (.wifiTask outcome))
    (done : wifiTaskProc task outcome = some after) : Bookkeeping after := by
  rcases wifiTaskProc_cases task outcome with
    ⟨waiting, _, resumed⟩ | ⟨_, _, blocked⟩ | ⟨_, msg, queue, _, takes, taken⟩
  · rw [resumed] at done
    exact @socketUdp_bookkeeping { task with retrying := false } after (kept.congr rfl rfl)
      (closed (.inl waiting)) outcome done
  · obtain rfl := Option.some.inj (blocked.symm.trans done)
    exact kept
  · rw [taken] at done
    refine @handleMsg_bookkeeping { task with queue := queue } after (kept.congr rfl rfl) outcome msg ?_ done
    rintro rfl
    exact closed (.inr takes)

theorem wifiTaskProc_leaks (kept : Bookkeeping task) {outcome : Outcome}
    (opens : ¬OpensWhileClosed (some task) (.wifiTask outcome)) :
    ∃ after, wifiTaskProc task outcome = some after ∧ ¬Bookkeeping after := by
  simp only [OpensWhileClosed, Classical.not_imp] at opens
  obtain ⟨calls, stillOpen⟩ := opens
  rcases wifiTaskProc_cases task outcome with
    ⟨_, _, resumed⟩ | ⟨active, takes, _⟩ | ⟨active, msg, queue, _, takes, taken⟩
  · rw [resumed]
    exact @socketUdp_leaks { task with retrying := false } (kept.congr rfl rfl) stillOpen outcome
  · simp [active, takes] at calls
  · obtain rfl : msg = .netUp := by simpa [active, takes] using calls
    rw [taken]
    exact @socketUdp_leaks { task with queue := queue, oneshotflag := 0 } (kept.congr rfl rfl) stillOpen outcome

theorem received_bookkeeping (kept : Bookkeeping task) {turn : Turn}
    (done : task.received turn = some after) : Bookkeeping after := by
  cases present : task.userSock with
  | none => simp [WifiTask.received, present] at done
  | some sock =>
      simp only [WifiTask.received, present] at done
      have closed := closesocket_opened kept present
      split at done
      · split at done
        · obtain rfl := Option.some.inj done
          exact kept.update present (post_userSock _ _) rfl rfl (by simp)
        · obtain rfl := Option.some.inj done
          exact Bookkeeping.of_closed (post_userSock _ _) (by simp) (by simp) (by simpa using closed)
      · obtain rfl := Option.some.inj done
        exact Bookkeeping.of_closed (post_userSock _ _) (by simp) (by simp) (by simpa using closed)

theorem next_bookkeeping (kept : Bookkeeping task) {event : WifiEvent}
    (closed : OpensWhileClosed (some task) event) (done : task.next event = some after) :
    Bookkeeping after := by
  cases event with
  | status status =>
      obtain rfl := Option.some.inj done
      exact kept.signalled (userWlanStatusChangedEvent_signals task status)
  | keyScan =>
      obtain rfl := Option.some.inj done
      exact kept.signalled (keyScanTimerProc_signals task)
  | wifiTask outcome => exact wifiTaskProc_bookkeeping kept closed done
  | poll =>
      obtain rfl := Option.some.inj done
      unfold WifiTask.poll
      split
      · exact kept
      · split
        · exact kept.congr rfl rfl
        · exact kept
  | received turn =>
      simp only [WifiTask.next] at done
      split at done
      · exact @received_bookkeeping { task with receiving := false } after (kept.congr rfl rfl) turn done
      · obtain rfl := Option.some.inj done
        exact kept
  | others i2c gpio =>
      obtain rfl := Option.some.inj done
      exact kept.signalled (others_signals task i2c gpio)

end Bookkeeping

/-- In every state of a run the open sockets are the one the record names, exactly when
`SocketUdp` is never called while the record names one: `MSG_NET_UP`, and the retry behind
`MSG_SOCKET_ERR`, always find it closed. -/
theorem run_bookkeeping_iff (board : Board) (events : List WifiEvent) :
    (∀ before after, events = before ++ after →
      Consistent (before.foldl wifiStep (some (.boot board)))) ↔
      Along wifiStep OpensWhileClosed (some (.boot board)) events := by
  apply @reached_iff_along _ _ wifiStep Consistent Consistent
  · intro state consistent
    exact consistent
  · intro state event consistent closed after done
    cases state with
    | none => cases done
    | some task => exact next_bookkeeping (consistent task rfl) closed done
  · intro state event consistent opens still
    cases state with
    | none => exact opens trivial
    | some task =>
        cases event with
        | wifiTask outcome =>
            obtain ⟨after, done, broken⟩ := wifiTaskProc_leaks (consistent task rfl) opens
            exact broken (still after done)
        | status | keyScan | poll | received | others => exact opens trivial
  · rintro task ⟨⟩
    refine ⟨?_, rfl⟩
    intro sock present
    cases present

def ipUpTwice : List WifiEvent :=
  [.status netifIpNetUp, .status netifIpNetUp, .wifiTask granted, .wifiTask granted]

theorem ipUpTwice_not_bookkeeping :
    ¬∀ before after, ipUpTwice = before ++ after →
      Consistent (before.foldl wifiStep (some (.boot .blank))) := by
  intro every
  have final : (ipUpTwice.foldl wifiStep (some (.boot .blank))).map
      (fun task => (task.network.opened, task.named)) = some ([1, 0], [1]) := by decide +kernel
  obtain ⟨task, reached, fields⟩ := Option.map_eq_some_iff.mp final
  obtain ⟨opened, named⟩ := Prod.mk.inj fields
  have kept := (every ipUpTwice [] (List.append_nil _).symm task reached).opened
  rw [opened, named] at kept
  exact absurd kept (by decide)

end SmartMeter
